import Weaving.Advice.Kind

namespace Weaving

/-- Where an advice stands: its order, and its place in the aspect that declares it. -/
structure Rank where
  order : Int
  place : Option (String × Nat × AdviceKind)

namespace Rank

/-- Compares ranks; a lesser rank goes first. Orders decide. Of equal order, advice of
one aspect goes by declaration, the later one first if an after kind is among the two.
Otherwise neither goes before the other. -/
def compare (a b : Rank) : Ordering :=
  match Ord.compare a.order b.order with
  | .eq =>
    match a.place, b.place with
    | some (aspectA, positionA, kindA), some (aspectB, positionB, kindB) =>
      if aspectA ≠ aspectB then .eq
      else if kindA.isAfter || kindB.isAfter then Ord.compare positionB positionA
      else Ord.compare positionA positionB
    | _, _ => .eq
  | decided => decided

def precedes (a b : Rank) : Bool := a.compare b == .lt

end Rank

section Sorting

variable {α : Type} (rank : α → Rank)

/-- Whether no item of a list goes strictly before the given one. -/
def isFree (items : List α) (a : α) : Bool := items.all fun b => !(rank b).precedes (rank a)

/-- Takes out the first item that no other precedes. If each is preceded by another,
the first item is taken. -/
def takeFirst (a : α) (rest : List α) : α × List α :=
  match (a :: rest).findIdx? (isFree rank (a :: rest)) with
  | some i => (((a :: rest)[i]?).getD a, (a :: rest).eraseIdx i)
  | none => (a, rest)

theorem takeFirst_length (a : α) (rest : List α) :
    (takeFirst rank a rest).2.length = rest.length := by
  unfold takeFirst
  split
  · next i h =>
    have hi : i < rest.length + 1 := (List.findIdx?_eq_some_iff_findIdx_eq.1 h).1
    simp [List.length_eraseIdx, hi]
  · rfl

/-- Sorts by precedence. Items without an opinion on each other keep their order. -/
def sortByPrecedence : List α → List α
  | [] => []
  | a :: rest =>
    let next := takeFirst rank a rest
    next.1 :: sortByPrecedence next.2
termination_by items => items.length
decreasing_by
  simp only [takeFirst_length, List.length_cons]
  omega

end Sorting

end Weaving
