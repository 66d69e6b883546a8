import Weaving.Regex.Basic
import Weaving.Regex.Place

namespace Weaving.Regex

namespace Place

/-- The place behind the next character, if the set has it. -/
def step? (accepts : CharSet) : Place → Option Place
  | ⟨before, c :: after⟩ => if accepts c then some ⟨c :: before, after⟩ else none
  | ⟨_, []⟩ => none

def meets (p : Place) (holds : Anchor) : Bool := holds p.before.head? p.after.head?

/-- All places of a text from a place on. -/
def onwards (before : List Char) : List Char → List Place
  | [] => [⟨before, []⟩]
  | c :: after => ⟨before, c :: after⟩ :: onwards (c :: before) after

end Place

section Rounds

variable (step : Place → List Place)

def advance (places : List Place) : List Place := (places.flatMap step).eraseDups

/-- The places that so many rounds reach. -/
def rounds : Nat → List Place → List Place
  | 0, places => places
  | n + 1, places => rounds n (advance step places)

/-- The places that at most so many rounds reach. -/
def roundsWithin : Nat → List Place → List Place
  | 0, places => places
  | n + 1, places => roundsWithin n (places ++ advance step places).eraseDups

end Rounds

/-- The places at which a match from the given place can end. A round that consumes
nothing can be left out, so more rounds than there are places reach nothing new. -/
def ends : Regex → Place → List Place
  | empty, p => [p]
  | one accepts, p => (p.step? accepts).toList
  | anchor holds, p => if p.meets holds then [p] else []
  | seq a b, p => ((ends a p).flatMap (ends b)).eraseDups
  | either a b, p => (ends a p ++ ends b p).eraseDups
  | repeated r least most, p =>
    let enough := p.after.length + 1
    let further := match most with
      | some most => min (most - least) enough
      | none => enough
    roundsWithin (ends r) further (rounds (ends r) (min least enough) [p])

/-- Whether the expression matches somewhere in a text. -/
def isFoundIn (r : Regex) (text : String) : Bool :=
  (Place.onwards [] text.toList).any fun p => !(r.ends p).isEmpty

/-- Whether the expression matches a text from its start to its end. -/
def matchesAll (r : Regex) (text : String) : Bool :=
  (r.ends (.start text.toList)).any fun p => p.after.isEmpty

end Weaving.Regex
