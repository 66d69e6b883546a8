import Weaving.Lookup
import Weaving.Value

namespace Weaving

/-- The values that a match captured, by name. A later capture of a name replaces the
earlier one. -/
structure Captures where
  entries : List (String × Value)
  deriving DecidableEq

namespace Captures

def empty : Captures := ⟨[]⟩

def get? (c : Captures) (name : String) : Option Value := c.entries.lookup name

def insert (c : Captures) (name : String) (v : Value) : Captures :=
  ⟨(name, v) :: c.entries.filter (fun e => e.1 != name)⟩

/-- The captures of `c` with those of `d` written over them. -/
def merge (c d : Captures) : Captures :=
  d.entries.foldr (fun e acc => acc.insert e.1 e.2) c

def size (c : Captures) : Nat := c.entries.length

def isEmpty (c : Captures) : Bool := c.entries.isEmpty

section Lemmas

variable (c d : Captures) (name other : String) (v : Value)

@[simp]
theorem get?_empty : empty.get? name = none := rfl

theorem get?_insert : (c.insert name v).get? other = if other = name then some v else c.get? other := by
  by_cases h : other = name
  · simp [get?, insert, h]
  · have hne : (other == name) = false := by simp [h]
    rw [if_neg h, get?, insert, List.lookup_cons, hne]
    exact lookup_filter_ne c.entries h

theorem get?_merge : (c.merge d).get? name = (d.get? name).or (c.get? name) := by
  obtain ⟨entries⟩ := d
  induction entries with
  | nil => rfl
  | cons e rest ih =>
      obtain ⟨key, v⟩ := e
      have hstep : c.merge ⟨(key, v) :: rest⟩ = (c.merge ⟨rest⟩).insert key v := rfl
      rw [hstep, get?_insert, ih]
      by_cases h : name = key
      · simp [get?, h]
      · have hne : (name == key) = false := by simp [h]
        simp [get?, List.lookup_cons, hne, h]

end Lemmas

end Captures

end Weaving
