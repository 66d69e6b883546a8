namespace Weaving

/-- Entries by key, sorted, each key once. -/
abbrev Table (α : Type) := List (String × α)

namespace Table

variable {α : Type}

def empty : Table α := []

/-- The entry of a key, put in its place or in the place of an earlier one. -/
def insert (key : String) (a : α) : Table α → Table α
  | [] => [(key, a)]
  | e :: rest =>
    if key = e.1 then (key, a) :: rest
    else if key < e.1 then (key, a) :: e :: rest
    else e :: insert key a rest

def get? (t : Table α) (key : String) : Option α := t.lookup key

/-- Entries in any order; of two entries of one key the later counts. -/
def ofList (entries : List (String × α)) : Table α :=
  entries.foldl (fun t e => t.insert e.1 e.2) empty

def keys (t : Table α) : List String := t.map Prod.fst

end Table

end Weaving
