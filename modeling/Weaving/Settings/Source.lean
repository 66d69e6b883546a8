import Weaving.Lifecycle.ContainerError
import Weaving.Settings.Datum

namespace Weaving

/-- A source of settings: values under dotted keys, and the keys that it lists. A source
of greater priority counts before one of less. -/
structure Source where
  name : String
  priority : Int
  get? : String → Option Datum
  keys : List String

namespace Source

mutual

/-- The values of a datum under their dotted paths. A table has the paths of its entries;
an empty path adds nothing to a key. -/
def leaves (path : String) : Datum → List (String × Datum)
  | .table entries => entryLeaves path entries
  | d => [(path, d)]

def entryLeaves (path : String) : List (String × Datum) → List (String × Datum)
  | [] => []
  | (key, d) :: rest =>
    leaves (if path = "" then key else path ++ "." ++ key) d ++ entryLeaves path rest

end

/-- A source with the entries of a table. -/
def ofTable (name : String) (priority : Int) (t : Table Datum) : Source := ⟨name, priority, t.get?, t.keys⟩

/-- A source with the values of a document. What the document holds, or what is wrong with
it, is up to `parse`. -/
def ofDocument (parse : String → Except String (Table Datum)) (name : String) (priority : Option Int)
    (text : String) : Except ContainerError Source :=
  match parse text with
  | .error reason => .error (.config ("Failed to parse TOML '" ++ name ++ "': " ++ reason))
  | .ok root => .ok (ofTable name (priority.getD 0) (Table.ofList (entryLeaves "" root)))

/-- A source with values that are put there one by one. They are not taken apart. -/
def ofEntries (name : String) (priority : Option Int) (entries : List (String × Datum)) : Source :=
  ofTable name (priority.getD 50) (Table.ofList entries)

/-- The values under the keys that a source lists. A key without a value is passed over. -/
def properties (s : Source) : List (String × Datum) :=
  s.keys.filterMap fun key => (s.get? key).map (key, ·)

end Source

end Weaving
