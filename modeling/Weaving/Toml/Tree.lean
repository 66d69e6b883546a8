import Weaving.Settings.Datum

namespace Weaving.Toml

/-- How a table came to be, which decides who may still add to it: by a header, by a
longer header that passes through it, or by a dotted key. -/
inductive Standing where
  | declared | passed | dotted
  deriving DecidableEq

/-- A document under construction. Of the tables of an array the latest stands first. -/
inductive Node where
  | value (d : Datum)
  | table (standing : Standing) (entries : List (String × Node))
  | tables (items : List (List (String × Node)))

/-- The entries of a table, in the order in which they were made. -/
abbrev Entries := List (String × Node)

namespace Entries

/-- Changes the entry of a key, or makes one at the end. -/
def modify (key : String) (f : Option Node → Option Node) : Entries → Option Entries
  | [] => (f none).map fun n => [(key, n)]
  | e :: rest =>
    if e.1 = key then (f (some e.2)).map fun n => (key, n) :: rest
    else (modify key f rest).map (e :: ·)

/-- A new entry. A key is never given twice. -/
def define (key : String) (d : Datum) (entries : Entries) : Option Entries :=
  entries.modify key fun
    | none => some (.value d)
    | some _ => none

/-- A new entry under a dotted path. The path may pass through tables that no header
declares, and ends in one that only dotted keys make. -/
def defineDotted (key : String) (d : Datum) : List String → Standing → Entries → Option Entries
  | [], standing, entries => if standing = .dotted then entries.define key d else none
  | k :: path, _, entries =>
    entries.modify k fun
      | none => (defineDotted key d path .dotted []).map (.table .dotted)
      | some (.table .declared _) => none
      | some (.table standing inner) =>
        (defineDotted key d path standing inner).map (.table standing)
      | some (.tables (latest :: others)) =>
        (defineDotted key d path .declared latest).map fun t => .tables (t :: others)
      | some _ => none

/-- A new entry of a table, under a path that may be empty. -/
def add (path : List String) (key : String) (d : Datum) (entries : Entries) : Option Entries :=
  match path with
  | [] => entries.define key d
  | path => defineDotted key d path .declared entries

/-- Follows a header and changes what its last key names. Tables on the way that are not
there are made; of an array the latest table is entered. -/
def followHeader (key : String) (f : Option Node → Option Node) :
    List String → Entries → Option Entries
  | [], entries => entries.modify key f
  | k :: path, entries =>
    entries.modify k fun
      | none => (followHeader key f path []).map (.table .passed)
      | some (.table standing inner) => (followHeader key f path inner).map (.table standing)
      | some (.tables (latest :: others)) =>
        (followHeader key f path latest).map fun t => .tables (t :: others)
      | some _ => none

/-- Declares a table. Only a table through which longer headers passed may be there. -/
def declare : Option Node → Option Node
  | none => some (.table .declared [])
  | some (.table .passed inner) => some (.table .declared inner)
  | some _ => none

/-- Begins a further table of an array. -/
def extend : Option Node → Option Node
  | none => some (.tables [[]])
  | some (.tables items) => some (.tables ([] :: items))
  | some _ => none

/-- Changes the entries of the table that a header named last. -/
def inside (f : Entries → Option Entries) : Option Node → Option Node
  | some (.table standing inner) => (f inner).map (.table standing)
  | some (.tables (latest :: others)) => (f latest).map fun t => .tables (t :: others)
  | _ => none

end Entries

mutual

def Node.datum : Node → Datum
  | .value d => d
  | .table _ entries => .table (Table.ofList (entryData entries))
  | .tables items => .array (tableData items).reverse

def entryData : List (String × Node) → List (String × Datum)
  | [] => []
  | (key, n) :: rest => (key, n.datum) :: entryData rest

def tableData : List (List (String × Node)) → List Datum
  | [] => []
  | entries :: rest => .table (Table.ofList (entryData entries)) :: tableData rest

end

end Weaving.Toml
