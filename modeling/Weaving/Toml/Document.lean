import Weaving.Toml.Values

namespace Weaving.Toml

/-- A document that is read up to a line: its tables, and the header under which the next
pairs stand. -/
structure Draft where
  root : Entries
  header : Option (List String × String)

namespace Draft

def start : Draft := ⟨[], none⟩

/-- Adds a pair to the table of the current header. -/
def add (d : Draft) (path : List String) (key : String) (value : Datum) : Option Draft :=
  let add (entries : Entries) : Option Entries := entries.add path key value
  let root := match d.header with
    | none => add d.root
    | some (above, last) => Entries.followHeader last (Entries.inside add) above d.root
  root.map fun root => { d with root := root }

/-- Begins a table or, with `array`, a further table of an array. -/
def begin (d : Draft) (array : Bool) (path : List String) (key : String) : Option Draft :=
  (Entries.followHeader key (if array then Entries.extend else Entries.declare) path d.root).map
    fun root => ⟨root, some (path, key)⟩

/-- A header, from its first bracket to the end of its line. -/
def readHeader (d : Draft) (cs : List Char) : Option (Draft × List Char) :=
  match cs with
  | '[' :: '[' :: rest =>
    match readPath rest with
    | some ((path, key), ']' :: ']' :: rest) => do
      return (← d.begin true path key, ← endLine? rest)
    | _ => none
  | '[' :: rest =>
    match readPath rest with
    | some ((path, key), ']' :: rest) => do return (← d.begin false path key, ← endLine? rest)
    | _ => none
  | _ => none

/-- A pair, with the rest of its line. -/
def readPair (d : Draft) (cs : List Char) : Option (Draft × List Char) :=
  match readPath cs with
  | some ((path, key), '=' :: rest) => do
    let (value, rest) ← readValue (2 * rest.length + 2) (nestingLimit - 1) (skipSpaces rest)
    return (← d.add path key value, ← endLine? rest)
  | _ => none

/-- Reads lines to the end of the text. The fuel is the number of characters. -/
def readLines : Nat → Draft → List Char → Option Draft
  | 0, d, cs => if cs.isEmpty then some d else none
  | fuel + 1, d, cs =>
    match skipSpaces cs with
    | [] => some d
    | cs =>
      let next := match cs with
        | '[' :: _ => d.readHeader cs
        | '#' :: _ | '\n' :: _ | '\r' :: _ => (endLine? cs).map (d, ·)
        | cs => d.readPair cs
      next.bind fun (d, rest) => readLines fuel d rest

end Draft

/-- A small reader of documents to run with: the table that a document describes, unless it
is malformed. A byte order mark may stand before it. -/
def parse (text : String) : Except String (Table Datum) :=
  let cs := match text.toList with
    | '\ufeff' :: rest => rest
    | cs => cs
  match Draft.readLines cs.length .start cs with
  | none => .error "TOML parse error"
  | some d => .ok (Table.ofList (entryData d.root))

end Weaving.Toml
