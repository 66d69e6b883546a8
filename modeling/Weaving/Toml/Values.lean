import Weaving.Toml.Time
import Weaving.Toml.Tree

namespace Weaving.Toml

/-- How many keys a path may have and how many brackets may be nested, less one. -/
def nestingLimit : Nat := 80

/-- A key, bare or in quotes on one line. -/
def readKey (cs : List Char) : Option (String × List Char) :=
  match cs with
  | '"' :: rest => (readBasic (rest.length + 1) rest).map fun (k, rest) => (String.ofList k, rest)
  | '\'' :: rest => (readLiteral rest).map fun (k, rest) => (String.ofList k, rest)
  | cs =>
    match cs.takeWhile isBareChar with
    | [] => none
    | key => some (String.ofList key, cs.drop key.length)

/-- The keys of a dotted path, with the spaces around them. The fuel is the number of
characters. -/
def readKeys : Nat → Reader (List String)
  | 0, _ => none
  | fuel + 1, cs => do
    let (key, rest) ← readKey (skipSpaces cs)
    match skipSpaces rest with
    | '.' :: rest => do
      let (keys, rest) ← readKeys fuel rest
      return (key :: keys, rest)
    | rest => return ([key], rest)

/-- A path as what leads to its last key, and that key. -/
def readPath (cs : List Char) : Option ((List String × String) × List Char) := do
  let (keys, rest) ← readKeys (cs.length + 1) cs
  let key ← keys.getLast?
  if keys.length < nestingLimit then return ((keys.dropLast, key), rest) else none

/-- A value without brackets. -/
def readScalar (cs : List Char) : Option (Datum × List Char) :=
  match cs with
  | '"' :: _ | '\'' :: _ => (readText cs).map fun (s, rest) => (.text s, rest)
  | 't' :: 'r' :: 'u' :: 'e' :: rest => some (.boolean true, rest)
  | 'f' :: 'a' :: 'l' :: 's' :: 'e' :: rest => some (.boolean false, rest)
  | cs =>
    if startsMoment cs then (readMoment cs).map fun (m, rest) => (.moment m, rest)
    else readNumber cs

mutual

/-- A value. The fuel is twice the number of characters, and at most `depth` brackets may be
nested in it. -/
def readValue : Nat → Nat → Reader Datum
  | 0, _, _ => none
  | fuel + 1, depth, cs =>
    match depth, cs with
    | 0, '[' :: _ | 0, '\x7b' :: _ => none
    | depth + 1, '[' :: rest =>
      (readItems fuel depth (skipLines rest.length rest)).map fun (items, rest) =>
        (.array items, rest)
    | depth + 1, '\x7b' :: rest =>
      match skipSpaces rest with
      | '\x7d' :: rest => some (.table [], rest)
      | rest =>
        (readPairs fuel depth [] rest).map fun (entries, rest) =>
          ((Node.table .declared entries).datum, rest)
    | _, cs => readScalar cs

/-- The items of an array up to its end. A comma may stand behind the last. -/
def readItems : Nat → Nat → Reader (List Datum)
  | 0, _, _ => none
  | _ + 1, _, [] => none
  | _ + 1, _, ']' :: rest => some ([], rest)
  | fuel + 1, depth, cs =>
    match readValue fuel depth cs with
    | none => none
    | some (d, rest) =>
      match skipLines rest.length rest with
      | ']' :: rest => some ([d], rest)
      | ',' :: rest =>
        (readItems fuel depth (skipLines rest.length rest)).map fun (items, rest) =>
          (d :: items, rest)
      | _ => none

/-- The pairs of a table on one line, up to its end. -/
def readPairs : Nat → Nat → Entries → Reader Entries
  | 0, _, _, _ => none
  | fuel + 1, depth, entries, cs =>
    match readPath cs with
    | some ((path, key), '=' :: rest) =>
      match readValue fuel depth (skipSpaces rest) with
      | none => none
      | some (d, rest) =>
        match entries.add path key d, skipSpaces rest with
        | some entries, '\x7d' :: rest => some (entries, rest)
        | some entries, ',' :: rest => readPairs fuel depth entries rest
        | _, _ => none
    | _ => none

end

end Weaving.Toml
