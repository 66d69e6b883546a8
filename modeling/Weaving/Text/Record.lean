import Weaving.Text.Quoted

namespace Weaving.Text

def commaList (items : List String) : String := ", ".intercalate items

/-- A bracketed listing such as `[a, b]`. -/
def listing (items : List String) : String := "[" ++ commaList items ++ "]"

/-- An optional part: `Some(x)` or `None`. -/
def optional : Option String → String
  | none => "None"
  | some text => "Some(" ++ text ++ ")"

private def braced (items : List String) : String := "\x7b" ++ commaList items ++ "\x7d"

/-- A record with named fields. A record without fields is its bare name. -/
def record (name : String) (fields : List (String × String)) : String :=
  if fields.isEmpty then name
  else name ++ " \x7b " ++ commaList (fields.map fun f => f.1 ++ ": " ++ f.2) ++ " \x7d"

/-- A table from keys to texts, both quoted, in the order given. -/
def table (entries : List (String × String)) : String :=
  braced (entries.map fun e => quoted e.1 ++ ": " ++ quoted e.2)

def truth (b : Bool) : String := if b then "true" else "false"

end Weaving.Text
