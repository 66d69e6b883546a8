import Weaving.Regex.Library
import Weaving.Text.Split
import Weaving.TypeInfo

namespace Weaving

/-- A name in which `*` stands for any run of characters within one line. The
pattern `*` alone accepts every name. -/
structure NamePattern where
  text : String
  deriving DecidableEq, Hashable

namespace NamePattern

def isWildcard (p : NamePattern) : Bool := p.text == "*"

/-- Whether `accepts` holds behind some gap without a line feed. -/
def behindGap (accepts : List Char → Bool) : List Char → Bool
  | [] => accepts []
  | c :: r => accepts (c :: r) || (c != '\n' && behindGap accepts r)

/-- Whether a text is made of the pieces in order with gaps between them. -/
def matchPieces : List (List Char) → List Char → Bool
  | [], s => s.isEmpty
  | [piece], s => s == piece
  | piece :: next :: rest, s =>
    match piece.isPrefixOf? s with
    | none => false
    | some tail => behindGap (matchPieces (next :: rest)) tail

def accepts (p : NamePattern) (name : String) : Bool :=
  p.isWildcard || matchPieces (Text.pieces '*' p.text.toList) name.toList

/-- The pattern as a regular expression: its pieces are quoted, and between them anything within one line
may stand. -/
def expression (lib : RegexLibrary) (p : NamePattern) : String :=
  "^" ++ ".*".intercalate ((Text.pieces '*' p.text.toList).map fun s => lib.escape (String.ofList s)) ++ "$"

/-- Searches a name for the expression of the pattern. -/
def findsIn (lib : RegexLibrary) (p : NamePattern) (name : String) : Bool :=
  if p.isWildcard then true
  else if '*' ∈ p.text.toList then
    match lib.compile (p.expression lib) with
    | .ok found => found name
    | .error _ => false
  else p.text == name

/-- A pattern accepts a type by its name or by the name of a supertype. -/
def acceptsType (p : NamePattern) (t : TypeInfo) : Bool := t.names.any p.accepts

def render (p : NamePattern) : String := Text.quoted p.text

end NamePattern

end Weaving
