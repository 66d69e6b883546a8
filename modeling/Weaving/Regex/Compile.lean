import Weaving.Regex.Library
import Weaving.Regex.Parser

namespace Weaving.Regex

/-- How many steps an expression may have with its repetitions written out, a set of characters
counted as one. Other libraries set other bounds. -/
def largestSize : Nat := 327680

def compile (text : String) : Except String (String → Bool) :=
  match parse? text with
  | none => .error "regex parse error:"
  | some r =>
    if r.unrolledSize ≤ largestSize then .ok r.isFoundIn
    else .error "Compiled regex exceeds size limit of 10485760 bytes."

/-- The characters that stand for something else than themselves in an expression. -/
def marks : List Char :=
  ['\\', '.', '+', '*', '?', '(', ')', '|', '[', ']', '\x7b', '\x7d', '^', '$', '#', '&', '-', '~']

/-- A text with a backslash before each mark. -/
def quoted (s : List Char) : List Char := s.flatMap fun c => if c ∈ marks then ['\\', c] else [c]

/-- A small library to run with. What is proved of patterns holds for any library that works as
its manual says. -/
def library : RegexLibrary := ⟨compile, fun s => String.ofList (quoted s.toList)⟩

end Weaving.Regex
