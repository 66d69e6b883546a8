import Weaving.Expression.ParseError
import Weaving.Matching.NamePattern
import Weaving.Text.Blank

namespace Weaving

/-- An element of a parameter list: one parameter of any type, any number of
parameters, or one parameter with a name. -/
inductive ArgPattern where
  | any
  | ellipsis
  | named (pattern : NamePattern)
  deriving DecidableEq

namespace ArgPattern

def ofText (text : String) : ArgPattern :=
  match text with
  | "*" => any
  | ".." => ellipsis
  | name => named ⟨name⟩

/-- The elements between the commas of a list. -/
def ofList (body : List Char) : List ArgPattern :=
  (Text.pieces ',' body).map fun piece => ofText (String.ofList (Text.trimBlanks piece))

/-- Reads a parameter list. No element may be empty and at most one may be `..`. -/
def parse (body : List Char) : Except ParseError (List ArgPattern) :=
  if (Text.trimBlanks body).isEmpty then .ok []
  else
    let patterns := ofList body
    if patterns.contains (named ⟨""⟩) then .error (.emptyParameter (String.ofList body))
    else if 1 < patterns.count ellipsis then .error (.manyEllipses (String.ofList body))
    else .ok patterns

/-- Pairs each element other than `..` with the parameter it stands for, if the list
fits that many parameters. -/
def align (patterns : List ArgPattern) (count : Nat) : Option (List (ArgPattern × Nat)) :=
  match patterns.span (· != ellipsis) with
  | (_, []) => if patterns.length = count then some (patterns.zipIdx) else none
  | (before, _ :: after) =>
    if count < before.length + after.length then none
    else some (before.zipIdx ++ after.zipIdx (count - after.length))

end ArgPattern

end Weaving
