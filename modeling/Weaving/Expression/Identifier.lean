import Weaving.Expression.Lexer
import Weaving.Text.Split

namespace Weaving

/-- A letter or underscore, followed by letters, numbers and underscores. -/
def isIdentifier (name : List Char) : Bool :=
  match name with
  | [] => false
  | c :: rest => Token.startsWord c && rest.all fun d => Text.isLetterOrNumber d || d == '_'

/-- The names that stand for types, never for variables, in an argument list. -/
def primitiveTypeNames : List String :=
  ["bool", "char", "str", "u8", "u16", "u32", "u64", "u128", "usize", "i8", "i16", "i32", "i64",
    "i128", "isize", "f32", "f64", "int", "long", "short", "byte", "float", "double", "boolean"]

def isPrimitiveTypeName (name : String) : Bool := primitiveTypeNames.contains name

/-- Whether an element of an argument list reads as a variable. -/
def isVariable (name : String) : Bool :=
  (name.toList.head?).any Text.isLowerLetter && isIdentifier name.toList && !isPrimitiveTypeName name

/-- The elements of the argument lists among the tokens, in order. -/
def argumentTexts (tokens : List Token) : List String :=
  tokens.flatMap fun
    | .call "args" body =>
      (Text.pieces ',' body.toList).map fun piece => String.ofList (Text.trimBlanks piece)
    | _ => []

/-- The variables that an expression binds, in order of first occurrence. A text that
is no expression binds none. -/
def bindingVariables (expression : String) : List String :=
  match Token.scan expression with
  | .error _ => []
  | .ok tokens => ((argumentTexts tokens).filter isVariable).eraseDups

end Weaving
