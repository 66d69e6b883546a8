import Weaving.Text.Record

namespace Weaving

/-- A word of a pointcut expression. A call keeps the text between its parentheses. -/
inductive Token where
  | open | close | and | or | not
  | call (name body : String)
  deriving DecidableEq

namespace Token

def render : Token → String
  | .open => "LParen"
  | .close => "RParen"
  | .and => "And"
  | .or => "Or"
  | .not => "Not"
  | call name body =>
    Text.record "Call" [("name", Text.quoted name), ("body", Text.quoted body)]

/-- The operator that a word stands for. -/
def ofWord? : String → Option Token
  | "and" => some .and
  | "or" => some .or
  | "not" => some .not
  | _ => none

end Token

end Weaving
