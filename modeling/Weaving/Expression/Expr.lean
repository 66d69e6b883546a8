import Weaving.Expression.Execution

namespace Weaving

/-- The tree of a pointcut expression. -/
inductive Expr where
  | execution (pattern : ExecutionPattern)
  | within (pattern : NamePattern)
  | args (source : String) (patterns : List ArgPattern)
  | and (left right : Expr)
  | or (left right : Expr)
  | not (inner : Expr)
  deriving DecidableEq

namespace Expr

/-- Reads an `execution`, `within` or `args` call, or says that it is none of them. -/
def designator? (name body : String) : Option (Except ParseError Expr) :=
  match name with
  | "execution" => some (execution <$> ExecutionPattern.parse body)
  | "within" =>
    some (if body.isEmpty then .error .noTypePattern else .ok (within ⟨Text.lastSegment body⟩))
  | "args" => some (args body <$> ArgPattern.parse body.toList)
  | _ => none

end Expr

end Weaving
