import Weaving.Expression.Evaluation
import Weaving.Expression.Parser

namespace Weaving

/-- A pointcut given by an expression, with the formal parameters that its argument
lists capture. -/
structure ExpressionPointcut where
  expression : String
  root : Expr
  formals : Formals

namespace ExpressionPointcut

def parse (references : Expr.References) (expression : String) :
    Except EngineError ExpressionPointcut :=
  match Expr.parse references expression with
  | .error e => .error (.invalidPointcut expression e.message)
  | .ok root => .ok ⟨expression, root, .empty⟩

def withFormals (p : ExpressionPointcut) (formals : Formals) : ExpressionPointcut :=
  { p with formals }

def toPointcut (p : ExpressionPointcut) : Pointcut :=
  ⟨p.root.classFilter, p.root.matcher p.formals⟩

/-- The captures of a call that the pointcut matches. -/
def captures? (p : ExpressionPointcut) (method : Method) (target : TypeInfo)
    (args : List Value) : Option Captures :=
  p.root.captures? p.formals method target args

def render (p : ExpressionPointcut) : String :=
  Text.record "AspectJExpressionPointcut"
    [("expression", Text.quoted p.expression),
      ("parameter_names", Text.listing (p.formals.names.map Text.quoted))]

end ExpressionPointcut

end Weaving
