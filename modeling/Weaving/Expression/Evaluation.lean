import Weaving.Expression.Captures
import Weaving.Expression.Expr
import Weaving.Matching.Pointcut
import Weaving.ParameterType

namespace Weaving

/-- The formal parameters of a pointcut: names, and types by position. -/
structure Formals where
  names : List String
  types : List ParameterType
  deriving BEq

namespace Formals

def empty : Formals := ⟨[], []⟩

/-- One more formal parameter behind the others. -/
def push (f : Formals) (name : String) (type : ParameterType) : Formals :=
  ⟨f.names ++ [name], f.types ++ [type]⟩

/-- The type at the first position of a name. -/
def typeOf? (f : Formals) (name : String) : Option ParameterType :=
  (f.names.idxOf? name).bind (f.types[·]?)

end Formals

namespace Expr

/-- Whether a parameter list can fit the declared parameters. Formal parameters take
any type until a value is there. -/
def argsFitDeclared (patterns : List ArgPattern) (formals : Formals) (method : Method) : Bool :=
  match ArgPattern.align patterns method.parameters.length with
  | none => false
  | some pairs => pairs.all fun
      | (.named name, index) =>
        (formals.typeOf? name.text).isSome || (method.parameters[index]?).any name.acceptsType
      | _ => true

/-- Walks the paired elements of a parameter list and captures the formal parameters
among them. Stops at the first element that refuses its argument. -/
def captureArgs (formals : Formals) (method : Method) (args : List Value) :
    List (ArgPattern × Nat) → Captures → Bool × Captures
  | [], captured => (true, captured)
  | (.named name, index) :: rest, captured =>
    match args[index]? with
    | none => (false, captured)
    | some arg =>
      match formals.typeOf? name.text with
      | some type =>
        if type.admits arg then captureArgs formals method args rest (captured.insert name.text arg)
        else (false, captured)
      | none =>
        if (method.parameters[index]?).any fun t => name.acceptsType t && t.isInstance arg then
          captureArgs formals method args rest captured
        else (false, captured)
  | _ :: rest, captured => captureArgs formals method args rest captured

/-- Matches a parameter list against the arguments of a call. -/
def matchArgs (patterns : List ArgPattern) (formals : Formals) (method : Method)
    (args : List Value) (captured : Captures) : Bool × Captures :=
  match ArgPattern.align patterns args.length with
  | none => (false, captured)
  | some pairs => captureArgs formals method args pairs captured

/-- Matches a call while captures are written into one table. The sides of a
disjunction write into a table of their own, which is kept only if the side matches. -/
def run (formals : Formals) (method : Method) (target : TypeInfo) (args : List Value) :
    Expr → Captures → Bool × Captures
  | execution pattern, captured => (pattern.accepts method target, captured)
  | within pattern, captured => (pattern.acceptsType target, captured)
  | .args _ patterns, captured => matchArgs patterns formals method args captured
  | and left right, captured =>
    match left.run formals method target args captured with
    | (true, captured) => right.run formals method target args captured
    | (false, captured) => (false, captured)
  | or left right, captured =>
    match left.run formals method target args .empty with
    | (true, extra) => (true, captured.merge extra)
    | (false, _) =>
      match right.run formals method target args .empty with
      | (true, extra) => (true, captured.merge extra)
      | (false, _) => (false, captured)
  | not inner, captured => (!(inner.run formals method target args .empty).1, captured)

/-- The captures of a call that the expression matches. -/
def captures? (e : Expr) (formals : Formals) (method : Method) (target : TypeInfo)
    (args : List Value) : Option Captures :=
  match e.run formals method target args .empty with
  | (true, captured) => some captured
  | (false, _) => none

/-- The condition on target types that an expression implies. -/
def classFilter : Expr → ClassFilter
  | execution pattern =>
    match pattern.owner with
    | some owner => .pattern owner
    | none => .all
  | within pattern => .pattern pattern
  | .args _ _ => .all
  | and left right => .inter [left.classFilter, right.classFilter]
  | or left right => .union [left.classFilter, right.classFilter]
  | not _ => .all

/-- The condition on methods that, with the class filter, decides the expression. -/
def matcher (formals : Formals) : Expr → MethodMatcher
  | execution pattern => .static ("execution(" ++ pattern.source ++ ")") pattern.accepts
  | within _ => .all
  | .args source patterns => .dynamic {
      key := "args(" ++ source ++ ")"
      counter := none
      staticCheck := fun method _ => argsFitDeclared patterns formals method
      runtimeCheck := fun method _ args => (matchArgs patterns formals method args .empty).1 }
  | and left right => .inter (left.matcher formals) (right.matcher formals)
  | or left right =>
    .union (left.matcher formals) (some left.classFilter)
      (right.matcher formals) (some right.classFilter)
  | not inner => .not (.inter (.ofClass inner.classFilter) (inner.matcher formals))

end Expr

end Weaving
