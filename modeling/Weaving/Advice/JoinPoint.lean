import Weaving.EngineError
import Weaving.Expression.Captures
import Weaving.Method

namespace Weaving

/-- One intercepted execution of a method, as an advice sees it. `canProceed` says
whether the advice may let the execution go on. -/
structure JoinPoint where
  method : Method
  targetType : TypeInfo
  target : Option Value
  arguments : List Value
  canProceed : Bool
  returnValue : Option Value
  thrown : Option Thrown
  captured : Option Captures

namespace JoinPoint

/-- The only kind of join point there is. -/
def kind : String := "method-execution"

def ofCall (method : Method) (targetType : TypeInfo) (arguments : List Value) : JoinPoint :=
  ⟨method, targetType, none, arguments, false, none, none, none⟩

/-- The text of the static part of a join point. -/
def renderStatic (method : Method) : String := "execution(" ++ method.render ++ ")"

def render (j : JoinPoint) : String := renderStatic j.method

/-- The answer to an attempt to go on outside around advice. -/
def cannotProceed (j : JoinPoint) : EngineError :=
  .usage ("join point for " ++ j.method.render ++ " cannot proceed outside around advice")

/-- Goes on by the given continuation if the join point allows it. -/
def proceedBy (j : JoinPoint) (continuation : Option (List Value) → Except EngineError (Option Value))
    (arguments : Option (List Value)) : Except EngineError (Option Value) :=
  if j.canProceed then continuation arguments else .error j.cannotProceed

def debugView (j : JoinPoint) : String :=
  Text.record "JoinPoint" [("kind", Text.quoted kind), ("signature", Text.quoted j.method.render)]

def debugProceeding (j : JoinPoint) : String :=
  Text.record "ProceedingJoinPoint"
    [("join_point", j.debugView), ("can_proceed", Text.truth j.canProceed)]

/-- The record of the whole execution. Captured values have no text of their own, so
there is one only if none is captured. -/
def debug? (j : JoinPoint) : Option String :=
  let captured := match j.captured with
    | none => some "None"
    | some c => if c.isEmpty then some ("Some(" ++ Text.record "JoinPointMatch"
        [("bindings", Text.table [])] ++ ")") else none
  captured.map fun captured => Text.record "JoinPointContext"
    [("method", Text.quoted j.method.render),
      ("target_type", Text.quoted j.targetType.name),
      ("arguments", toString j.arguments.length),
      ("can_proceed", Text.truth j.canProceed),
      ("has_return_value", Text.truth j.returnValue.isSome),
      ("thrown", Text.optional (j.thrown.map fun e => Text.quoted e.message)),
      ("captured", captured)]

end JoinPoint

end Weaving
