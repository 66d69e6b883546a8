import Weaving.Advice.Kind
import Weaving.Text.Split
import Weaving.Thrown

namespace Weaving

/-- What can go wrong in the engine. A business error passes through unchanged. -/
inductive EngineError where
  | invalidSignature (method reason : String)
  | binding (reason : String)
  | instantiation (aspect cause : String)
  | proceedMisuse (method : String) (kind : AdviceKind)
  | invalidPointcut (expression reason : String)
  | usage (reason : String)
  | configuration (reason : String)
  | thrown (error : Thrown)
  deriving DecidableEq

namespace EngineError

/-- The name of the kind of error. -/
def label : EngineError → String
  | invalidSignature _ _ => "InvalidAdviceSignature"
  | binding _ => "ArgumentBindingFailure"
  | instantiation _ _ => "InstantiationFailure"
  | proceedMisuse _ _ => "ProceedingJoinPointMisuse"
  | invalidPointcut _ _ => "InvalidPointcut"
  | usage _ => "Usage"
  | configuration _ => "IllegalAspectConfiguration"
  | thrown _ => "Thrown"

def message : EngineError → String
  | invalidSignature method reason => "Invalid advice signature for '" ++ method ++ "': " ++ reason
  | binding reason => "Argument binding failed: " ++ reason
  | instantiation aspect cause => "Failed to instantiate aspect '" ++ aspect ++ "': " ++ cause
  | proceedMisuse method kind =>
    "ProceedingJoinPoint is only supported for around advice: '" ++ method ++ "' is " ++
      kind.render ++ " advice"
  | invalidPointcut expression reason =>
    "Invalid pointcut expression '" ++ expression ++ "': " ++ reason
  | usage reason => "Illegal usage: " ++ reason
  | configuration reason => "Illegal aspect configuration: " ++ reason
  | thrown error => error.message

/-- The message in short: a reason given by a configuration can go on for several lines. -/
def headline (e : EngineError) : String :=
  match e with
  | configuration _ => Text.firstLine e.message
  | _ => e.message

end EngineError

end Weaving
