import Weaving.Text.Split

namespace Weaving

/-- When an advice runs relative to the method it surrounds. A pointcut is a named
expression that never runs. -/
inductive AdviceKind where
  | pointcut | around | before | after | afterReturning | afterThrowing
  deriving DecidableEq

namespace AdviceKind

/-- The kind that a marker declares, read off the last segment of its name. -/
def ofMarker? (name : String) : Option AdviceKind :=
  match String.ofList (Text.afterLast (fun c => c == '.' || c == ':') name.toList) with
  | "Pointcut" => some pointcut
  | "Around" => some around
  | "Before" => some before
  | "After" => some after
  | "AfterReturning" => some afterReturning
  | "AfterThrowing" => some afterThrowing
  | _ => none

/-- The kinds that run once the method has ended. -/
def isAfter : AdviceKind → Bool
  | after | afterReturning | afterThrowing => true
  | _ => false

/-- Only around advice decides whether the call goes on. -/
def canProceed : AdviceKind → Bool
  | around => true
  | _ => false

def render : AdviceKind → String
  | pointcut => "pointcut"
  | around => "around"
  | before => "before"
  | after => "after"
  | afterReturning => "after-returning"
  | afterThrowing => "after-throwing"

/-- The name of the marker that declares the kind. -/
def markerName : AdviceKind → String
  | pointcut => "Pointcut"
  | around => "Around"
  | before => "Before"
  | after => "After"
  | afterReturning => "AfterReturning"
  | afterThrowing => "AfterThrowing"

end AdviceKind

end Weaving
