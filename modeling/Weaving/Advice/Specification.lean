import Weaving.Advice.AdviceMethod
import Weaving.EngineError
import Weaving.Expression.Identifier

namespace Weaving

/-- What the marker of an advice method asks for. -/
structure AdviceSpecification where
  kind : AdviceKind
  expression : String
  argNames : Option String
  returning : Option String
  throwing : Option String
  deriving DecidableEq

namespace AdviceSpecification

/-- The markers that declare an advice. -/
def recognized (method : AdviceMethod) : List (Marker × AdviceKind) :=
  method.markers.filterMap fun a => a.kind?.map fun kind => (a, kind)

/-- Reads the one marker that declares the advice. The attribute `pointcut` comes
before `value`; a returning or throwing name counts only for the kind it belongs to. -/
def ofMethod (method : AdviceMethod) : Except EngineError AdviceSpecification :=
  match recognized method with
  | [] => .error (.invalidSignature method.render "no AspectJ advice annotation found")
  | [(marker, kind)] =>
    match (marker.nonBlank? "pointcut").or (marker.nonBlank? "value") with
    | none => .error (.invalidSignature method.render
        ("@" ++ marker.name ++ " must declare a non-empty pointcut or value attribute"))
    | some expression => .ok {
        kind
        expression
        argNames := marker.nonBlank? "argNames"
        returning := if kind = .afterReturning then marker.nonBlank? "returning" else none
        throwing := if kind = .afterThrowing then marker.nonBlank? "throwing" else none }
  | many => .error (.invalidSignature method.render
      ("conflicting advice annotations " ++ Text.listing (many.map fun a => a.1.name)))

/-- The names in the `argNames` attribute, if it is there. Each must be an identifier. -/
def argumentNames (s : AdviceSpecification) : Except EngineError (Option (List String)) :=
  match s.argNames with
  | none => .ok none
  | some text =>
    let names := (Text.pieces ',' text.toList).map Text.trimBlanks
    match names.find? fun name => !isIdentifier name with
    | some bad => .error (.binding
        ("argNames '" ++ text ++ "' contains an invalid name '" ++ String.ofList bad ++ "'"))
    | none => .ok (some (names.map String.ofList))

end AdviceSpecification

end Weaving
