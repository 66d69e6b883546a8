import Weaving.Advice.Discoverer
import Weaving.Expression.ExpressionPointcut
import Weaving.Table

namespace Weaving

/-- What a join point in front of the parameters is given as. -/
inductive JoinPointSlot where
  | joinPoint | proceeding | staticPart
  deriving DecidableEq

namespace JoinPointSlot

def render : JoinPointSlot → String
  | joinPoint => "JoinPoint"
  | proceeding => "ProceedingJoinPoint"
  | staticPart => "StaticPart"

def ofType? : ParameterType → Option JoinPointSlot
  | .joinPoint => some joinPoint
  | .proceedingJoinPoint => some proceeding
  | .staticPart => some staticPart
  | _ => none

end JoinPointSlot

/-- A parameter that has a name. -/
structure NamedSlot where
  name : String
  index : Nat
  type : ParameterType
  deriving BEq

/-- How the arguments of an advice are put together for each call: which parameter gets the captured
value of a name, the returned value and the error, and the formal parameters that the pointcut is
given to capture values for. -/
structure BindingPlan where
  parameterCount : Nat
  joinPoint : Option JoinPointSlot
  bindings : Table Nat
  returning : Option NamedSlot
  throwing : Option NamedSlot
  formals : Formals
  deriving BEq

/-- Why a plan cannot be made for an advice method. -/
inductive PlanError where
  | undiscovered (method expression : String)
  | wrongCount (parameters : Nat) (method : String) (names : List String)
  | throwingNotError (name method type : String)
  | duplicateName (name method : String)
  | returningUnbound (name method : String)
  | throwingUnbound (name method : String)
  deriving DecidableEq

namespace PlanError

def message : PlanError → String
  | undiscovered method expression =>
    "Unable to discover argument names for " ++ method ++ " with pointcut '" ++ expression ++ "'"
  | wrongCount parameters method names =>
    "Expecting argument names for " ++ toString parameters ++ " parameter(s) of " ++ method ++
      " but got " ++ toString names.length ++ ": " ++ Text.listing names
  | throwingNotError name method type =>
    "Throwing argument '" ++ name ++ "' of " ++ method ++ " must be an error type, found " ++ type
  | duplicateName name method => "Duplicate argument name '" ++ name ++ "' in " ++ method
  | returningUnbound name method =>
    "Returning argument name '" ++ name ++ "' was not bound in advice arguments of " ++ method
  | throwingUnbound name method =>
    "Throwing argument name '" ++ name ++ "' was not bound in advice arguments of " ++ method

end PlanError

namespace BindingPlan

/-- The number of parameters that the join point in front takes up. -/
def offset (p : BindingPlan) : Nat := if p.joinPoint.isSome then 1 else 0

/-- The parameter that receives the join point itself. -/
def joinPointIndex? (p : BindingPlan) : Option Nat :=
  match p.joinPoint with
  | some .joinPoint | some .proceeding => some 0
  | _ => none

def staticPartIndex? (p : BindingPlan) : Option Nat :=
  if p.joinPoint = some .staticPart then some 0 else none

/-- Gives one parameter its role by its name. -/
def assign (method : AdviceMethod) (spec : AdviceSpecification) (p : BindingPlan)
    (slot : NamedSlot) : Except PlanError BindingPlan :=
  if spec.returning = some slot.name then .ok { p with returning := some slot }
  else if spec.throwing = some slot.name then
    if slot.type.isError then .ok { p with throwing := some slot }
    else .error (.throwingNotError slot.name method.render slot.type.render)
  else if (p.bindings.get? slot.name).isSome then .error (.duplicateName slot.name method.render)
  else .ok { p with
    bindings := p.bindings.insert slot.name slot.index
    formals := p.formals.push slot.name slot.type }

def assignAll (method : AdviceMethod) (spec : AdviceSpecification) :
    BindingPlan → List NamedSlot → Except PlanError BindingPlan
  | p, [] => .ok p
  | p, slot :: slots =>
    match p.assign method spec slot with
    | .error e => .error e
    | .ok p => assignAll method spec p slots

/-- A configured returning or throwing name must have found its parameter. -/
def checkConfigured (method : AdviceMethod) (spec : AdviceSpecification) (p : BindingPlan) :
    Except PlanError BindingPlan :=
  match spec.returning, p.returning, spec.throwing, p.throwing with
  | some name, none, _, _ => .error (.returningUnbound name method.render)
  | _, _, some name, none => .error (.throwingUnbound name method.render)
  | _, _, _, _ => .ok p

/-- The parameters behind the join point, with their names. -/
def slots (types : List ParameterType) (names : List String) (offset : Nat) : List NamedSlot :=
  ((names.zip types).zipIdx.drop offset).map fun e => ⟨e.1.1, e.2, e.1.2⟩

/-- Completes a plan once the parameters have names. -/
def ofNames (method : AdviceMethod) (spec : AdviceSpecification) (start : BindingPlan)
    (names : List String) : Except PlanError BindingPlan :=
  if names.length ≠ method.parameters.length then
    .error (.wrongCount method.parameters.length method.render names)
  else
    match assignAll method spec start (slots method.parameterTypes names start.offset) with
    | .error e => .error e
    | .ok p => checkConfigured method spec p

end BindingPlan

/-- The names of all parameters, with whether the discoverer was asked for them. Names
given by the marker may leave out the join point in front. -/
def resolveNames (method : AdviceMethod) (spec : AdviceSpecification) (discoverer : Discoverer) :
    Except EngineError (List String) × Bool :=
  match spec.argumentNames with
  | .error e => (.error e, false)
  | .ok (some names) =>
    if names.length + 1 = method.parameters.length &&
        (method.parameterTypes.head?).any ParameterType.isJoinPointLike then
      (.ok (Discoverer.thisJoinPoint :: names), false)
    else (.ok names, false)
  | .ok none =>
    match discoverer method ⟨spec.expression, spec.returning, spec.throwing⟩ with
    | .error e => (.error e, true)
    | .ok none => (.error (.binding (PlanError.undiscovered method.render spec.expression).message), true)
    | .ok (some names) => (.ok names, true)

/-- The outcome of planning: the plan or why there is none, the pointcut with the
formal parameters it has afterwards, and whether the discoverer was asked. -/
structure Planning where
  result : Except EngineError BindingPlan
  pointcut : ExpressionPointcut
  consulted : Bool

namespace Planning

/-- Plans the arguments of an advice method. Only a plan that had parameters to name
is written to the pointcut. -/
def compute (method : AdviceMethod) (spec : AdviceSpecification) (discoverer : Discoverer)
    (pointcut : ExpressionPointcut) : Planning :=
  let joinPoint := (method.parameterTypes.head?).bind JoinPointSlot.ofType?
  let start : BindingPlan := ⟨method.parameters.length, joinPoint, .empty, none, none, .empty⟩
  if joinPoint = some .proceeding && !spec.kind.canProceed then
    ⟨.error (.proceedMisuse method.render spec.kind), pointcut, false⟩
  else if start.offset = method.parameters.length then ⟨.ok start, pointcut, false⟩
  else
    match resolveNames method spec discoverer with
    | (.error e, consulted) => ⟨.error e, pointcut, consulted⟩
    | (.ok names, consulted) =>
      match BindingPlan.ofNames method spec start names with
      | .error e => ⟨.error (.binding e.message), pointcut, consulted⟩
      | .ok plan => ⟨.ok plan, pointcut.withFormals plan.formals, consulted⟩

end Planning

namespace BindingPlan

/-- The arguments that the context supplies, with the parameters they go to. -/
def supplied (p : BindingPlan) (context : JoinPoint) : List (Nat × Argument) :=
  let front := match p.joinPoint with
    | none => []
    | some .joinPoint => [(0, Argument.joinPoint context)]
    | some .proceeding => [(0, .proceeding context)]
    | some .staticPart => [(0, .staticPart context.method)]
  let captured := match context.captured with
    | none => []
    | some c => p.bindings.filterMap fun e => (c.get? e.1).map fun v => (e.2, .value v)
  let returned := match p.returning, context.returnValue with
    | some slot, some v => [(slot.index, .value v)]
    | _, _ => []
  let thrown := match p.throwing, context.thrown with
    | some slot, some e => [(slot.index, .error e)]
    | _, _ => []
  front ++ captured ++ returned ++ thrown

/-- Puts the arguments of a call together. Each parameter must be supplied. -/
def bind (p : BindingPlan) (context : JoinPoint) : Except EngineError Arguments :=
  let supplied := p.supplied context
  if supplied.length = p.parameterCount then
    .ok ((List.range p.parameterCount).filterMap fun i => supplied.lookup i)
  else .error (.binding
    ("Required to bind " ++ toString p.parameterCount ++ " arguments, but only bound " ++
      toString supplied.length ++ " (captured pointcut variables " ++
      (if context.captured.isSome then "were" else "were not") ++ " present for " ++
      context.method.render ++ ")"))

end BindingPlan

end Weaving
