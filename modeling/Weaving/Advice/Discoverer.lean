import Weaving.Advice.Specification

namespace Weaving

/-- What a discoverer knows about an advice besides its method. -/
structure DiscoveryHints where
  expression : String
  returning : Option String
  throwing : Option String

/-- A way to find names for the parameters of an advice method. -/
abbrev Discoverer := AdviceMethod → DiscoveryHints → Except EngineError (Option (List String))

/-- Why the names of parameters cannot be told from the pointcut. -/
inductive DiscoveryError where
  | noErrorParameter (throwing method : String)
  | manyErrorParameters (throwing method : String)
  | undecidedReturning (unbound : Nat) (returning method : String)
  | variableCount (found : Nat) (expression : String) (unbound : Nat) (method : String)
  deriving DecidableEq

namespace DiscoveryError

def message : DiscoveryError → String
  | noErrorParameter throwing method =>
    "no error-typed parameter available for throwing name '" ++ throwing ++ "' in " ++ method
  | manyErrorParameters throwing method =>
    "ambiguous binding of throwing name '" ++ throwing ++ "' in " ++ method
  | undecidedReturning unbound returning method =>
    "cannot decide which of " ++ toString unbound ++
      " unbound parameters receives returning name '" ++ returning ++ "' in " ++ method
  | variableCount found expression unbound method =>
    "found " ++ toString found ++ " candidate variable(s) in '" ++ expression ++ "' for " ++
      toString unbound ++ " unbound parameter(s) of " ++ method

end DiscoveryError

namespace Discoverer

/-- The names that the method was declared with. -/
def declared : Discoverer := fun method _ => .ok method.parameterNames?

def thisJoinPoint : String := "thisJoinPoint"

def thisJoinPointStaticPart : String := "thisJoinPointStaticPart"

/-- A parameter type with the name found for it so far. -/
abbrev Slot := ParameterType × Option String

/-- A join point in front names itself. -/
def nameJoinPoint : List ParameterType → List Slot
  | [] => []
  | first :: rest =>
    let name := match first with
      | .joinPoint | .proceedingJoinPoint => some thisJoinPoint
      | .staticPart => some thisJoinPointStaticPart
      | _ => none
    (first, name) :: rest.map fun t => (t, none)

/-- The slots without a name whose type satisfies `p`. -/
def openSlots (p : ParameterType → Bool) (slots : List Slot) : List Slot :=
  slots.filter fun s => s.2.isNone && p s.1

/-- Names the open slots whose type satisfies `p`, in order, as far as names go. -/
def fill (p : ParameterType → Bool) : List Slot → List String → List Slot
  | [], _ => []
  | slots, [] => slots
  | (type, none) :: rest, name :: names =>
    if p type then (type, some name) :: fill p rest names
    else (type, none) :: fill p rest (name :: names)
  | slot :: rest, names => slot :: fill p rest names

def nameThrowing (method : AdviceMethod) (hints : DiscoveryHints) (slots : List Slot) :
    Except DiscoveryError (List Slot) :=
  match hints.throwing with
  | none => .ok slots
  | some throwing =>
    match openSlots ParameterType.isError slots with
    | [_] => .ok (fill ParameterType.isError slots [throwing])
    | [] => .error (.noErrorParameter throwing method.render)
    | _ => .error (.manyErrorParameters throwing method.render)

def nameReturning (method : AdviceMethod) (hints : DiscoveryHints) (slots : List Slot) :
    Except DiscoveryError (List Slot) :=
  match hints.returning with
  | none => .ok slots
  | some returning =>
    match openSlots (fun _ => true) slots with
    | [_] => .ok (fill (fun _ => true) slots [returning])
    | unbound => .error (.undecidedReturning unbound.length returning method.render)

/-- The variables of the pointcut that are not names of parameter types. -/
def candidates (method : AdviceMethod) (expression : String) : List String :=
  (bindingVariables expression).filter fun v =>
    !(method.parameterTypes.map ParameterType.render).contains v

def nameVariables (method : AdviceMethod) (hints : DiscoveryHints) (slots : List Slot) :
    Except DiscoveryError (List Slot) :=
  let unbound := openSlots (fun _ => true) slots
  if unbound.isEmpty then .ok slots
  else
    let found := candidates method hints.expression
    if found.length = unbound.length then .ok (fill (fun _ => true) slots found)
    else .error (.variableCount found.length hints.expression unbound.length method.render)

/-- Infers names: the join point in front, the throwing name for the only error, the
returning name for the only parameter left, the pointcut's variables for the rest. -/
def infer (method : AdviceMethod) (hints : DiscoveryHints) :
    Except DiscoveryError (Option (List String)) := do
  let slots ← nameThrowing method hints (nameJoinPoint method.parameterTypes)
  let slots ← nameReturning method hints slots
  let slots ← nameVariables method hints slots
  .ok (slots.mapM Prod.snd)

/-- Infers names from the pointcut. What cannot be inferred is an error if `raises`
holds and otherwise left open. -/
def heuristic (raises : Bool) : Discoverer := fun method hints =>
  if method.parameters.isEmpty then .ok (some [])
  else match infer method hints with
    | .ok names => .ok names
    | .error e => if raises then .error (.binding e.message) else .ok none

/-- The first of several discoverers that finds names decides. -/
def prioritized : List Discoverer → Discoverer
  | [] => fun _ _ => .ok none
  | d :: ds => fun method hints =>
    match d method hints with
    | .error e => .error e
    | .ok (some names) => .ok (some names)
    | .ok none => prioritized ds method hints

/-- Declared names come before inferred ones. -/
def standard (raises : Bool) : Discoverer := prioritized [declared, heuristic raises]

end Discoverer

end Weaving
