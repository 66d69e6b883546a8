import Weaving.Aspect.Advice

namespace Weaving

abbrev CallResult := Except EngineError (Option Value)

/-- How a call goes on behind an advice: with the arguments it has, or with others. -/
abbrev Continuation := Option (List Value) → Loom → CallResult × Loom

/-- Runs the course of a body, whose notes are recorded. -/
def Course.follow (c : Course) (goOn : Continuation) (l : Loom) :
    Except AdviceFailure (Option Value) × Loom :=
  c.run (fun text l => l.record (.note text)) Loom.access goOn l

namespace Advice

/-- The engine's error for the failure of a body. -/
def failureError (a : Advice) : AdviceFailure → EngineError
  | .mismatch m => .binding ("Mismatch on arguments to advice method [" ++ a.method.render ++
      "]; pointcut expression [" ++ a.specification.expression ++ "]: " ++ m.message)
  | .thrown e => .thrown e
  | .engine e => e

/-- Runs the body of an advice at a join point. -/
def invoke (a : Advice) (context : JoinPoint) (aspect : Value) (next : Continuation) (l : Loom) :
    CallResult × Loom :=
  let (planning, l) := l.planning a
  match planning.result with
  | .error e => (.error e, l)
  | .ok plan =>
    match plan.bind context with
    | .error e => (.error e, l)
    | .ok arguments =>
      let goOn : Continuation :=
        if context.canProceed then next else fun _ l => (.error context.cannotProceed, l)
      let l := l.record (.advice a.aspectName a.method.name context.arguments)
      match (a.method.body aspect arguments).follow goOn l with
      | (.ok v, l) => (.ok v, l)
      | (.error failure, l) => (.error (a.failureError failure), l)

/-- A returned value must be an instance of the type it is bound to. -/
def acceptsReturn (plan : BindingPlan) (v : Value) : Bool :=
  match plan.returning.map NamedSlot.type with
  | some (.value type) => type.isInstance v
  | _ => true

/-- A thrown error must be of the type it is bound to. -/
def acceptsThrown (plan : BindingPlan) (e : Thrown) : Bool :=
  match plan.throwing.map NamedSlot.type with
  | some (.error type) => type.accepts e
  | _ => true

/-- Runs an advice around the rest of a call. The aspect is fetched first. An advice
behind the call changes its result only by failing itself. -/
def intercept (a : Advice) (context : JoinPoint) (target : Option Target) (next : Continuation)
    (l : Loom) : CallResult × Loom :=
  match World.getInstanceFor World.build a.factory target l.world with
  | (.error e, w) => (.error e, { l with world := w })
  | (.ok i, w) =>
    let l := { l with world := w }
    match a.kind with
    | .before =>
      match a.invoke context i.value next l with
      | (.error e, l) => (.error e, l)
      | (.ok _, l) => next none l
    | .after =>
      let (result, l) := next none l
      match a.invoke context i.value next l with
      | (.error e, l) => (.error e, l)
      | (.ok _, l) => (result, l)
    | .afterReturning =>
      match next none l with
      | (.error e, l) => (.error e, l)
      | (.ok result, l) =>
        let v := result.getD .unit
        let (planning, l) := l.planning a
        match planning.result with
        | .error e => (.error e, l)
        | .ok plan =>
          if acceptsReturn plan v then
            match a.invoke { context with returnValue := some v } i.value next l with
            | (.error e, l) => (.error e, l)
            | (.ok _, l) => (.ok result, l)
          else (.ok result, l)
    | .afterThrowing =>
      match next none l with
      | (.error (.thrown e), l) =>
        let (planning, l) := l.planning a
        match planning.result with
        | .error e => (.error e, l)
        | .ok plan =>
          if acceptsThrown plan e then
            match a.invoke { context with thrown := some e } i.value next l with
            | (.error e, l) => (.error e, l)
            | (.ok _, l) => (.error (.thrown e), l)
          else (.error (.thrown e), l)
      | other => other
    | .around => a.invoke { context with canProceed := true } i.value next l
    | .pointcut => next none l

end Advice

/-- An advisor in the chain of a method. `runtime` says that its pointcut looks at
arguments and is asked again for each call. -/
structure ChainElement where
  advisor : Advisor
  runtime : Bool

/-- What stays the same during a call: the method, the target, and what the method
does when it is reached. -/
structure CallSite where
  method : Method
  targetType : TypeInfo
  target : Option Target
  respond : List Value → Except Thrown (Option Value)

namespace CallSite

/-- The join point of a call, before an advice adds to it. -/
def joinPoint (s : CallSite) (arguments : List Value) : JoinPoint :=
  { JoinPoint.ofCall s.method s.targetType arguments with target := s.target.map Target.value }

/-- Reaches the target. -/
def callTarget (s : CallSite) (arguments : List Value) (l : Loom) : CallResult × Loom :=
  let l := l.record (.target arguments)
  match s.respond arguments with
  | .error e => (.error (.thrown e), l)
  | .ok v => (.ok v, l)

/-- Goes on with other arguments, if they are as many as before. -/
def replace (s : CallSite) (arguments : List Value)
    (run : List Value → Loom → CallResult × Loom) : Continuation
  | none, l => run arguments l
  | some others, l =>
    if others.length = arguments.length then run others l
    else (.error (.usage ("expected " ++ toString arguments.length ++
      " argument(s) to proceed with " ++ s.method.render ++ ", got " ++ toString others.length)), l)

/-- Whether an element lets its advice run on the arguments. -/
def admits (s : CallSite) (e : ChainElement) (pointcut : ExpressionPointcut)
    (arguments : List Value) : Except EngineError Bool :=
  if e.runtime then
    (pointcut.toPointcut.matcher.acceptsArgs s.method s.targetType arguments).map Verdict.answer
  else .ok true

/-- Runs a call through a chain. An element whose pointcut refuses the arguments is
passed over; one that is selected without matching captures nothing. -/
def run (s : CallSite) : List ChainElement → List Value → Loom → CallResult × Loom
  | [], arguments, l => s.callTarget arguments l
  | e :: rest, arguments, l =>
    let pointcut := l.pointcut e.advisor.advice
    match s.admits e pointcut arguments with
    | .error error => (.error error, l)
    | .ok false => run s rest arguments l
    | .ok true =>
      let captured := (pointcut.captures? s.method s.targetType arguments).getD .empty
      e.advisor.advice.intercept { s.joinPoint arguments with captured := some captured } s.target
        (s.replace arguments (run s rest)) l

end CallSite

end Weaving
