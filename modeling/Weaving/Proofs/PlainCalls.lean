import Weaving.Aspect.Proxy
import Weaving.Proofs.LoomPlans

namespace Weaving

/-- What comes of a result when an advice ran behind it: it stands unless the advice failed. -/
def CallResult.pastAdvice (result : CallResult) : CallResult × Loom → CallResult × Loom
  | (.error e, l) => (.error e, l)
  | (.ok _, l) => (result, l)

namespace CallResult

variable {result : CallResult} {r : CallResult × Loom}

theorem pastAdvice_of_isOk (h : r.1.isOk = true) : (result.pastAdvice r).1 = result := by
  obtain ⟨_ | _, l⟩ := r
  · cases h
  · rfl

theorem pastAdvice_eq_ok {v : Option Value} (h : (result.pastAdvice r).1 = .ok v) : result = .ok v := by
  obtain ⟨_ | _, l⟩ := r
  · cases h
  · exact h

end CallResult

namespace Advice

variable {a : Advice} {context : JoinPoint} {l : Loom}

/-- Runs the body of an advice at a join point that does not allow it to go on. -/
def invokeAlone (a : Advice) (context : JoinPoint) (aspect : Value) (l : Loom) : CallResult × Loom :=
  a.invoke context aspect (fun _ l => (.error context.cannotProceed, l)) l

theorem invoke_eq_invokeAlone (hc : context.canProceed = false) (aspect : Value) (next : Continuation) :
    a.invoke context aspect next l = a.invokeAlone context aspect l := by
  simp only [invokeAlone, invoke, hc, Bool.false_eq_true, if_false]

/-- Runs the body of an advice alone if its plan accepts what came of the call. -/
def invokeIf (a : Advice) (accepts : BindingPlan → Bool) (context : JoinPoint) (aspect : Value)
    (l : Loom) : CallResult × Loom :=
  let (planning, l) := l.planning a
  match planning.result with
  | .error e => (.error e, l)
  | .ok plan => if accepts plan then a.invokeAlone context aspect l else (.ok none, l)

/-- The left side is how a body is guarded by its plan in `intercept`. -/
theorem guarded_eq_invokeIf (context : JoinPoint) (hc : context.canProceed = false)
    (accepts : BindingPlan → Bool) (aspect : Value) (next : Continuation) (result : CallResult) :
    (match (l.planning a).1.result with
      | .error e => (Except.error e, (l.planning a).2)
      | .ok plan =>
        if accepts plan then
          match a.invoke context aspect next (l.planning a).2 with
          | (.error e, l) => (.error e, l)
          | (.ok _, l) => (result, l)
        else (result, (l.planning a).2)) =
      result.pastAdvice (a.invokeIf accepts context aspect l) := by
  simp only [invokeIf, invoke_eq_invokeAlone hc]
  cases (l.planning a).1.result with
  | error e => rfl
  | ok plan =>
      cases haccept : accepts plan with
      | false => simp only [haccept, Bool.false_eq_true, if_false, CallResult.pastAdvice]
      | true =>
          simp only [haccept, if_true]
          rfl

end Advice

/-- An advice that a call has come past on its way to the target. -/
structure Entered where
  advice : Advice
  context : JoinPoint
  aspect : Value

namespace Entered

/-- What the advice does behind the call: its body runs if it is of an after kind and accepts what
came of the call. -/
def close (e : Entered) (result : CallResult) (l : Loom) : CallResult × Loom :=
  match e.advice.kind, result with
  | .after, _ => e.advice.invokeAlone e.context e.aspect l
  | .afterReturning, .ok v =>
    e.advice.invokeIf (Advice.acceptsReturn · (v.getD .unit))
      { e.context with returnValue := some (v.getD .unit) } e.aspect l
  | .afterThrowing, .error (.thrown error) =>
    e.advice.invokeIf (Advice.acceptsThrown · error)
      { e.context with thrown := some error } e.aspect l
  | _, _ => (.ok none, l)

def leave (e : Entered) (result : CallResult) (l : Loom) : CallResult × Loom :=
  result.pastAdvice (e.close result l)

/-- Lets a result out past all advice, the innermost first. -/
def leaveAll : List Entered → CallResult × Loom → CallResult × Loom
  | [], r => r
  | e :: inner, r => e.leave (leaveAll inner r).1 (leaveAll inner r).2

/-- No advice fails as a result is let out. -/
def allSucceed : List Entered → CallResult × Loom → Bool
  | [], _ => true
  | e :: inner, r => allSucceed inner r && (e.close (leaveAll inner r).1 (leaveAll inner r).2).1.isOk

theorem leaveAll_eq_ok {entered : List Entered} {r : CallResult × Loom} {v : Option Value}
    (h : (leaveAll entered r).1 = .ok v) : r.1 = .ok v := by
  induction entered with
  | nil => exact h
  | cons e inner ih => exact ih (CallResult.pastAdvice_eq_ok h)

theorem leaveAll_of_allSucceed {entered : List Entered} {r : CallResult × Loom}
    (h : allSucceed entered r = true) : (leaveAll entered r).1 = r.1 := by
  induction entered with
  | nil => rfl
  | cons e inner ih =>
      simp only [allSucceed, Bool.and_eq_true] at h
      exact (CallResult.pastAdvice_of_isOk h.2).trans (ih h.1)

end Entered

namespace Advice

variable {a : Advice} {context : JoinPoint} {l : Loom}

/-- What an advice does before the call goes on: it gets its aspect, and its body runs if it is of
the before kind. -/
def enter (a : Advice) (context : JoinPoint) (target : Option Target) (l : Loom) :
    Except EngineError Entered × Loom :=
  match World.getInstanceFor World.build a.factory target l.world with
  | (.error e, w) => (.error e, { l with world := w })
  | (.ok i, w) =>
    let l := { l with world := w }
    match a.kind with
    | .before =>
      match a.invokeAlone context i.value l with
      | (.error e, l) => (.error e, l)
      | (.ok _, l) => (.ok ⟨a, context, i.value⟩, l)
    | _ => (.ok ⟨a, context, i.value⟩, l)

/-- Advice that is not around the call is entered, lets the call go on once with the arguments it
has, and is left. -/
theorem intercept_eq_enter_leave (hk : a.kind ≠ .around) (hc : context.canProceed = false)
    (target : Option Target) (next : Continuation) :
    a.intercept context target next l =
      match a.enter context target l with
      | (.error e, l) => (.error e, l)
      | (.ok e, l) => e.leave (next none l).1 (next none l).2 := by
  simp only [intercept, enter]
  -- The body may not go on, so of the two places where `intercept` uses `next` it is the call that
  -- reaches it.
  rcases World.getInstanceFor World.build a.factory target l.world with ⟨_ | i, w⟩
  · rfl
  · generalize hl : ({ l with world := w } : Loom) = l'
    cases hkind : a.kind with
    | around => exact absurd hkind hk
    | pointcut =>
        simp only [hl, Entered.leave, Entered.close, hkind]
        rfl
    | before =>
        simp only [hl, invoke_eq_invokeAlone hc]
        rcases a.invokeAlone context i.value l' with ⟨_ | v, l''⟩
        · rfl
        · simp only [Entered.leave, Entered.close, hkind]
          rfl
    | after =>
        simp only [hl, Entered.leave, Entered.close, hkind, invoke_eq_invokeAlone hc]
        rfl
    | afterReturning =>
        simp only [hl, Entered.leave, Entered.close, hkind]
        rcases next none l' with ⟨_ | v, l''⟩
        · rfl
        · exact guarded_eq_invokeIf { context with returnValue := some (v.getD .unit) } hc
            (acceptsReturn · (v.getD .unit)) i.value next (.ok v)
    | afterThrowing =>
        simp only [hl, Entered.leave, Entered.close, hkind]
        rcases next none l' with ⟨e | v, l''⟩
        · cases e with
          | thrown error =>
              exact guarded_eq_invokeIf { context with thrown := some error } hc
                (acceptsThrown · error) i.value next (.error (.thrown error))
          | _ => rfl
        · rfl

end Advice

namespace CallSite

variable (s : CallSite)

/-- Runs a call through a chain to a target that may do anything. -/
def runTo (call : List Value → Loom → CallResult × Loom) :
    List ChainElement → List Value → Loom → CallResult × Loom
  | [], arguments, l => call arguments l
  | e :: rest, arguments, l =>
    let pointcut := l.pointcut e.advisor.advice
    match s.admits e pointcut arguments with
    | .error error => (.error error, l)
    | .ok false => runTo call rest arguments l
    | .ok true =>
      let captured := (pointcut.captures? s.method s.targetType arguments).getD .empty
      e.advisor.advice.intercept { s.joinPoint arguments with captured := some captured } s.target
        (s.replace arguments (runTo call rest)) l

theorem runTo_callTarget : s.runTo s.callTarget = s.run := by
  funext chain
  induction chain with
  | nil => rfl
  | cons e rest ih =>
      funext arguments l
      rw [runTo, ih]
      rfl

/-- How a call comes to its target: the advice it has come past, the outermost first, the error
that stopped it on the way if there was one, and the state it has come to. -/
structure Approach where
  entered : List Entered
  stop : Option EngineError
  state : Loom

/-- The way of a call through a chain without around advice. -/
def approach : List ChainElement → List Value → Loom → Approach
  | [], _, l => ⟨[], none, l⟩
  | e :: rest, arguments, l =>
    let pointcut := l.pointcut e.advisor.advice
    match s.admits e pointcut arguments with
    | .error error => ⟨[], some error, l⟩
    | .ok false => approach rest arguments l
    | .ok true =>
      let captured := (pointcut.captures? s.method s.targetType arguments).getD .empty
      match e.advisor.advice.enter { s.joinPoint arguments with captured := some captured } s.target l with
      | (.error error, l) => ⟨[], some error, l⟩
      | (.ok entered, l) =>
        let inner := approach rest arguments l
        { inner with entered := entered :: inner.entered }

def Approach.reach (p : Approach) (call : List Value → Loom → CallResult × Loom)
    (arguments : List Value) : CallResult × Loom :=
  match p.stop with
  | some error => (.error error, p.state)
  | none => call arguments p.state

theorem runTo_eq_leaveAll {chain : List ChainElement} (h : ∀ e ∈ chain, e.advisor.advice.kind ≠ .around)
    (call : List Value → Loom → CallResult × Loom) (arguments : List Value) (l : Loom) :
    s.runTo call chain arguments l =
      Entered.leaveAll (s.approach chain arguments l).entered
        ((s.approach chain arguments l).reach call arguments) := by
  induction chain generalizing l with
  | nil => rfl
  | cons e rest ih =>
      rw [List.forall_mem_cons] at h
      simp only [runTo, approach]
      split
      · rfl
      · exact ih h.2 l
      · rw [Advice.intercept_eq_enter_leave h.1 rfl]
        split
        · rfl
        · simp only [replace, ih h.2]
          rfl

/-- A call through a chain without around advice comes past advice, then to its target at most once
and with its own arguments, whatever the target does, and back past the same advice. It returns
only what the target returned, and if no advice fails on the way back, the outcome of the target
is the outcome of the call. -/
theorem run_without_around (chain : List ChainElement) (h : ∀ e ∈ chain, e.advisor.advice.kind ≠ .around)
    (arguments : List Value) (l : Loom) :
    let p := s.approach chain arguments l
    s.run chain arguments l = s.runTo s.callTarget chain arguments l ∧
      ∀ call,
        (s.runTo call chain arguments l =
          match p.stop with
          | some error => Entered.leaveAll p.entered (.error error, p.state)
          | none => Entered.leaveAll p.entered (call arguments p.state)) ∧
        (∀ v, (s.runTo call chain arguments l).1 = .ok v →
          p.stop = none ∧ (call arguments p.state).1 = .ok v) ∧
        (p.stop = none → Entered.allSucceed p.entered (call arguments p.state) = true →
          (s.runTo call chain arguments l).1 = (call arguments p.state).1) := by
  intro p
  refine ⟨by rw [runTo_callTarget], fun call => ?_⟩
  have hrun : s.runTo call chain arguments l = Entered.leaveAll p.entered (p.reach call arguments) :=
    s.runTo_eq_leaveAll h call arguments l
  rw [hrun]
  cases hstop : p.stop with
  | some error =>
      have hreach : p.reach call arguments = (.error error, p.state) := by rw [Approach.reach, hstop]
      rw [hreach]
      refine ⟨rfl, fun v hv => ?_, fun hnone => nomatch hnone⟩
      cases Entered.leaveAll_eq_ok hv
  | none =>
      have hreach : p.reach call arguments = call arguments p.state := by rw [Approach.reach, hstop]
      rw [hreach]
      exact ⟨rfl, fun v hv => ⟨rfl, Entered.leaveAll_eq_ok hv⟩,
        fun _ hall => Entered.leaveAll_of_allSucceed hall⟩

/-- An order is not found, and four advice that succeed leave it at that. -/
theorem run_without_around_not_found :
    let audit := AspectDefinition.idle "audit" 0
      [("start", "Before", "execution(* find(..))"), ("stop", "After", "execution(* find(..))"),
        ("found", "AfterReturning", "execution(* find(..))"),
        ("missed", "AfterThrowing", "execution(* find(..))")]
    let given := audit.advisors (audit.factory (.empty 0)).1 (.standard true) (.empty 0)
    let method : Method := ⟨.ofName "Orders", "find", [], none⟩
    let p := Proxy.build method.owner none (given.1.toOption.getD [])
    let chain := (p.chainFor method given.2).1
    let s := p.site method fun _ => .error (.orderNotFound 7)
    let approach := s.approach chain [] given.2
    (∀ e ∈ chain, e.advisor.advice.kind ≠ .around) ∧ chain.length = 4 ∧ approach.stop = none ∧
      Entered.allSucceed approach.entered (s.callTarget [] approach.state) = true ∧
      (s.run chain [] given.2).1 = .error (.thrown (.orderNotFound 7)) := by
  intro audit given method p chain s approach
  have hkind : ∀ e ∈ chain, e.advisor.advice.kind ≠ .around := by decide +kernel
  have hstop : approach.stop = none := Option.isNone_iff_eq_none.1 (by decide +kernel)
  have hall : Entered.allSucceed approach.entered (s.callTarget [] approach.state) = true := by
    decide +kernel
  obtain ⟨hrun, hcall⟩ := s.run_without_around chain hkind [] given.2
  refine ⟨hkind, by decide +kernel, hstop, hall, ?_⟩
  rw [hrun]
  exact (hcall s.callTarget).2.2 hstop hall

end CallSite

end Weaving
