import Weaving.Proofs.PlainCalls

namespace Weaving

/-- What a course does that may not let the call go on: the notes that it leaves, what the memory is
behind it, and its result. Wherever it tries to go on, the refusal answers. -/
inductive Course.Tells (refusal : EngineError) :
    Course → Memory → List String → Memory → Except AdviceFailure (Option Value) → Prop
  | done (m : Memory) (result : Except AdviceFailure (Option Value)) : Tells refusal (.done result) m [] m result
  | log {rest : Course} {m m' : Memory} {notes : List String} {result : Except AdviceFailure (Option Value)}
      (text : String) (h : Tells refusal rest m notes m' result) :
      Tells refusal (.log text rest) m (text :: notes) m' result
  | access {next : Memory → Course} {m m' : Memory} {notes : List String}
      {result : Except AdviceFailure (Option Value)} (change : Memory → Memory)
      (h : Tells refusal (next m) (change m) notes m' result) :
      Tells refusal (.access change next) m notes m' result
  | proceed {next : Except EngineError (Option Value) → Course} {m m' : Memory} {notes : List String}
      {result : Except AdviceFailure (Option Value)} (arguments : Option (List Value))
      (h : Tells refusal (next (.error refusal)) m notes m' result) :
      Tells refusal (.proceed arguments next) m notes m' result

/-- What a call executes: the body of an advice, or the target. -/
inductive Executed where
  | body (e : Entered)
  | target (arguments : List Value)

namespace Executed

def event : Executed → Event
  | body e => .advice e.advice.aspectName e.advice.method.name e.context.arguments
  | target arguments => .target arguments

end Executed

/-- An execution with the notes that it leaves. -/
structure Performed where
  executed : Executed
  notes : List String

namespace Performed

def events (x : Performed) : List Event := x.executed.event :: x.notes.map .note

end Performed

def Event.isBody : Event → Bool
  | .advice _ _ _ | .target _ => true
  | _ => false

/-- Whether an event is an execution or the note of a body. -/
def Event.isTold : Event → Bool
  | .advice _ _ _ | .target _ | .note _ => true
  | _ => false

namespace World

/-- The events of a kind that happened so far, oldest first. -/
def kept (w : World) (kind : Event → Bool) : List Event := w.trace.reverse.filter kind

/-- The bodies that were executed so far. -/
def bodies (w : World) : List Event := w.kept Event.isBody

/-- The bodies that were executed so far, with the notes that were left. -/
def told (w : World) : List Event := w.kept Event.isTold

theorem kept_record (w : World) (kind : Event → Bool) (e : Event) :
    (w.record e).kept kind = w.kept kind ++ [e].filter kind := by
  simp only [kept, record, List.reverse_cons, List.filter_append]

end World

namespace Factory

/-- To get an aspect from the factory is no event of the kind, and leads to none. -/
def Spares (f : Factory) (target : Option Target) (kind : Event → Bool) : Prop :=
  ∀ w : World, (World.getInstanceFor World.build f target w).2.kept kind = w.kept kind

/-- To get an aspect from the factory no body is executed. -/
def Quiet (f : Factory) (target : Option Target) : Prop := f.Spares target Event.isBody

/-- To get an aspect from the factory no body is executed, and no note is left. -/
def Mute (f : Factory) (target : Option Target) : Prop := f.Spares target Event.isTold

/-- A constructor that only tells of itself leaves no other events. -/
theorem spares_construction {kind : Event → Bool} (hkind : ∀ name serial, kind (.construct name serial) = false)
    (cell counter : Nat) (name : String) (order : Int) (failures : List Nat) (message : String)
    (target : Option Target) :
    (simple cell counter name order (Program.construction name failures message)).Spares target kind := by
  intro w
  have hrecord (w : World) (serial : Nat) : (w.record (.construct name serial)).kept kind = w.kept kind := by
    rw [World.kept_record, List.filter_cons_of_neg (by simp [hkind]), List.filter_nil, List.append_nil]
  simp only [World.getInstanceFor, World.getInstance, World.build, Program.construction, Program.run,
    Program.finish]
  split
  · next heq =>
      obtain ⟨-, rfl⟩ := Prod.mk.inj heq
      exact hrecord _ _
  · next heq =>
      obtain ⟨-, rfl⟩ := Prod.mk.inj heq
      exact hrecord _ _

end Factory

namespace Loom

/-- The state behind a body that left events and kept something. -/
def behind (l : Loom) (events : List Event) (m : Memory) : Loom :=
  { l with world := { l.world with trace := events.reverse ++ l.world.trace }, memory := m }

theorem behind_record (l : Loom) (e : Event) (events : List Event) (m : Memory) :
    (l.record e).behind events m = l.behind (e :: events) m := by
  simp only [behind, record, World.record, List.reverse_cons, List.append_assoc, List.singleton_append]

theorem kept_behind (l : Loom) (events : List Event) (m : Memory) (kind : Event → Bool) :
    (l.behind events m).world.kept kind = l.world.kept kind ++ events.filter kind := by
  simp only [behind, World.kept, List.reverse_append, List.reverse_reverse, List.filter_append]

theorem kept_planning {kind : Event → Bool} (hkind : ∀ id, kind (.discovery id) = false) (l : Loom)
    (a : Advice) : (l.planning a).2.world.kept kind = l.world.kept kind := by
  simp only [planning]
  split
  · rfl
  · split
    · refine (World.kept_record _ _ _).trans ?_
      rw [List.filter_cons_of_neg (by simp [hkind]), List.filter_nil, List.append_nil]
    · rfl

end Loom

/-- A body that may not go on does what its course tells, and nothing else. -/
theorem Course.exists_tells (refusal : EngineError) (c : Course) (l : Loom) :
    ∃ notes m result, c.Tells refusal l.memory notes m result ∧
      c.follow (fun _ l => (.error refusal, l)) l = (result, l.behind (notes.map .note) m) := by
  induction c generalizing l with
  | done result => exact ⟨[], l.memory, result, .done _ _, rfl⟩
  | log text rest ih =>
      obtain ⟨notes, m, result, htells, hrun⟩ := ih (l.record (.note text))
      rw [Loom.behind_record] at hrun
      exact ⟨text :: notes, m, result, .log text htells, hrun⟩
  | access change next ih =>
      obtain ⟨notes, m, result, htells, hrun⟩ := ih l.memory (l.access change).2
      exact ⟨notes, m, result, .access change htells, hrun⟩
  | proceed arguments next ih =>
      obtain ⟨notes, m, result, htells, hrun⟩ := ih (.error refusal) l
      exact ⟨notes, m, result, .proceed arguments htells, hrun⟩

theorem CallResult.pastAdvice_snd (result : CallResult) (r : CallResult × Loom) :
    (result.pastAdvice r).2 = r.2 := by
  obtain ⟨_ | _, l⟩ := r <;> rfl

theorem Advice.perform_snd {a : Advice} {context : JoinPoint} {aspect : Value} {arguments : Arguments}
    {next : Continuation} {l : Loom} : (a.perform context aspect arguments next l).2 =
      ((a.method.body aspect arguments).follow (context.goOn next)
        (l.record (.advice a.aspectName a.method.name context.arguments))).2 := by
  simp only [perform]
  split
  · next heq => rw [heq]
  · next heq => rw [heq]

namespace Entered

variable {e : Entered} {v : Option Value} {l l' : Loom}

theorem exists_tells_of_perform {arguments : Arguments}
    (h : e.advice.perform e.context e.aspect arguments (fun _ l => (.error e.context.cannotProceed, l)) l =
      (.ok v, l')) :
    ∃ notes m,
      (e.advice.method.body e.aspect arguments).Tells e.context.cannotProceed l.memory notes m (.ok v) ∧
      l' = l.behind (Performed.events ⟨.body e, notes⟩) m := by
  -- Advice that may not proceed is refused by its context already, any other one here, in the same words.
  have hgo : e.context.goOn (fun _ l => (.error e.context.cannotProceed, l)) =
      fun _ l => (.error e.context.cannotProceed, l) := by
    rw [JoinPoint.goOn]
    split <;> rfl
  obtain ⟨notes, m, result, htells, hrun⟩ :=
    (e.advice.method.body e.aspect arguments).exists_tells e.context.cannotProceed
      (l.record (.advice e.advice.aspectName e.advice.method.name e.context.arguments))
  rw [Loom.behind_record] at hrun
  simp only [Advice.perform, hgo, hrun] at h
  cases result with
  | error failure => cases h
  | ok v =>
      cases h
      exact ⟨notes, m, htells, rfl⟩

/-- A body that is run alone has a plan by which its arguments are bound, and does with them what its
course tells. -/
theorem exists_tells (h : e.advice.invokeAlone e.context e.aspect l = (.ok v, l')) :
    ∃ plan arguments notes m, (l.planning e.advice).1.result = .ok plan ∧ plan.bind e.context = .ok arguments ∧
      (e.advice.method.body e.aspect arguments).Tells e.context.cannotProceed l.memory notes m (.ok v) ∧
      l' = (l.planning e.advice).2.behind (Performed.events ⟨.body e, notes⟩) m := by
  have hmemory : (l.planning e.advice).2.memory = l.memory := by
    simp only [Loom.planning]
    split
    · rfl
    · split <;> rfl
  rw [Advice.invokeAlone, Advice.invoke_eq] at h
  split at h
  · cases h
  · next plan hplan =>
      split at h
      · cases h
      · next arguments hbind =>
          obtain ⟨notes, m, htells, hbehind⟩ := exists_tells_of_perform h
          rw [hmemory] at htells
          exact ⟨plan, arguments, notes, m, hplan, hbind, htells, hbehind⟩

end Entered

namespace CallSite

variable {s : CallSite} {l l' l'' : Loom}

/-- How one state leads to another: by getting aspects for advice of the chain, by planning, and by what
is executed, in the order of the list. A body runs on the arguments that its plan binds, and does
what its course tells, with success. -/
inductive Account (s : CallSite) (chain : List ChainElement) : Loom → List Performed → Loom → Prop
  | nothing (l : Loom) : Account s chain l [] l
  | aspect {l l' : Loom} {xs : List Performed} {i : Instance} {w : World} (e : ChainElement) (he : e ∈ chain)
      (hget : World.getInstanceFor World.build e.advisor.advice.factory s.target l.world = (.ok i, w))
      (h : Account s chain { l with world := w } xs l') : Account s chain l xs l'
  | plan {l l' : Loom} {xs : List Performed} (a : Advice) (h : Account s chain (l.planning a).2 xs l') :
      Account s chain l xs l'
  | body {l l' : Loom} {xs : List Performed} (e : Entered) {plan : BindingPlan} {arguments : Arguments}
      {notes : List String} {m : Memory} {v : Option Value}
      (hplan : (l.planning e.advice).1.result = .ok plan) (hbind : plan.bind e.context = .ok arguments)
      (htells : (e.advice.method.body e.aspect arguments).Tells e.context.cannotProceed l.memory notes m (.ok v))
      (h : Account s chain ((l.planning e.advice).2.behind (Performed.events ⟨.body e, notes⟩) m) xs l') :
      Account s chain l (⟨.body e, notes⟩ :: xs) l'
  | target {l l' : Loom} {xs : List Performed} (arguments : List Value)
      (h : Account s chain (l.record (.target arguments)) xs l') :
      Account s chain l (⟨.target arguments, []⟩ :: xs) l'

/-- The way from one state to another on which what is executed is the list. -/
def Performs (s : CallSite) (chain : List ChainElement) (l : Loom) (xs : List Executed) (l' : Loom) : Prop :=
  ∃ performed : List Performed, performed.map Performed.executed = xs ∧ s.Account chain l performed l'

variable {chain : List ChainElement}

theorem Account.trans {xs ys : List Performed} (h : s.Account chain l xs l') (h' : s.Account chain l' ys l'') :
    s.Account chain l (xs ++ ys) l'' := by
  induction h with
  | nothing => exact h'
  | aspect e he hget _ ih => exact .aspect e he hget (ih h')
  | plan a _ ih => exact .plan a (ih h')
  | body e hplan hbind htells _ ih => exact .body e hplan hbind htells (ih h')
  | target arguments _ ih => exact .target arguments (ih h')

/-- Of a kind that neither planning nor getting an aspect leaves, there is nothing in the record but
what the executions left. -/
theorem Account.kept_eq {kind : Event → Bool} (hkind : ∀ id, kind (.discovery id) = false)
    {xs : List Performed} (h : s.Account chain l xs l')
    (hspares : ∀ e ∈ chain, e.advisor.advice.factory.Spares s.target kind) :
    l'.world.kept kind = l.world.kept kind ++ (xs.flatMap Performed.events).filter kind := by
  induction h with
  | nothing => exact (List.append_nil _).symm
  | @aspect l _ _ _ _ e he hget _ ih =>
      have hsame := hspares e he l.world
      rw [hget] at hsame
      rw [ih]
      exact congrArg (· ++ _) hsame
  | plan a _ ih => rw [ih, Loom.kept_planning hkind]
  | body e _ _ _ _ ih =>
      rw [ih, Loom.kept_behind, Loom.kept_planning hkind, List.append_assoc, List.flatMap_cons,
        List.filter_append]
  | @target l _ _ arguments _ ih =>
      rw [ih, List.flatMap_cons, List.filter_append, ← List.append_assoc]
      exact congrArg (· ++ _) (l.world.kept_record kind _)

theorem filter_isTold_events (xs : List Performed) :
    (xs.flatMap Performed.events).filter Event.isTold = xs.flatMap Performed.events := by
  refine List.filter_eq_self.2 fun e he => ?_
  obtain ⟨⟨executed, notes⟩, -, he⟩ := List.mem_flatMap.1 he
  rcases List.mem_cons.1 he with rfl | he
  · cases executed <;> rfl
  · obtain ⟨text, -, rfl⟩ := List.mem_map.1 he
    rfl

theorem filter_isBody_events (xs : List Performed) :
    (xs.flatMap Performed.events).filter Event.isBody =
      (xs.map Performed.executed).map Executed.event := by
  induction xs with
  | nil => rfl
  | cons x xs ih =>
      have hnotes : (x.notes.map Event.note).filter Event.isBody = [] := by
        refine List.filter_eq_nil_iff.2 fun e he => ?_
        obtain ⟨text, -, rfl⟩ := List.mem_map.1 he
        exact Bool.false_ne_true
      have hbody : x.executed.event.isBody = true := by cases x.executed <;> rfl
      rw [List.flatMap_cons, List.filter_append, ih, Performed.events, List.filter_cons_of_pos hbody, hnotes]
      rfl

end CallSite

namespace Entered

variable {s : CallSite} {chain : List ChainElement} {l l' : Loom}

/-- Whether the plan of the advice accepts what came of the call. -/
def isAccepted (l : Loom) (e : Entered) (accepts : BindingPlan → Bool) : Bool :=
  match (l.planning e.advice).1.result with
  | .ok plan => accepts plan
  | .error _ => false

/-- The body that is due behind a call with the given result: the one of after advice, of
after-returning advice that accepts the value, or of after-throwing advice that accepts the error. -/
def behind? (l : Loom) (result : CallResult) (e : Entered) : Option Entered :=
  match e.advice.kind, result with
  | .after, _ => some e
  | .afterReturning, .ok v =>
    if e.isAccepted l (Advice.acceptsReturn · (v.getD .unit)) then
      some { e with context := { e.context with returnValue := some (v.getD .unit) } }
    else none
  | .afterThrowing, .error (.thrown error) =>
    if e.isAccepted l (Advice.acceptsThrown · error) then
      some { e with context := { e.context with thrown := some error } }
    else none
  | _, _ => none

/-- What is executed on the way to the target. -/
def onTheWayIn (entered : List Entered) : List Executed :=
  (entered.filter (·.advice.kind = .before)).map .body

/-- What is executed on the way back. -/
def onTheWayBack (l : Loom) (result : CallResult) (entered : List Entered) : List Executed :=
  (entered.reverse.filterMap (behind? l result)).map .body

theorem onTheWayIn_cons (e : Entered) (inner : List Entered) : onTheWayIn (e :: inner) =
    (if e.advice.kind = .before then [.body e] else []) ++ onTheWayIn inner := by
  simp only [onTheWayIn, List.filter_cons, decide_eq_true_eq]
  split <;> rfl

theorem onTheWayBack_cons (l : Loom) (result : CallResult) (e : Entered) (inner : List Entered) :
    onTheWayBack l result (e :: inner) =
      onTheWayBack l result inner ++ (e.behind? l result).toList.map .body := by
  simp only [onTheWayBack, List.reverse_cons, List.filterMap_append, List.map_append]
  congr 2

end Entered

namespace CallSite

variable {s : CallSite} {chain : List ChainElement} {l l' later : Loom} {e : Entered}

theorem Performs.refl (l : Loom) : s.Performs chain l [] l := ⟨[], rfl, .nothing l⟩

theorem Performs.trans {xs ys : List Executed} (h : s.Performs chain l xs l')
    (h' : s.Performs chain l' ys later) : s.Performs chain l (xs ++ ys) later := by
  obtain ⟨performed, rfl, haccount⟩ := h
  obtain ⟨performed', rfl, haccount'⟩ := h'
  exact ⟨performed ++ performed', List.map_append, haccount.trans haccount'⟩

theorem Performs.plan (a : Advice) (l : Loom) : s.Performs chain l [] (l.planning a).2 :=
  ⟨[], rfl, .plan a (.nothing _)⟩

theorem Performs.body {v : Option Value} (h : e.advice.invokeAlone e.context e.aspect l = (.ok v, l')) :
    s.Performs chain l [.body e] l' := by
  obtain ⟨plan, arguments, notes, m, hplan, hbind, htells, rfl⟩ := Entered.exists_tells h
  exact ⟨[⟨.body e, notes⟩], rfl, .body e hplan hbind htells (.nothing _)⟩

theorem Performs.body_of_isOk (h : (e.advice.invokeAlone e.context e.aspect l).1.isOk = true) :
    s.Performs chain l [.body e] (e.advice.invokeAlone e.context e.aspect l).2 := by
  cases hrun : e.advice.invokeAlone e.context e.aspect l with
  | mk result l' =>
      cases result with
      | error error =>
          rw [hrun] at h
          cases h
      | ok v => exact .body hrun

theorem Performs.target (arguments : List Value) (l : Loom) :
    s.Performs chain l [.target arguments] (s.callTarget arguments l).2 := by
  have haccount : s.Account chain l [⟨.target arguments, []⟩] (l.record (.target arguments)) :=
    .target arguments (.nothing _)
  refine ⟨[⟨.target arguments, []⟩], rfl, ?_⟩
  simp only [callTarget]
  split <;> exact haccount

theorem performs_enter {element : ChainElement} {context : JoinPoint} (he : element ∈ chain)
    (h : element.advisor.advice.enter context s.target l = (.ok e, l')) :
    s.Performs chain l (if e.advice.kind = .before then [.body e] else []) l' := by
  simp only [Advice.enter] at h
  split at h
  · cases h
  · next i w hget =>
      have hfetch : s.Performs chain l [] { l with world := w } :=
        ⟨[], rfl, .aspect element he hget (.nothing _)⟩
      split at h
      · next hkind =>
          split at h
          · cases h
          · next v l'' hinvoke =>
              obtain ⟨rfl, rfl⟩ := by simpa using h
              rw [if_pos hkind]
              exact hfetch.trans (.body hinvoke)
      · next hkind =>
          obtain ⟨rfl, rfl⟩ := by simpa using h
          rw [if_neg hkind]
          exact hfetch

theorem performs_approach {elements : List ChainElement} (hsub : elements ⊆ chain) {arguments : List Value}
    (hstop : (s.approach elements arguments l).stop = none) :
    s.Performs chain l (Entered.onTheWayIn (s.approach elements arguments l).entered)
      (s.approach elements arguments l).state := by
  induction elements generalizing l with
  | nil => exact .refl l
  | cons element rest ih =>
      rw [List.cons_subset] at hsub
      simp only [approach] at hstop ⊢
      split at hstop
      · cases hstop
      · exact ih hsub.2 hstop
      · split at hstop
        · cases hstop
        · next e l' henter =>
            simp only [Entered.onTheWayIn_cons]
            exact (performs_enter hsub.1 henter).trans (ih hsub.2 hstop)

theorem keeps_invokeAlone (a : Advice) (context : JoinPoint) (aspect : Value) (l : Loom) :
    l.Keeps (a.invokeAlone context aspect l).2 :=
  (Advice.invoke_alike context aspect fun _ l' _ => (Loom.Keeps.refl l').alike _).2

theorem isAccepted_of_keeps {accepts : BindingPlan → Bool} {plan : BindingPlan}
    (hplan : (l.planning e.advice).1.result = .ok plan) (hl : (l.planning e.advice).2.Keeps later) :
    e.isAccepted later accepts = accepts plan := by
  have hlater : (later.planning e.advice).1 = (l.planning e.advice).1 := by
    rw [Loom.planning, hl _ _ (l.plans_planning e.advice)]
  rw [Entered.isAccepted, hlater, hplan]

theorem performs_invokeIf {accepts : BindingPlan → Bool} {context : JoinPoint}
    (hok : (e.advice.invokeIf accepts context e.aspect l).1.isOk = true)
    (hl : (e.advice.invokeIf accepts context e.aspect l).2.Keeps later) :
    s.Performs chain l
      ((if e.isAccepted later accepts then some { e with context } else none).toList.map .body)
      (e.advice.invokeIf accepts context e.aspect l).2 := by
  simp only [Advice.invokeIf] at hok hl ⊢
  cases hplan : (l.planning e.advice).1.result with
  | error error =>
      rw [hplan] at hok
      cases hok
  | ok plan =>
      simp only [hplan] at hok hl ⊢
      refine (Performs.plan e.advice l).trans ?_
      cases haccept : accepts plan with
      | false =>
          simp only [haccept, Bool.false_eq_true, if_false] at hl ⊢
          rw [isAccepted_of_keeps hplan hl, haccept, if_neg Bool.false_ne_true]
          exact .refl _
      | true =>
          simp only [haccept, if_true] at hok hl ⊢
          rw [isAccepted_of_keeps hplan ((keeps_invokeAlone _ _ _ _).trans hl), haccept, if_pos rfl]
          exact .body_of_isOk (e := { e with context }) hok

theorem performs_close {result : CallResult} (hok : (e.close result l).1.isOk = true)
    (hl : (e.close result l).2.Keeps later) :
    s.Performs chain l ((e.behind? later result).toList.map .body) (e.close result l).2 := by
  cases hkind : e.advice.kind with
  | before | around | pointcut =>
      simp only [Entered.close, Entered.behind?, hkind]
      exact .refl l
  | after =>
      simp only [Entered.close, Entered.behind?, hkind] at hok ⊢
      exact .body_of_isOk hok
  | afterReturning =>
      cases result with
      | error error =>
          simp only [Entered.close, Entered.behind?, hkind]
          exact .refl l
      | ok v =>
          simp only [Entered.close, Entered.behind?, hkind] at hok hl ⊢
          exact performs_invokeIf hok hl
  | afterThrowing =>
      cases result with
      | ok v =>
          simp only [Entered.close, Entered.behind?, hkind]
          exact .refl l
      | error error =>
          cases error with
          | thrown error =>
              simp only [Entered.close, Entered.behind?, hkind] at hok hl ⊢
              exact performs_invokeIf hok hl
          | _ =>
              simp only [Entered.close, Entered.behind?, hkind]
              exact .refl l

theorem keeps_close (e : Entered) (result : CallResult) (l : Loom) : l.Keeps (e.close result l).2 := by
  have hif (accepts : BindingPlan → Bool) (context : JoinPoint) :
      l.Keeps (e.advice.invokeIf accepts context e.aspect l).2 := by
    have hplan := l.keeps_planning e.advice
    simp only [Advice.invokeIf]
    split
    · exact hplan
    · split
      · exact hplan.trans (keeps_invokeAlone _ _ _ _)
      · exact hplan
  simp only [Entered.close]
  split
  · exact keeps_invokeAlone _ _ _ _
  · exact hif _ _
  · exact hif _ _
  · exact .refl l

theorem performs_leaveAll {entered : List Entered} {r : CallResult × Loom}
    (hall : Entered.allSucceed entered r = true) (hl : (Entered.leaveAll entered r).2.Keeps later) :
    s.Performs chain r.2 (Entered.onTheWayBack later r.1 entered) (Entered.leaveAll entered r).2 := by
  induction entered with
  | nil => exact .refl r.2
  | cons e inner ih =>
      simp only [Entered.allSucceed, Bool.and_eq_true] at hall
      have hleave : (Entered.leaveAll (e :: inner) r).2 =
          (e.close (Entered.leaveAll inner r).1 (Entered.leaveAll inner r).2).2 := by
        simp only [Entered.leaveAll, Entered.leave, CallResult.pastAdvice_snd]
      -- The inner bodies are due before this one, and with the result that they leave as it was.
      rw [Entered.onTheWayBack_cons, hleave]
      rw [hleave] at hl
      rw [Entered.leaveAll_of_allSucceed hall.1] at hl hall ⊢
      exact (ih hall.1 ((keeps_close e r.1 _).trans hl)).trans (performs_close hall.2 hl)

theorem advice_of_enter {a : Advice} {context : JoinPoint} {target : Option Target}
    (h : a.enter context target l = (.ok e, l')) : e.advice = a ∧ l.Keeps l' := by
  simp only [Advice.enter] at h
  split at h
  · cases h
  · next i w _ =>
      have hw := l.keeps_world w
      split at h
      · split at h
        · cases h
        · next heq =>
            have hbody := hw.trans (keeps_invokeAlone a context i.value { l with world := w })
            rw [heq] at hbody
            obtain ⟨rfl, rfl⟩ := by simpa using h
            exact ⟨rfl, hbody⟩
      · obtain ⟨rfl, rfl⟩ := by simpa using h
        exact ⟨rfl, hw⟩

/-- Whether the pointcut of an element lets its advice run, in the given state. -/
def letsRun (s : CallSite) (l : Loom) (arguments : List Value) (e : ChainElement) : Bool :=
  match s.admits e (l.pointcut e.advisor.advice) arguments with
  | .ok admitted => admitted
  | .error _ => false

/-- Where plans are made already, the call enters the advice that its arguments let run. -/
theorem advice_entered {start : Loom} (hl : start.Keeps l) {arguments : List Value}
    (hplan : ∀ e ∈ chain, ∃ p, start.plans e.advisor.advice.id = some p)
    (hstop : (s.approach chain arguments l).stop = none) :
    (s.approach chain arguments l).entered.map Entered.advice =
      (chain.filter (s.letsRun start arguments)).map (·.advisor.advice) := by
  induction chain generalizing l with
  | nil => rfl
  | cons e rest ih =>
      rw [List.forall_mem_cons] at hplan
      obtain ⟨⟨p, hp⟩, hrest⟩ := hplan
      simp only [approach, hl.pointcut_eq hp] at hstop ⊢
      rw [List.filter_cons, letsRun]
      split at hstop
      · cases hstop
      · next hadmits =>
          simp only [hadmits]
          exact ih hl hrest hstop
      · next hadmits =>
          simp only [hadmits, if_true, List.map_cons]
          split at hstop
          · cases hstop
          · next e' l' henter =>
              obtain ⟨hadvice, hkeeps⟩ := advice_of_enter henter
              simp only [List.map_cons, hadvice]
              rw [ih (hl.trans hkeeps) hrest hstop]

/-- What a call comes to if no advice stands in its way. -/
def outcome (s : CallSite) (arguments : List Value) : CallResult :=
  match s.respond arguments with
  | .error e => .error (.thrown e)
  | .ok v => .ok v

theorem callTarget_fst (arguments : List Value) (l : Loom) :
    (s.callTarget arguments l).1 = s.outcome arguments := by
  simp only [callTarget, outcome]
  cases s.respond arguments <;> rfl

theorem run_eq_leaveAll (h : ∀ e ∈ chain, e.advisor.advice.kind ≠ .around) {arguments : List Value}
    (hstop : (s.approach chain arguments l).stop = none) :
    s.run chain arguments l = Entered.leaveAll (s.approach chain arguments l).entered
      (s.callTarget arguments (s.approach chain arguments l).state) := by
  rw [← runTo_callTarget, s.runTo_eq_leaveAll h, Approach.reach, hstop]

/-- Without around advice, and if nothing fails, a call executes the bodies of before advice that the
arguments let run, in the order of the chain, then the target, then in reverse order the bodies
that are due behind it. Each body does what its course tells with the arguments that its plan binds,
and nothing else happens but that aspects are fetched and plans made. So these are the bodies in
the record, with their notes, if no constructor executes a body or leaves a note of its own. -/
theorem bodies_before_target_behind (s : CallSite) (chain : List ChainElement)
    (h : ∀ e ∈ chain, e.advisor.advice.kind ≠ .around) (arguments : List Value) (l : Loom)
    (hstop : (s.approach chain arguments l).stop = none)
    (hall : Entered.allSucceed (s.approach chain arguments l).entered
      (s.callTarget arguments (s.approach chain arguments l).state) = true) :
    let entered := (s.approach chain arguments l).entered
    let r := s.run chain arguments l
    let executed := Entered.onTheWayIn entered ++ .target arguments ::
      Entered.onTheWayBack r.2 (s.outcome arguments) entered
    r.1 = s.outcome arguments ∧
      (∃ performed : List Performed, performed.map Performed.executed = executed ∧
        s.Account chain l performed r.2 ∧
        ((∀ e ∈ chain, e.advisor.advice.factory.Mute s.target) →
          r.2.world.told = l.world.told ++ performed.flatMap Performed.events)) ∧
      ((∀ e ∈ chain, e.advisor.advice.factory.Quiet s.target) →
        r.2.world.bodies = l.world.bodies ++ executed.map Executed.event) ∧
      ((∀ e ∈ chain, ∃ p, l.plans e.advisor.advice.id = some p) →
        entered.map Entered.advice = (chain.filter (s.letsRun l arguments)).map (·.advisor.advice)) := by
  intro entered r executed
  have hrun := s.run_eq_leaveAll h hstop
  have hperforms : s.Performs chain l executed r.2 := by
    refine (performs_approach (List.Subset.refl chain) hstop).trans ?_
    have hback : s.Performs chain _ _ _ := performs_leaveAll hall (.refl _)
    rw [← hrun, callTarget_fst] at hback
    exact (Performs.target arguments _).trans hback
  obtain ⟨performed, hexecuted, haccount⟩ := hperforms
  refine ⟨?_, ⟨performed, hexecuted, haccount, fun hmute => ?_⟩, fun hquiet => ?_,
    fun hplan => advice_entered (.refl l) hplan hstop⟩
  · rw [← s.callTarget_fst arguments (s.approach chain arguments l).state]
    exact (congrArg Prod.fst hrun).trans (Entered.leaveAll_of_allSucceed hall)
  · refine (haccount.kept_eq (fun _ => rfl) hmute).trans ?_
    rw [filter_isTold_events]
    rfl
  · refine (haccount.kept_eq (fun _ => rfl) hquiet).trans ?_
    rw [filter_isBody_events, hexecuted]
    rfl

/-- An order is not found: advice for texts is passed over, and what was to follow a find is not
executed. What the first body keeps, the last one finds. -/
theorem bodies_of_missed_find :
    let advice (id : Nat) (name : String) (kind : AdviceKind) (root : Expr) (course : Course) : Advice :=
      ⟨id, ⟨name, .ofName "Audit", [], [], fun _ _ => course⟩, ⟨kind, "", none, none, none⟩, ⟨"", root, .empty⟩,
        .simple 0 0 "audit" 0 (Program.construction "audit" [] ""), .declared, id⟩
    let opening : Course := .access (fun m name => if name = "door" then some (.text "open") else m name)
      fun _ => .log "started" (.done (.ok none))
    let closing : Course := .access id fun m => .log (Value.renderOptional (m "door")) (.done (.ok none))
    let chain : List ChainElement :=
      [⟨⟨advice 0 "start" .before (.within ⟨"*"⟩) opening, 0⟩, false⟩,
        ⟨⟨advice 1 "text" .before (.args "" [.named ⟨"String"⟩]) (.log "text" (.done (.ok none))), 0⟩, true⟩,
        ⟨⟨advice 2 "stop" .after (.args "" [.any]) closing, 0⟩, true⟩,
        ⟨⟨advice 3 "found" .afterReturning (.within ⟨"*"⟩) (.log "found" (.done (.ok none))), 0⟩, false⟩,
        ⟨⟨advice 4 "missed" .afterThrowing (.within ⟨"*"⟩) (.log "missed" (.done (.ok none))), 0⟩, false⟩]
    let s : CallSite := ⟨⟨.ofName "Orders", "find", [.ofRuntime .word32], none⟩, .ofName "Orders", none,
      fun _ => .error (.orderNotFound 7)⟩
    let p := s.approach chain [.word32 7] (.empty 0)
    let r := s.run chain [.word32 7] (.empty 0)
    (∀ e ∈ chain, e.advisor.advice.kind ≠ .around) ∧ p.stop = none ∧
      Entered.allSucceed p.entered (s.callTarget [.word32 7] p.state) = true ∧
      (∀ e ∈ chain, e.advisor.advice.factory.Mute s.target) ∧
      (∃ performed : List Performed, s.Account chain (.empty 0) performed r.2 ∧
        performed.flatMap Performed.events =
          [.advice "audit" "start" [.word32 7], .note "started", .target [.word32 7],
            .advice "audit" "missed" [.word32 7], .note "missed", .advice "audit" "stop" [.word32 7],
            .note "String:open"]) := by
  intro advice opening closing chain s p r
  have hkind : ∀ e ∈ chain, e.advisor.advice.kind ≠ .around := by decide +kernel
  have hstop : p.stop = none := Option.isNone_iff_eq_none.1 (by decide +kernel)
  have hall : Entered.allSucceed p.entered (s.callTarget [.word32 7] p.state) = true := by decide +kernel
  have hmute : ∀ e ∈ chain, e.advisor.advice.factory.Mute s.target := by
    have h : (Factory.simple 0 0 "audit" 0 (Program.construction "audit" [] "")).Mute s.target :=
      Factory.spares_construction (fun _ _ => rfl) 0 0 "audit" 0 [] "" s.target
    simp only [chain, advice, List.forall_mem_cons]
    exact ⟨h, h, h, h, h, fun _ he => absurd he List.not_mem_nil⟩
  obtain ⟨-, ⟨performed, -, haccount, htold⟩, -, -⟩ :=
    s.bodies_before_target_behind chain hkind [.word32 7] (.empty 0) hstop hall
  refine ⟨hkind, hstop, hall, hmute, performed, haccount, (htold hmute).symm.trans ?_⟩
  decide +kernel

end CallSite

end Weaving
