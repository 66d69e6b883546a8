import Mathlib.Algebra.BigOperators.Intervals
import Weaving.Advice.Script
import Weaving.Proofs.BodyOrder
import Weaving.Proofs.HandedAdvice

namespace Weaving

/-- One time that a call goes on: with which arguments, from which state, and what comes of it. -/
structure Going where
  arguments : Option (List Value)
  before : Loom
  answer : CallResult × Loom

/-- The arguments with which a call goes on behind an advice that saw the given ones. -/
def Going.onward (arguments : List Value) (g : Going) : Option (List Value) :=
  match g.arguments with
  | none => some arguments
  | some others => if others.length = arguments.length then some others else none

theorem Going.length_onward {arguments others : List Value} {g : Going} (h : g.onward arguments = some others) :
    others.length = arguments.length := by
  unfold onward at h
  split at h
  · cases h
    rfl
  · split at h
    · next hlength =>
        cases h
        exact hlength
    · cases h

/-- The times that a body proceeds. -/
def Course.goings (next : Continuation) : Course → Loom → List Going
  | done _, _ => []
  | .log text rest, l => rest.goings next (l.record (.note text))
  | .access change resume, l => (resume l.memory).goings next (l.access change).2
  | .proceed arguments resume, l =>
    let answer := next arguments l
    ⟨arguments, l, answer⟩ :: (resume answer.1).goings next answer.2

theorem Course.answer_eq {next : Continuation} {c : Course} {l : Loom} {g : Going}
    (h : g ∈ c.goings next l) : g.answer = next g.arguments g.before := by
  induction c generalizing l with
  | done result => cases h
  | log text rest ih => exact ih h
  | access change resume ih => exact ih _ h
  | proceed arguments resume ih =>
      rcases List.mem_cons.1 h with rfl | h
      · rfl
      · exact ih _ h

namespace Advice

def goings (a : Advice) (context : JoinPoint) (aspect : Value) (next : Continuation) (l : Loom) :
    List Going :=
  match (l.planning a).1.result with
  | .error _ => []
  | .ok plan =>
    match plan.bind context with
    | .error _ => []
    | .ok arguments =>
      (a.method.body aspect arguments).goings (context.goOn next)
        ((l.planning a).2.record (.advice a.aspectName a.method.name context.arguments))

/-- The times that a call goes on behind an advice. It is the body of around advice that decides on
them, behind other advice the call goes on once. -/
def sequels (a : Advice) (context : JoinPoint) (target : Option Target) (next : Continuation) (l : Loom) :
    List Going :=
  if a.kind = .around then
    match World.getInstanceFor World.build a.factory target l.world with
    | (.error _, _) => []
    | (.ok i, w) => a.goings { context with canProceed := true } i.value next { l with world := w }
  else
    match a.enter context target l with
    | (.error _, _) => []
    | (.ok _, l) => [⟨none, l, next none l⟩]

variable {a : Advice} {context : JoinPoint} {aspect : Value} {target : Option Target} {next : Continuation}
  {l : Loom} {g : Going}

theorem answer_of_mem_goings (h : g ∈ a.goings context aspect next l) :
    g.answer = context.goOn next g.arguments g.before := by
  unfold goings at h
  split at h
  · cases h
  · split at h
    · cases h
    · exact Course.answer_eq h

theorem answer_of_mem_sequels (h : g ∈ a.sequels context target next l) :
    g.answer = next g.arguments g.before := by
  unfold sequels at h
  split at h
  · split at h
    · cases h
    · exact answer_of_mem_goings h
  · split at h
    · cases h
    · obtain rfl := List.mem_singleton.1 h
      rfl

end Advice

/-- Where a call stands: the part of the chain that is ahead, with the arguments and in the state in
which it comes to it. -/
structure Position where
  chain : List ChainElement
  arguments : List Value
  state : Loom

/-- The arguments that the target is called with, if nothing else is ahead. -/
def Position.targeted? (q : Position) : Option (List Value) :=
  if q.chain.isEmpty then some q.arguments else none

namespace Executed

def arguments : Executed → List Value
  | body e => e.context.arguments
  | target arguments => arguments

def targeted? : Executed → Option (List Value)
  | body _ => none
  | target arguments => some arguments

end Executed

namespace CallSite

variable (s : CallSite)

/-- What the advice of an element sees of a call. -/
def seenBy (e : ChainElement) (arguments : List Value) (l : Loom) : JoinPoint :=
  { s.joinPoint arguments with
    captured := some (((l.pointcut e.advisor.advice).captures? s.method s.targetType arguments).getD .empty) }

/-- The times that a call goes on behind the element it has come to. -/
def goings (q : Position) : List Going :=
  match q.chain with
  | [] => []
  | e :: rest =>
    match s.admits e (q.state.pointcut e.advisor.advice) q.arguments with
    | .ok true =>
      e.advisor.advice.sequels (s.seenBy e q.arguments q.state) s.target
        (s.replace q.arguments (s.run rest)) q.state
    | _ => []

/-- Where a call comes to next. -/
def behind (q : Position) : List Position :=
  match q.chain with
  | [] => []
  | e :: rest =>
    match s.admits e (q.state.pointcut e.advisor.advice) q.arguments with
    | .ok false => [⟨rest, q.arguments, q.state⟩]
    | _ => (s.goings q).filterMap fun g => (g.onward q.arguments).map fun others => ⟨rest, others, g.before⟩

/-- All that a call comes to, in the order in which it comes there. -/
def positions : List ChainElement → List Value → Loom → List Position
  | [], arguments, l => [⟨[], arguments, l⟩]
  | e :: rest, arguments, l =>
    ⟨e :: rest, arguments, l⟩ ::
      (s.behind ⟨e :: rest, arguments, l⟩).flatMap fun q => positions rest q.arguments q.state

/-- How one state leads to another, whether or not anything fails on the way: by getting aspects for
advice of the chain, by planning, by notes and by what bodies keep, and by executing what is in the
list. -/
inductive Yields (s : CallSite) (chain : List ChainElement) : Loom → List Executed → Loom → Prop
  | nothing (l : Loom) : Yields s chain l [] l
  | aspect {l l' : Loom} {xs : List Executed} {r : Except EngineError Instance × World} (e : ChainElement)
      (he : e ∈ chain) (hget : World.getInstanceFor World.build e.advisor.advice.factory s.target l.world = r)
      (h : Yields s chain { l with world := r.2 } xs l') : Yields s chain l xs l'
  | plan {l l' : Loom} {xs : List Executed} (a : Advice) (h : Yields s chain (l.planning a).2 xs l') :
      Yields s chain l xs l'
  | note {l l' : Loom} {xs : List Executed} (text : String) (h : Yields s chain (l.record (.note text)) xs l') :
      Yields s chain l xs l'
  | keep {l l' : Loom} {xs : List Executed} (change : Memory → Memory)
      (h : Yields s chain (l.access change).2 xs l') : Yields s chain l xs l'
  | execute {l l' : Loom} {xs : List Executed} (x : Executed) (h : Yields s chain (l.record x.event) xs l') :
      Yields s chain l (x :: xs) l'

variable {s} {chain : List ChainElement} {n : Nat} {l l' l'' : Loom} {xs ys : List Executed}
  {ts us : List (List Value)} {a : Advice} {context : JoinPoint} {aspect : Value} {next : Continuation}

theorem Yields.trans (h : s.Yields chain l xs l') (h' : s.Yields chain l' ys l'') :
    s.Yields chain l (xs ++ ys) l'' := by
  induction h with
  | nothing => exact h'
  | aspect e he hget _ ih => exact .aspect e he hget (ih h')
  | plan a _ ih => exact .plan a (ih h')
  | note text _ ih => exact .note text (ih h')
  | keep change _ ih => exact .keep change (ih h')
  | execute x _ ih => exact .execute x (ih h')

theorem Yields.bodies_eq (h : s.Yields chain l xs l')
    (hquiet : ∀ e ∈ chain, e.advisor.advice.factory.Quiet s.target) :
    l'.world.bodies = l.world.bodies ++ xs.map Executed.event := by
  induction h with
  | nothing => exact (List.append_nil _).symm
  | @aspect l _ _ _ e he hget _ ih =>
      have hsame := hquiet e he l.world
      rw [hget] at hsame
      rw [ih]
      exact congrArg (· ++ _) hsame
  | plan a _ ih => rw [ih, World.bodies, Loom.kept_planning fun _ => rfl, World.bodies]
  | @note l _ _ text _ ih =>
      rw [ih]
      exact congrArg (· ++ _) ((l.world.kept_record _ _).trans (List.append_nil _))
  | keep change _ ih => exact ih
  | @execute l _ _ x _ ih =>
      have hbody : x.event.isBody = true := by cases x <;> rfl
      have hrecord : (l.record x.event).world.bodies = l.world.bodies ++ [x.event] := by
        refine (l.world.kept_record _ _).trans ?_
        rw [List.filter_cons_of_pos hbody, List.filter_nil]
        rfl
      rw [ih, hrecord, List.append_assoc, List.map_cons, List.singleton_append]

/-- The way from one state to another on which all that is executed has arguments of the given number,
and the target those in the list. -/
def Within (s : CallSite) (chain : List ChainElement) (n : Nat) (l : Loom) (ts : List (List Value))
    (l' : Loom) : Prop :=
  ∃ xs, s.Yields chain l xs l' ∧ (∀ x ∈ xs, x.arguments.length = n) ∧ xs.filterMap Executed.targeted? = ts

theorem Within.refl (l : Loom) : s.Within chain n l [] l := ⟨[], .nothing l, List.forall_mem_nil _, rfl⟩

theorem Within.trans (h : s.Within chain n l ts l') (h' : s.Within chain n l' us l'') :
    s.Within chain n l (ts ++ us) l'' := by
  obtain ⟨xs, hxs, hlength, rfl⟩ := h
  obtain ⟨ys, hys, hlength', rfl⟩ := h'
  refine ⟨xs ++ ys, hxs.trans hys, fun x hx => ?_, List.filterMap_append⟩
  rcases List.mem_append.1 hx with hx | hx
  · exact hlength x hx
  · exact hlength' x hx

theorem Within.fetch {e : ChainElement} (he : e ∈ chain) (l : Loom) : s.Within chain n l []
    { l with world := (World.getInstanceFor World.build e.advisor.advice.factory s.target l.world).2 } :=
  ⟨[], .aspect e he rfl (.nothing _), List.forall_mem_nil _, rfl⟩

theorem Within.plan (a : Advice) (l : Loom) : s.Within chain n l [] (l.planning a).2 :=
  ⟨[], .plan a (.nothing _), List.forall_mem_nil _, rfl⟩

theorem Within.note (text : String) (l : Loom) : s.Within chain n l [] (l.record (.note text)) :=
  ⟨[], .note text (.nothing _), List.forall_mem_nil _, rfl⟩

theorem Within.keep (change : Memory → Memory) (l : Loom) : s.Within chain n l [] (l.access change).2 :=
  ⟨[], .keep change (.nothing _), List.forall_mem_nil _, rfl⟩

theorem Within.execute {x : Executed} (hx : x.arguments.length = n) (l : Loom) :
    s.Within chain n l x.targeted?.toList (l.record x.event) := by
  refine ⟨[x], .execute x (.nothing _), fun y hy => ?_, ?_⟩
  · rwa [List.mem_singleton.1 hy]
  · cases x <;> rfl

/-- A body adds nothing to what comes of going on but notes and what it keeps. -/
theorem Within.course {ts : Going → List (List Value)} (c : Course)
    (h : ∀ g ∈ c.goings next l, s.Within chain n g.before (ts g) g.answer.2) :
    s.Within chain n l ((c.goings next l).flatMap ts) (c.follow next l).2 := by
  induction c generalizing l with
  | done result => exact .refl l
  | log text rest ih => exact (Within.note text l).trans (ih h)
  | access change resume ih => exact (Within.keep change l).trans (ih _ h)
  | proceed arguments resume ih =>
      rw [Course.goings, List.forall_mem_cons] at h
      exact h.1.trans (ih _ h.2)

theorem Within.invoke {ts : Going → List (List Value)} (hlength : context.arguments.length = n)
    (h : ∀ g ∈ a.goings context aspect next l, s.Within chain n g.before (ts g) g.answer.2) :
    s.Within chain n l ((a.goings context aspect next l).flatMap ts) (a.invoke context aspect next l).2 := by
  rw [Advice.invoke_eq]
  unfold Advice.goings at h ⊢
  cases hplan : (l.planning a).1.result with
  | error e => exact .plan a l
  | ok plan =>
      simp only [hplan] at h ⊢
      cases hbind : plan.bind context with
      | error e => exact .plan a l
      | ok arguments =>
          simp only [hbind] at h ⊢
          rw [Advice.perform_snd]
          refine (Within.plan a l).trans ?_
          exact (Within.execute (x := .body ⟨a, context, aspect⟩) hlength _).trans (.course _ h)

theorem Within.invokeAlone (a : Advice) (hlength : context.arguments.length = n) (aspect : Value) (l : Loom) :
    s.Within chain n l [] (a.invokeAlone context aspect l).2 := by
  have hgoings : ∀ g ∈ a.goings context aspect (fun _ l => (.error context.cannotProceed, l)) l,
      s.Within chain n g.before [] g.answer.2 := by
    intro g hg
    rw [Advice.answer_of_mem_goings hg, JoinPoint.goOn]
    split <;> exact .refl _
  have hinvoke := Within.invoke hlength hgoings
  rwa [List.flatMap_eq_nil_iff.2 fun _ _ => rfl] at hinvoke

theorem Within.invokeIf (a : Advice) (accepts : BindingPlan → Bool) (hlength : context.arguments.length = n)
    (aspect : Value) (l : Loom) : s.Within chain n l [] (a.invokeIf accepts context aspect l).2 := by
  simp only [Advice.invokeIf]
  split
  · exact .plan a l
  · split
    · exact (Within.plan a l).trans (.invokeAlone a hlength aspect _)
    · exact .plan a l

theorem Within.leave (e : Entered) (hlength : e.context.arguments.length = n) (result : CallResult)
    (l : Loom) : s.Within chain n l [] (e.leave result l).2 := by
  rw [Entered.leave, CallResult.pastAdvice_snd]
  unfold Entered.close
  split
  · exact .invokeAlone e.advice hlength e.aspect l
  · refine .invokeIf e.advice _ ?_ e.aspect l
    exact hlength
  · refine .invokeIf e.advice _ ?_ e.aspect l
    exact hlength
  · exact .refl l

theorem Within.enter {e : ChainElement} (he : e ∈ chain) (hlength : context.arguments.length = n) (l : Loom) :
    s.Within chain n l [] (e.advisor.advice.enter context s.target l).2 := by
  have hfetch := Within.fetch (s := s) (n := n) he l
  simp only [Advice.enter]
  split
  · next hget =>
      rw [hget] at hfetch
      exact hfetch
  · next i w hget =>
      rw [hget] at hfetch
      have halone := hfetch.trans (.invokeAlone e.advisor.advice hlength i.value _)
      split
      · split
        · next hbody =>
            rw [hbody] at halone
            exact halone
        · next hbody =>
            rw [hbody] at halone
            exact halone
      · exact hfetch

theorem context_of_enter {a : Advice} {target : Option Target} {entered : Entered}
    (h : a.enter context target l = (.ok entered, l')) : entered.context = context := by
  simp only [Advice.enter] at h
  split at h
  · cases h
  · split at h
    · split at h
      · cases h
      · cases h
        rfl
    · cases h
      rfl

theorem Within.intercept {ts : Going → List (List Value)} {e : ChainElement} (he : e ∈ chain)
    (hlength : context.arguments.length = n) (hcontext : context.canProceed = false)
    (h : ∀ g ∈ e.advisor.advice.sequels context s.target next l, s.Within chain n g.before (ts g) g.answer.2) :
    s.Within chain n l ((e.advisor.advice.sequels context s.target next l).flatMap ts)
      (e.advisor.advice.intercept context s.target next l).2 := by
  by_cases hkind : e.advisor.advice.kind = .around
  · have hfetch := Within.fetch (s := s) (n := n) he l
    rw [Advice.sequels, if_pos hkind] at h ⊢
    simp only [Advice.intercept, hkind]
    cases hget : World.getInstanceFor World.build e.advisor.advice.factory s.target l.world with
    | mk r w =>
        rw [hget] at hfetch h
        cases r with
        | error error => exact hfetch
        | ok i => exact hfetch.trans (.invoke hlength h)
  · have henter := Within.enter (s := s) he hlength l
    rw [Advice.intercept_eq_enter_leave hkind hcontext]
    rw [Advice.sequels, if_neg hkind] at h ⊢
    cases hpast : e.advisor.advice.enter context s.target l with
    | mk r l' =>
        rw [hpast] at henter h
        cases r with
        | error error => exact henter
        | ok entered =>
            have hnext := h _ (List.mem_singleton_self _)
            have hsame : entered.context.arguments.length = n := by rw [context_of_enter hpast, hlength]
            have hleave : s.Within chain n _ [] _ := .leave entered hsame (next none l').1 (next none l').2
            have hway := (henter.trans hnext).trans hleave
            rw [List.nil_append, List.append_nil] at hway
            dsimp only
            rw [List.flatMap_singleton]
            exact hway

section Run

variable {e : ChainElement} {rest elements : List ChainElement} {arguments others : List Value} {g : Going}
  {q : Position}

theorem replace_of_onward (s : CallSite) (run : List Value → Loom → CallResult × Loom)
    (h : g.onward arguments = some others) : s.replace arguments run g.arguments l = run others l := by
  unfold Going.onward at h
  split at h
  · next hnone =>
      cases h
      rw [hnone]
      rfl
  · next others' hsome =>
      split at h
      · next hlength =>
          cases h
          rw [hsome, replace, if_pos hlength]
      · cases h

theorem replace_of_onward_none (s : CallSite) (run : List Value → Loom → CallResult × Loom)
    (h : g.onward arguments = none) :
    ∃ text, s.replace arguments run g.arguments l = (.error (.usage text), l) := by
  unfold Going.onward at h
  split at h
  · cases h
  · next others hsome =>
      split at h
      · cases h
      · next hlength =>
          rw [hsome, replace, if_neg hlength]
          exact ⟨_, rfl⟩

theorem run_of_admits (hadmits : s.admits e (l.pointcut e.advisor.advice) arguments = .ok true) :
    s.run (e :: rest) arguments l = e.advisor.advice.intercept (s.seenBy e arguments l) s.target
      (s.replace arguments (s.run rest)) l := by
  simp only [run, hadmits]
  rfl

theorem goings_of_admits (hadmits : s.admits e (l.pointcut e.advisor.advice) arguments = .ok true) :
    s.goings ⟨e :: rest, arguments, l⟩ = e.advisor.advice.sequels (s.seenBy e arguments l) s.target
      (s.replace arguments (s.run rest)) l := by
  simp only [goings, hadmits]

theorem answer_of_mem_goings (h : g ∈ s.goings ⟨e :: rest, arguments, l⟩) :
    g.answer = s.replace arguments (s.run rest) g.arguments g.before := by
  simp only [goings] at h
  split at h
  · exact Advice.answer_of_mem_sequels h
  · cases h

theorem Within.run (hsub : elements ⊆ chain) : s.Within chain arguments.length l
    ((s.positions elements arguments l).filterMap Position.targeted?) (s.run elements arguments l).2 := by
  induction elements generalizing arguments l with
  | nil =>
      have htarget : s.Within chain arguments.length l [arguments] (l.record (.target arguments)) :=
        .execute (x := .target arguments) rfl l
      rw [CallSite.run, callTarget]
      split <;> exact htarget
  | cons e rest ih =>
      rw [List.cons_subset] at hsub
      rw [positions, List.filterMap_cons_none rfl, List.filterMap_flatMap]
      cases hadmits : s.admits e (l.pointcut e.advisor.advice) arguments with
      | error error =>
          simp only [CallSite.run, behind, goings, hadmits]
          exact .refl l
      | ok admitted =>
          cases admitted with
          | false =>
              simp only [CallSite.run, behind, hadmits, List.flatMap_singleton]
              exact ih hsub.2
          | true =>
              have hgoing : ∀ g ∈ s.goings ⟨e :: rest, arguments, l⟩, s.Within chain arguments.length g.before
                  (((g.onward arguments).map fun others => (⟨rest, others, g.before⟩ : Position)).toList.flatMap
                    fun q => (s.positions rest q.arguments q.state).filterMap Position.targeted?) g.answer.2 := by
                intro g hg
                rw [answer_of_mem_goings hg]
                cases honward : g.onward arguments with
                | none =>
                    obtain ⟨text, hrefused⟩ := s.replace_of_onward_none (s.run rest) honward
                    rw [hrefused]
                    exact .refl _
                | some others =>
                    rw [s.replace_of_onward (s.run rest) honward, ← Going.length_onward honward]
                    simpa using ih hsub.2
              simp only [behind, hadmits]
              rw [List.filterMap_eq_flatMap_toList, List.flatMap_assoc, run_of_admits hadmits]
              rw [goings_of_admits hadmits] at hgoing ⊢
              exact .intercept hsub.1 rfl rfl hgoing

theorem length_arguments_of_mem_behind {q' : Position} (h : q' ∈ s.behind q) :
    q'.arguments.length = q.arguments.length := by
  unfold behind at h
  split at h
  · cases h
  · split at h
    · obtain rfl := List.mem_singleton.1 h
      rfl
    · obtain ⟨g, -, hg⟩ := List.mem_filterMap.1 h
      obtain ⟨others, honward, rfl⟩ := Option.map_eq_some_iff.1 hg
      exact Going.length_onward honward

theorem length_arguments_of_mem_positions (h : q ∈ s.positions elements arguments l) :
    q.arguments.length = arguments.length := by
  induction elements generalizing arguments l with
  | nil =>
      obtain rfl := List.mem_singleton.1 h
      rfl
  | cons e rest ih =>
      rcases List.mem_cons.1 h with rfl | h
      · rfl
      · obtain ⟨next, hnext, h⟩ := List.mem_flatMap.1 h
        exact (ih h).trans (length_arguments_of_mem_behind hnext)

theorem length_behind (hadmits : s.admits e (l.pointcut e.advisor.advice) arguments = .ok true) :
    (s.behind ⟨e :: rest, arguments, l⟩).length =
      (s.goings ⟨e :: rest, arguments, l⟩).countP fun g => (g.onward arguments).isSome := by
  simp only [behind, hadmits, List.length_filterMap_eq_countP, Option.isSome_map]

/-- Where a call succeeds, it has come past the advice it met. -/
theorem exists_goings_eq_singleton (hkind : e.advisor.advice.kind ≠ .around)
    (hadmits : s.admits e (l.pointcut e.advisor.advice) arguments = .ok true)
    (hok : (s.run (e :: rest) arguments l).1.isOk = true) :
    ∃ l', s.goings ⟨e :: rest, arguments, l⟩ = [⟨none, l', s.run rest arguments l'⟩] := by
  rw [run_of_admits hadmits, Advice.intercept_eq_enter_leave hkind rfl] at hok
  rw [goings_of_admits hadmits, Advice.sequels, if_neg hkind]
  rcases hpast : e.advisor.advice.enter (s.seenBy e arguments l) s.target l with ⟨error | entered, l'⟩
  · rw [hpast] at hok
    cases hok
  · exact ⟨l', rfl⟩

/-- The pointcut of the element that is next matches, the call succeeds from here, and if it is around
advice that is next, its body goes on as often as the number for it says. The numbers are given
by how many around advice stand behind. -/
def Steady (s : CallSite) (count : Nat → Nat) (q : Position) : Prop :=
  ∀ e ∈ q.chain.head?, s.letsRun q.state q.arguments e = true ∧
    (s.run q.chain q.arguments q.state).1.isOk = true ∧
    (e.advisor.advice.kind = .around →
      ((s.goings q).countP fun g => (g.onward q.arguments).isSome) =
        count (q.chain.tail.countP (·.advisor.advice.kind = .around)))

instance (s : CallSite) (count : Nat → Nat) (q : Position) : Decidable (s.Steady count q) :=
  inferInstanceAs (Decidable (∀ e ∈ q.chain.head?, _))

theorem admits_of_letsRun (h : s.letsRun l arguments e = true) :
    s.admits e (l.pointcut e.advisor.advice) arguments = .ok true := by
  unfold letsRun at h
  split at h
  · next hadmits => rw [hadmits, h]
  · cases h

theorem length_behind_of_steady {count : Nat → Nat} (h : s.Steady count ⟨e :: rest, arguments, l⟩) :
    (s.behind ⟨e :: rest, arguments, l⟩).length =
      if e.advisor.advice.kind = .around then count (rest.countP (·.advisor.advice.kind = .around)) else 1 := by
  obtain ⟨hruns, hok, hcount⟩ := h e rfl
  have hadmits := admits_of_letsRun hruns
  rw [length_behind hadmits]
  split
  · next hkind => exact hcount hkind
  · next hkind =>
      obtain ⟨l', hgoings⟩ := exists_goings_eq_singleton hkind hadmits hok
      rw [hgoings]
      rfl

/-- Each around advice multiplies the calls of the target. -/
theorem length_targeted_of_steady {count : Nat → Nat}
    (h : ∀ q ∈ s.positions elements arguments l, s.Steady count q) :
    ((s.positions elements arguments l).filterMap Position.targeted?).length =
      ∏ k ∈ Finset.range (elements.countP (·.advisor.advice.kind = .around)), count k := by
  induction elements generalizing arguments l with
  | nil => rfl
  | cons e rest ih =>
      rw [positions, List.forall_mem_cons] at h
      obtain ⟨hhead, hbehind⟩ := h
      have hrest : ∀ q ∈ s.behind ⟨e :: rest, arguments, l⟩,
          ((s.positions rest q.arguments q.state).filterMap Position.targeted?).length =
            ∏ k ∈ Finset.range (rest.countP (·.advisor.advice.kind = .around)), count k :=
        fun q hq => ih fun q' hq' => hbehind q' (List.mem_flatMap.2 ⟨q, hq, hq'⟩)
      rw [positions, List.filterMap_cons_none rfl, List.filterMap_flatMap, List.length_flatMap,
        List.map_congr_left hrest, List.map_const', List.sum_replicate, length_behind_of_steady hhead,
        List.countP_cons]
      by_cases hkind : e.advisor.advice.kind = .around
      · rw [if_pos hkind, if_pos (decide_eq_true hkind), Finset.prod_range_succ, Nat.mul_comm]
        rfl
      · rw [if_neg hkind, if_neg (by simpa using hkind), one_nsmul, Nat.add_zero]

end Run

end CallSite

namespace Proxy

open CallSite

/-- A call through a proxy keeps the number of its arguments, wherever it comes to and whatever bodies
do. A body that goes on runs what is behind it: with the arguments that it was given itself, or with
others if they are as many, and if they are not, nothing runs. The target is called at the ends of
these ways, so if nothing stops a call, it is called as often as the product of the numbers says. -/
theorem proceeding_keeps_arity (p : Proxy) (method : Method) (arguments : List Value)
    (respond : List Value → Except Thrown (Option Value)) (l : Loom) :
    let s := p.site method respond
    let chain := (p.chainFor method l).1
    let positions := s.positions chain arguments l
    let r := s.run chain arguments l
    p.invoke method arguments respond l = (r.1, (p.chainFor method l).2, r.2) ∧
    (∀ q ∈ positions, q.arguments.length = arguments.length) ∧
    (∀ q ∈ positions, ∀ e rest, q.chain = e :: rest → ∀ g ∈ s.goings q,
      (g.arguments = none → g.answer = s.run rest q.arguments g.before) ∧
      ∀ others, g.arguments = some others →
        (others.length = arguments.length → g.answer = s.run rest others g.before) ∧
        (others.length ≠ arguments.length → ∃ text, g.answer = (.error (.usage text), g.before))) ∧
    ∃ executed, s.Yields chain l executed r.2 ∧
      (∀ x ∈ executed, x.arguments.length = arguments.length) ∧
      executed.filterMap Executed.targeted? = positions.filterMap Position.targeted? ∧
      ((∀ e ∈ chain, e.advisor.advice.factory.Quiet p.target) →
        r.2.world.bodies = l.world.bodies ++ executed.map Executed.event) ∧
      ∀ count : Nat → Nat, (∀ q ∈ positions, s.Steady count q) →
        (executed.filterMap Executed.targeted?).length =
          ∏ k ∈ Finset.range (chain.countP (·.advisor.advice.kind = .around)), count k := by
  intro s chain positions r
  refine ⟨?_, fun q => length_arguments_of_mem_positions, ?_, ?_⟩
  · simp only [invoke, site_chainFor]
    rfl
  · rintro ⟨_, seen, state⟩ hq e rest rfl g hg
    have hlength : seen.length = arguments.length := length_arguments_of_mem_positions hq
    rw [answer_of_mem_goings hg]
    refine ⟨fun hnone => by rw [hnone]; rfl, fun others hsome => ⟨fun hsame => ?_, fun hother => ?_⟩⟩
    · rw [hsome, replace, if_pos (hsame.trans hlength.symm)]
    · rw [hsome, replace, if_neg fun hsame => hother (hsame.trans hlength)]
      exact ⟨_, rfl⟩
  · have hrun : s.Within chain arguments.length l _ r.2 := Within.run (List.Subset.refl chain)
    obtain ⟨executed, hyields, hlength, htargeted⟩ := hrun
    refine ⟨executed, hyields, hlength, htargeted, hyields.bodies_eq, fun count hsteady => ?_⟩
    rw [htargeted]
    exact length_targeted_of_steady hsteady

/-- The outer advice goes on twice, and in between it tries to go on without any argument. The inner one
goes on three times, the second time with an argument of its own. So there are six calls of the target. -/
theorem find_proceeded_twice_and_three_times :
    let advice (id : Nat) (name : String) (script : List Action) : Advice :=
      ⟨id, ⟨name, .ofName "Audit", [⟨none, .proceedingJoinPoint⟩], [], Action.body script⟩,
        ⟨.around, "", none, none, none⟩, ⟨"", .within ⟨"*"⟩, .empty⟩,
        .simple 0 0 "audit" 0 (Program.construction "audit" [] ""), .declared, id⟩
    let outer := advice 0 "outer" [.proceed none, .attempt (some []), .proceed (some [.word32 8])]
    let inner := advice 1 "inner" [.proceed none, .proceed (some [.word32 9]), .proceed none]
    let p := Proxy.build (.ofName "Orders") none [⟨outer, 0⟩, ⟨inner, 1⟩]
    let find : Method := ⟨.ofName "Orders", "find", [.ofRuntime .word32], none⟩
    let s := p.site find fun _ => .ok none
    let chain := (p.chainFor find (.empty 0)).1
    let positions := s.positions chain [.word32 7] (.empty 0)
    let count (behind : Nat) : Nat := if behind = 0 then 3 else 2
    (∀ q ∈ positions, s.Steady count q) ∧
      positions.filterMap Position.targeted? =
        [[.word32 7], [.word32 9], [.word32 7], [.word32 8], [.word32 9], [.word32 8]] ∧
      ∃ executed, s.Yields chain (.empty 0) executed
          (p.invoke find [.word32 7] (fun _ => .ok none) (.empty 0)).2.2 ∧
        (executed.filterMap Executed.targeted?).length = 3 * 2 := by
  intro advice outer inner p find s chain positions count
  have hsteady : ∀ q ∈ positions, s.Steady count q := by decide +kernel
  obtain ⟨hinvoke, -, -, executed, hyields, -, -, -, hcount⟩ :=
    p.proceeding_keeps_arity find [.word32 7] (fun _ => .ok none) (.empty 0)
  refine ⟨hsteady, by decide +kernel, executed, ?_, (hcount count hsteady).trans (by decide +kernel)⟩
  rw [hinvoke]
  exact hyields

end Proxy

end Weaving
