import Weaving.Advice.Script
import Weaving.Proofs.ArgumentTypes
import Weaving.Proofs.TacitConstructors

namespace Weaving

/-- The errors that tell of an aspect that is declared wrongly. -/
def EngineError.isConfiguration : EngineError → Bool
  | .invalidSignature _ _ | .proceedMisuse _ _ | .invalidPointcut _ _ | .configuration _ => true
  | _ => false

namespace Course

/-- A course that fails only by a mismatch, with a business error, or with an error that it was
given: one of those at hand, or one that proceeding answers. -/
def PassesOn : (EngineError → Prop) → Course → Prop
  | given, .done (.error (.engine e)) => given e
  | _, .done _ => True
  | given, .log _ rest => rest.PassesOn given
  | given, .access _ next => ∀ seen, (next seen).PassesOn given
  | given, .proceed _ next => ∀ answer, (next answer).PassesOn fun e => given e ∨ answer = .error e

theorem passesOn_reading {α : Type} {given : EngineError → Prop} {r : Except ArgumentMismatch α}
    {next : α → Course} (h : ∀ a, (next a).PassesOn given) : (reading r next).PassesOn given := by
  cases r with
  | error m => exact trivial
  | ok a => exact h a

/-- Errors that proceeding may answer are the only ones of the engine with which the course fails. -/
theorem run_passesOn {σ : Type} {log : String → σ → σ} {access : (Memory → Memory) → σ → Memory × σ}
    {proceed : Option (List Value) → σ → Except EngineError (Option Value) × σ} {I : σ → Prop}
    {Q given : EngineError → Prop} {c : Course} (hc : c.PassesOn given) {s : σ} (hs : I s)
    (hgiven : ∀ e, given e → Q e) (hlog : ∀ text s, I s → I (log text s))
    (haccess : ∀ change s, I s → I (access change s).2)
    (hproceed : ∀ arguments s, I s →
      I (proceed arguments s).2 ∧ ∀ e, (proceed arguments s).1 = .error e → Q e) :
    I (c.run log access proceed s).2 ∧ ∀ e, (c.run log access proceed s).1 = .error (.engine e) → Q e := by
  -- What was given grows with each answer, so it is general in the induction.
  induction c generalizing given s with
  | done result =>
      refine ⟨hs, ?_⟩
      rintro e rfl
      exact hgiven e hc
  | log text rest ih => exact ih hc (hlog text s hs) hgiven
  | access change next ih => exact ih _ (hc _) (haccess change s hs) hgiven
  | proceed arguments next ih =>
      obtain ⟨hs', herror⟩ := hproceed arguments s hs
      apply ih _ (hc _) hs'
      rintro e (he | he)
      · exact hgiven e he
      · exact herror e he

end Course

theorem Action.passesOn_course {script : List Action} (h : ∀ e, Action.fail e ∉ script) (aspect : Value)
    (args : Arguments) (last : Option Value) (given : EngineError → Prop) :
    (Action.course aspect args script last).PassesOn given := by
  induction script generalizing last given with
  | nil => exact trivial
  | cons action rest ih =>
      have hrest (last : Option Value) (given : EngineError → Prop) :
          (Action.course aspect args rest last).PassesOn given :=
        ih (fun e he => h e (List.mem_cons_of_mem _ he)) last given
      cases action with
      | log text => exact hrest last given
      | aspect | count => exact hrest last given
      | joinPoint i | proceeding i | staticPart i | raw i | error i =>
          exact Course.passesOn_reading fun _ => hrest last given
      | value type i => exact Course.passesOn_reading fun _ => hrest last given
      | proceed arguments =>
          refine Course.passesOn_reading fun _ answer => ?_
          cases answer with
          | error e => cases e <;> simp [AdviceFailure.ofEngineError, Course.PassesOn]
          | ok v => exact hrest v _
      | attempt arguments =>
          refine Course.passesOn_reading fun _ answer => ?_
          cases answer with
          | error e => exact hrest last _
          | ok v => exact hrest v _
      | giveBack | giveBackLast | throw => exact trivial
      | fail e => exact absurd List.mem_cons_self (h e)

def Advice.PassesOn (a : Advice) : Prop :=
  ∀ aspect args, (a.method.body aspect args).PassesOn fun _ => False

namespace Loom

/-- How a state goes on while no plan is made: something happens, a body keeps something, or an aspect
is fetched. -/
inductive Weaves (advisors : List Advisor) (l : Loom) : Loom → Prop
  | refl : Weaves advisors l l
  | record {l' : Loom} (h : Weaves advisors l l') (e : Event) (he : e.isDiscovery = false) :
      Weaves advisors l (l'.record e)
  | keep {l' : Loom} (h : Weaves advisors l l') (change : Memory → Memory) :
      Weaves advisors l (l'.access change).2
  | fetch {l' : Loom} (h : Weaves advisors l l') (a : Advisor) (ha : a ∈ advisors)
      (target : Option Target) : Weaves advisors l
        { l' with world := (World.getInstanceFor World.build a.advice.factory target l'.world).2 }

/-- A call that goes on so, and does not end with an error of configuration. -/
structure Settles (advisors : List Advisor) (l : Loom) (r : CallResult × Loom) : Prop where
  weaves : l.Weaves advisors r.2
  sound : ∀ e, r.1 = .error e → e.isConfiguration = false

variable {advisors : List Advisor} {l l' : Loom} {e : EngineError}

theorem Weaves.plans_eq (h : l.Weaves advisors l') : l'.plans = l.plans := by
  induction h with
  | refl => rfl
  | record _ _ _ ih | keep _ _ ih => exact ih
  | fetch _ _ _ _ ih => exact ih

theorem Weaves.keeps (h : l.Weaves advisors l') : l.Keeps l' := by
  intro id p hp
  rw [h.plans_eq]
  exact hp

theorem Weaves.settles_ok (h : l.Weaves advisors l') (v : Option Value) :
    l.Settles advisors (.ok v, l') := ⟨h, nofun⟩

theorem Weaves.settles_error (h : l.Weaves advisors l') (he : e.isConfiguration = false) :
    l.Settles advisors (.error e, l') := by
  refine ⟨h, ?_⟩
  rintro e' heq
  cases heq
  exact he

theorem discoveries_eq_of_asked (a : Advice) (h : l'.world.asked = l.world.asked) :
    l'.discoveries a = l.discoveries a := by
  have hcount (l : Loom) : l.discoveries a = l.world.asked.count (.discovery a.id) :=
    (List.count_filter rfl).symm
  rw [hcount, hcount, h]

section Tacit

variable (h : l.Weaves advisors l') (htacit : ∀ a ∈ advisors, a.advice.factory.IsTacit)

include h htacit

theorem Weaves.silent : l.world.Silent l'.world := by
  induction h with
  | refl => exact .refl _
  | record _ e he ih => exact ih.trans (.record _ he)
  | keep _ _ ih => exact ih
  | fetch _ a ha target ih =>
      exact ih.trans (World.silent_getInstanceFor World.silent_build (htacit a ha) target _)

theorem Weaves.discoveries_eq (hl : l.world.IsTacit) (a : Advice) : l'.discoveries a = l.discoveries a :=
  discoveries_eq_of_asked a (h.silent htacit hl).2

end Tacit

end Loom

namespace World

theorem isConfiguration_of_getInstance {build : Build} {f : Factory} {w : World} {e : EngineError}
    (h : (getInstance build f w).1 = .error e) : e.isConfiguration = false := by
  induction f generalizing w e with
  | singleton => cases h
  | simple | bean =>
      simp only [getInstance] at h
      split at h
      · cases h
        rfl
      · cases h
  | lazy cell delegate ih =>
      simp only [getInstance] at h
      split at h
      · cases h
      · split at h
        · next heq =>
            cases h
            exact ih (congrArg Prod.fst heq)
        · split at h <;> cases h
  | perTarget =>
      cases h
      rfl

theorem isConfiguration_of_getInstanceFor {build : Build} {f : Factory} {target : Option Target}
    {w : World} {e : EngineError} (h : (getInstanceFor build f target w).1 = .error e) :
    e.isConfiguration = false := by
  have hcreate {cell : Nat} {delegate : Factory} {t : Target}
      (h : (getInstanceFor.create build cell delegate t w).1 = .error e) : e.isConfiguration = false := by
    simp only [getInstanceFor.create] at h
    split at h
    · next heq =>
        cases h
        exact isConfiguration_of_getInstance (congrArg Prod.fst heq)
    · split at h <;> cases h
  simp only [getInstanceFor] at h
  split at h
  · split at h
    · split at h
      · cases h
      · exact hcreate h
    · exact hcreate h
  · exact isConfiguration_of_getInstance h

end World

/-- From every state that is woven from `l`, the call goes on in the same way. -/
def Continuation.Settles (advisors : List Advisor) (l : Loom) (next : Continuation) : Prop :=
  ∀ arguments l', l.Weaves advisors l' → l.Settles advisors (next arguments l')

theorem JoinPoint.goOn_settles (j : JoinPoint) {advisors : List Advisor} {l : Loom} {next : Continuation}
    (h : Continuation.Settles advisors l next) : Continuation.Settles advisors l (j.goOn next) := by
  rw [goOn]
  split
  · exact h
  · exact fun _ _ hl => hl.settles_error rfl

/-- An advisor with its plan made, whose body passes errors on. -/
structure Advisor.Settled (l : Loom) (a : Advisor) : Prop where
  planned : a.advice.Planned l
  passesOn : a.advice.PassesOn

namespace Advice

variable {advisors : List Advisor} {l l' : Loom} {a : Advisor} {next : Continuation}
  {context : JoinPoint} {result : CallResult}

section Settled

variable (ha : a.Settled l) (hl : l.Weaves advisors l') (hnext : Continuation.Settles advisors l next)

include ha hl

theorem planning_of_settled : l'.planning a.advice = (a.advice.planned, l') :=
  (ha.planned.later hl.keeps).planning_eq

include hnext

theorem perform_settles (context : JoinPoint) (aspect : Value) (args : Arguments) :
    l.Settles advisors (a.advice.perform context aspect args next l') := by
  have hgo := context.goOn_settles hnext
  have hstart := hl.record (.advice a.advice.aspectName a.advice.method.name context.arguments) rfl
  have hrun : ∀ r, r = (a.advice.method.body aspect args).follow (context.goOn next)
        (l'.record (.advice a.advice.aspectName a.advice.method.name context.arguments)) →
      l.Weaves advisors r.2 ∧ ∀ e, r.1 = .error (.engine e) → e.isConfiguration = false := by
    rintro r rfl
    apply Course.run_passesOn (ha.passesOn aspect args) hstart
    · exact fun _ h => h.elim
    · exact fun _ _ h => h.record _ rfl
    · exact fun change _ h => h.keep change
    · exact fun arguments l' h => ⟨(hgo arguments l' h).weaves, (hgo arguments l' h).sound⟩
  rw [perform]
  split
  · next v l₁ heq => exact (hrun _ heq.symm).1.settles_ok v
  · next failure l₁ heq =>
      obtain ⟨hweaves, hsound⟩ := hrun _ heq.symm
      apply hweaves.settles_error
      cases failure with
      | mismatch | thrown => rfl
      | engine e => exact hsound e rfl

theorem invoke_settles (context : JoinPoint) (aspect : Value) :
    l.Settles advisors (a.advice.invoke context aspect next l') := by
  obtain ⟨plan, hplan⟩ := ha.planned.2
  simp only [invoke_eq, planning_of_settled ha hl, hplan]
  split
  · next e hbind =>
      obtain ⟨reason, rfl⟩ := BindingPlan.exists_binding_of_bind hbind
      exact hl.settles_error rfl
  · exact perform_settles ha hl hnext context aspect _

theorem conclude_settles (context : JoinPoint) (aspect : Value)
    (hresult : ∀ e, result = .error e → e.isConfiguration = false) :
    l.Settles advisors (a.advice.conclude context aspect result next l') := by
  have hinvoke := invoke_settles ha hl hnext context aspect
  rw [conclude]
  split
  · next heq =>
      rw [heq] at hinvoke
      exact hinvoke
  · next heq =>
      rw [heq] at hinvoke
      exact ⟨hinvoke.weaves, hresult⟩

theorem concludeIf_settles (accepts : BindingPlan → Bool) (context : JoinPoint) (aspect : Value)
    (hresult : ∀ e, result = .error e → e.isConfiguration = false) :
    l.Settles advisors (a.advice.concludeIf accepts context aspect result next l') := by
  obtain ⟨plan, hplan⟩ := ha.planned.2
  simp only [concludeIf, planning_of_settled ha hl, hplan]
  split
  · exact conclude_settles ha hl hnext context aspect hresult
  · exact ⟨hl, hresult⟩

end Settled

/-- Every way through an advice: it fetches its aspect, finds its plan made, and runs its body. -/
theorem intercept_settles (hmem : a ∈ advisors) (ha : a.Settled l) (hl : l.Weaves advisors l')
    (hnext : Continuation.Settles advisors l next) (context : JoinPoint) (target : Option Target) :
    l.Settles advisors (a.advice.intercept context target next l') := by
  have hfetch := hl.fetch a hmem target
  simp only [intercept]
  split
  · next e w heq =>
      rw [heq] at hfetch
      exact hfetch.settles_error (World.isConfiguration_of_getInstanceFor (congrArg Prod.fst heq))
  · next i w heq =>
      rw [heq] at hfetch
      have hbehind := hnext none _ hfetch
      cases a.advice.kind with
      | before =>
          have hinvoke := invoke_settles ha hfetch hnext context i.value
          simp only
          split
          · next heq' =>
              rw [heq'] at hinvoke
              exact hinvoke
          · next heq' =>
              rw [heq'] at hinvoke
              exact hnext none _ hinvoke.weaves
      | after => exact conclude_settles ha hbehind.weaves hnext context i.value hbehind.sound
      | afterReturning =>
          simp only
          split
          · next heq' =>
              rw [heq'] at hbehind
              exact hbehind
          · next v l₁ heq' =>
              rw [heq'] at hbehind
              exact concludeIf_settles ha hbehind.weaves hnext (acceptsReturn · (v.getD .unit))
                { context with returnValue := some (v.getD .unit) } i.value hbehind.sound
      | afterThrowing =>
          simp only
          split
          · next e l₁ heq' =>
              rw [heq'] at hbehind
              exact concludeIf_settles ha hbehind.weaves hnext (acceptsThrown · e)
                { context with thrown := some e } i.value hbehind.sound
          · exact hbehind
      | around => exact invoke_settles ha hfetch hnext _ i.value
      | pointcut => exact hbehind

end Advice

namespace CallSite

variable {s : CallSite} {advisors : List Advisor} {l l' : Loom} {chain : List ChainElement}
  {arguments : List Value}

theorem replace_settles {run : List Value → Loom → CallResult × Loom}
    (h : ∀ others l', l.Weaves advisors l' → l.Settles advisors (run others l')) :
    Continuation.Settles advisors l (s.replace arguments run) := by
  intro others l' hl
  cases others with
  | none => exact h arguments l' hl
  | some others =>
      simp only [replace]
      split
      · exact h others l' hl
      · exact hl.settles_error rfl

theorem isConfiguration_of_admits {element : ChainElement} {pointcut : ExpressionPointcut} {e : EngineError}
    (h : s.admits element pointcut arguments = .error e) : e.isConfiguration = false := by
  simp only [admits, MethodMatcher.acceptsArgs] at h
  split at h
  · split at h
    · cases h
    · cases h
      rfl
  · cases h

theorem run_settles (hchain : ∀ e ∈ chain, e.advisor ∈ advisors ∧ e.advisor.Settled l)
    (hl : l.Weaves advisors l') : l.Settles advisors (s.run chain arguments l') := by
  induction chain generalizing arguments l' with
  | nil =>
      have htarget := hl.record (.target arguments) rfl
      simp only [run, callTarget]
      split
      · exact htarget.settles_error rfl
      · exact htarget.settles_ok _
  | cons element rest ih =>
      rw [List.forall_mem_cons] at hchain
      obtain ⟨⟨hmem, ha⟩, hrest⟩ := hchain
      simp only [run]
      split
      · next hadmits => exact hl.settles_error (isConfiguration_of_admits hadmits)
      · exact ih hrest hl
      · have hnext : Continuation.Settles advisors l (s.replace arguments (s.run rest)) :=
          replace_settles fun others l' hl => ih hrest hl
        exact Advice.intercept_settles hmem ha hl hnext _ s.target

end CallSite

end Weaving
