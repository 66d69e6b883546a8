import Weaving.Aspect.Definition
import Weaving.Aspect.Interception

namespace Weaving

/-- A course does not see a difference between two ways to proceed that show only in states
it does not come to. -/
theorem Course.run_congr {σ : Type} {log : String → σ → σ}
    {access : (Memory → Memory) → σ → Memory × σ}
    {proceed other : Option (List Value) → σ → Except EngineError (Option Value) × σ} {I : σ → Prop}
    (c : Course) {s : σ} (hs : I s) (hlog : ∀ text s, I s → I (log text s))
    (haccess : ∀ change s, I s → I (access change s).2)
    (hproceed : ∀ arguments s, I s →
      proceed arguments s = other arguments s ∧ I (proceed arguments s).2) :
    c.run log access proceed s = c.run log access other s ∧ I (c.run log access proceed s).2 := by
  induction c generalizing s with
  | done result => exact ⟨rfl, hs⟩
  | log text rest ih => exact ih (hlog text s hs)
  | access change next ih => exact ih _ (haccess change s hs)
  | proceed arguments next ih =>
      obtain ⟨heq, hI⟩ := hproceed arguments s hs
      simp only [run, ← heq]
      exact ih _ hI

namespace Loom

/-- Every plan that was made is still there. -/
def Keeps (l l' : Loom) : Prop := ∀ id p, l.plans id = some p → l'.plans id = some p

theorem Keeps.refl (l : Loom) : l.Keeps l := fun _ _ h => h

theorem Keeps.trans {l₁ l₂ l₃ : Loom} (h : l₁.Keeps l₂) (h' : l₂.Keeps l₃) : l₁.Keeps l₃ :=
  fun id p hp => h' id p (h id p hp)

theorem keeps_record (l : Loom) (e : Event) : l.Keeps (l.record e) := .refl l

theorem keeps_access (l : Loom) (change : Memory → Memory) : l.Keeps (l.access change).2 := .refl l

theorem keeps_world (l : Loom) (w : World) : l.Keeps { l with world := w } := .refl l

theorem plans_planning (l : Loom) (a : Advice) :
    (l.planning a).2.plans a.id = some (l.planning a).1 := by
  simp only [planning]
  split
  · next p h => exact h
  · simp [change]

theorem keeps_planning (l : Loom) (a : Advice) : l.Keeps (l.planning a).2 := by
  intro id p hp
  simp only [planning]
  split
  · exact hp
  · next hnone =>
      have hne : id ≠ a.id := fun e => by simp [e, hnone] at hp
      split <;> simpa [change, hne, record] using hp

theorem root_pointcut (l : Loom) (a : Advice) : (l.pointcut a).root = a.pointcut.root := by
  simp only [pointcut]
  split <;> rfl

theorem Keeps.pointcut_eq {l l' : Loom} (h : l.Keeps l') {a : Advice} {p : Planning}
    (hp : l.plans a.id = some p) : l'.pointcut a = l.pointcut a := by
  simp only [pointcut, hp, h a.id p hp]

/-- Two runs from a state come to the same result and forget no plan. -/
def Alike {α : Type} (l : Loom) (r r' : α × Loom) : Prop := r = r' ∧ l.Keeps r.2

theorem Keeps.alike {α : Type} {l l' : Loom} (h : l.Keeps l') (result : α) :
    l.Alike (result, l') (result, l') := ⟨rfl, h⟩

theorem Keeps.trans_alike {α : Type} {l l' : Loom} {r r' : α × Loom} (h : l.Keeps l')
    (hr : l'.Alike r r') : l.Alike r r' := ⟨hr.1, h.trans hr.2⟩

theorem Alike.exists_result {α : Type} {l : Loom} {r r' : α × Loom} (h : l.Alike r r') :
    ∃ result l', l.Keeps l' ∧ r = (result, l') ∧ r' = (result, l') :=
  ⟨r.1, r.2, h.2, rfl, h.1.symm⟩

end Loom

/-- Two continuations go on alike from every state in which the plans of `l` are kept. -/
def Continuation.Alike (l : Loom) (next other : Continuation) : Prop :=
  ∀ arguments l', l.Keeps l' → l'.Alike (next arguments l') (other arguments l')

theorem Continuation.Alike.later {l l' : Loom} {next other : Continuation}
    (h : Continuation.Alike l next other) (hl : l.Keeps l') : Continuation.Alike l' next other :=
  fun arguments l'' hl' => h arguments l'' (hl.trans hl')

/-- How a call goes on if the join point allows it. -/
def JoinPoint.goOn (j : JoinPoint) (next : Continuation) : Continuation :=
  if j.canProceed then next else fun _ l => (.error j.cannotProceed, l)

theorem JoinPoint.goOn_alike (j : JoinPoint) {l : Loom} {next other : Continuation}
    (h : Continuation.Alike l next other) : Continuation.Alike l (j.goOn next) (j.goOn other) := by
  simp only [goOn]
  split
  · exact h
  · exact fun _ l' _ => (Loom.Keeps.refl l').alike _

namespace Advice

variable {a : Advice} {context : JoinPoint} {next other : Continuation} {l : Loom}

/-- Runs the body of an advice on its arguments. -/
def perform (a : Advice) (context : JoinPoint) (aspect : Value) (arguments : Arguments)
    (next : Continuation) (l : Loom) : CallResult × Loom :=
  let l := l.record (.advice a.aspectName a.method.name context.arguments)
  match (a.method.body aspect arguments).follow (context.goOn next) l with
  | (.ok v, l) => (.ok v, l)
  | (.error failure, l) => (.error (a.failureError failure), l)

theorem invoke_eq (aspect : Value) : a.invoke context aspect next l =
    match (l.planning a).1.result with
    | .error e => (.error e, (l.planning a).2)
    | .ok plan =>
      match plan.bind context with
      | .error e => (.error e, (l.planning a).2)
      | .ok arguments => a.perform context aspect arguments next (l.planning a).2 := rfl

theorem perform_alike (aspect : Value) (arguments : Arguments)
    (h : Continuation.Alike l next other) :
    l.Alike (a.perform context aspect arguments next l) (a.perform context aspect arguments other l) := by
  have hstart := l.keeps_record (.advice a.aspectName a.method.name context.arguments)
  have hlog (text : String) (l' : Loom) (hl : l.Keeps l') : l.Keeps (l'.record (.note text)) :=
    hl.trans (l'.keeps_record _)
  have haccess (change : Memory → Memory) (l' : Loom) (hl : l.Keeps l') : l.Keeps (l'.access change).2 :=
    hl.trans (l'.keeps_access change)
  have hgo := context.goOn_alike h
  have hrun : l.Alike _ _ := (a.method.body aspect arguments).run_congr hstart hlog haccess
    fun arguments l' hl => ⟨(hgo arguments l' hl).1, hl.trans (hgo arguments l' hl).2⟩
  obtain ⟨result, l', hl, hn, ho⟩ := hrun.exists_result
  simp only [perform, Course.follow, hn, ho]
  cases result with
  | error failure | ok v => exact hl.alike _

theorem invoke_alike (context : JoinPoint) (aspect : Value) (h : Continuation.Alike l next other) :
    l.Alike (a.invoke context aspect next l) (a.invoke context aspect other l) := by
  have hplan := l.keeps_planning a
  simp only [invoke_eq]
  split
  · exact hplan.alike _
  · split
    · exact hplan.alike _
    · exact hplan.trans_alike (perform_alike aspect _ (h.later hplan))

/-- Runs an advice behind a call, whose result stands unless the advice fails. -/
def conclude (a : Advice) (context : JoinPoint) (aspect : Value) (result : CallResult)
    (next : Continuation) (l : Loom) : CallResult × Loom :=
  match a.invoke context aspect next l with
  | (.error e, l) => (.error e, l)
  | (.ok _, l) => (result, l)

/-- Runs an advice behind a call if its plan accepts what came of the call. -/
def concludeIf (a : Advice) (accepts : BindingPlan → Bool) (context : JoinPoint) (aspect : Value)
    (result : CallResult) (next : Continuation) (l : Loom) : CallResult × Loom :=
  let (planning, l) := l.planning a
  match planning.result with
  | .error e => (.error e, l)
  | .ok plan => if accepts plan then a.conclude context aspect result next l else (result, l)

/-- The join points at which the body of an advice runs that is intercepted at a given one. -/
inductive Reaches (a : Advice) (l : Loom) (context : JoinPoint) : JoinPoint → Prop
  | plain (hkind : a.kind ≠ .around) : Reaches a l context context
  | around (hkind : a.kind = .around) : Reaches a l context { context with canProceed := true }
  | returned {l' : Loom} {plan : BindingPlan} {v : Value} (hkind : a.kind = .afterReturning)
      (hl : l.Keeps l') (hplan : (l'.planning a).1.result = .ok plan) (hv : acceptsReturn plan v = true) :
      Reaches a l context { context with returnValue := some v }
  | thrown {l' : Loom} {plan : BindingPlan} {e : Thrown} (hkind : a.kind = .afterThrowing)
      (hl : l.Keeps l') (hplan : (l'.planning a).1.result = .ok plan) (he : acceptsThrown plan e = true) :
      Reaches a l context { context with thrown := some e }

/-- Another advice can take the place of an advice that is intercepted at a join point. -/
structure Replaceable (a b : Advice) (l : Loom) (context : JoinPoint) : Prop where
  factory_eq : b.factory = a.factory
  kind_eq : b.kind = a.kind
  planning_eq : ∀ l', l.Keeps l' → l'.planning b = l'.planning a
  invoke : ∀ {reached : JoinPoint}, a.Reaches l context reached → ∀ (aspect : Value) {next other l'},
    l.Keeps l' → Continuation.Alike l' next other →
    l'.Alike (a.invoke reached aspect next l') (b.invoke reached aspect other l')

theorem Replaceable.refl (a : Advice) (l : Loom) (context : JoinPoint) : Replaceable a a l context where
  factory_eq := rfl
  kind_eq := rfl
  planning_eq _ _ := rfl
  invoke _ aspect _ _ _ _ h := invoke_alike _ aspect h

section Replaceable

variable {b : Advice} {l₀ : Loom} {reached : JoinPoint} (hb : Replaceable a b l₀ context) (hl : l₀.Keeps l)

include hb hl

theorem Replaceable.conclude_alike (hreached : a.Reaches l₀ context reached) (aspect : Value)
    (result : CallResult) (h : Continuation.Alike l next other) :
    l.Alike (a.conclude reached aspect result next l) (b.conclude reached aspect result other l) := by
  obtain ⟨answer, l', hl', hn, ho⟩ := (hb.invoke hreached aspect hl h).exists_result
  simp only [conclude, hn, ho]
  cases answer with
  | error e | ok v => exact hl'.alike _

theorem Replaceable.concludeIf_alike (accepts : BindingPlan → Bool)
    (hreached : ∀ plan, (l.planning a).1.result = .ok plan → accepts plan = true →
      a.Reaches l₀ context reached) (aspect : Value) (result : CallResult)
    (h : Continuation.Alike l next other) :
    l.Alike (a.concludeIf accepts reached aspect result next l)
      (b.concludeIf accepts reached aspect result other l) := by
  have hplan := l.keeps_planning a
  simp only [concludeIf, hb.planning_eq l hl]
  split
  · exact hplan.alike _
  · next plan hresult =>
      split
      · next haccepts =>
          exact hplan.trans_alike (hb.conclude_alike (hl.trans hplan) (hreached plan hresult haccepts)
            aspect result (h.later hplan))
      · exact hplan.alike _

end Replaceable

theorem Replaceable.intercept_alike {b : Advice} (hb : Replaceable a b l context) (target : Option Target)
    (h : Continuation.Alike l next other) :
    l.Alike (a.intercept context target next l) (b.intercept context target other l) := by
  simp only [intercept, hb.factory_eq, hb.kind_eq]
  split
  · next e w _ => exact (l.keeps_world w).alike _
  · next i w _ =>
      have hw := l.keeps_world w
      have hlater := h.later hw
      refine hw.trans_alike ?_
      generalize { l with world := w } = l' at hw hlater
      obtain ⟨result, l₁, hl₁, hn, ho⟩ := (hlater none l' (.refl l')).exists_result
      have hfar := hw.trans hl₁
      cases hkind : a.kind with
      | before =>
          have hreached : a.Reaches l context context := .plain (by simp [hkind])
          obtain ⟨answer, l₂, hl₂, hr, hr'⟩ := (hb.invoke hreached i.value hw hlater).exists_result
          simp only [hr, hr']
          cases answer with
          | error e => exact hl₂.alike _
          | ok v => exact hl₂.trans_alike (hlater none l₂ hl₂)
      | after =>
          simp only [hn, ho]
          exact hl₁.trans_alike (hb.conclude_alike hfar (.plain (by simp [hkind])) i.value result
            (hlater.later hl₁))
      | afterReturning =>
          simp only [hn, ho]
          cases result with
          | error e => exact hl₁.alike _
          | ok v =>
              exact hl₁.trans_alike (hb.concludeIf_alike hfar (acceptsReturn · (v.getD .unit))
                (fun _ hplan hv => .returned hkind hfar hplan hv) i.value (.ok v) (hlater.later hl₁))
      | afterThrowing =>
          simp only [hn, ho]
          split
          · next e l₁ heq =>
              obtain ⟨rfl, rfl⟩ := Prod.mk.inj heq
              exact hl₁.trans_alike (hb.concludeIf_alike hfar (acceptsThrown · e)
                (fun _ hplan he => .thrown hkind hfar hplan he) i.value (.error (.thrown e)) (hlater.later hl₁))
          · exact hl₁.alike _
      | around => exact hb.invoke (.around hkind) i.value hw hlater
      | pointcut => exact hlater none l' (.refl l')

theorem intercept_alike (target : Option Target) (h : Continuation.Alike l next other) :
    l.Alike (a.intercept context target next l) (a.intercept context target other l) :=
  (Replaceable.refl a l context).intercept_alike target h

end Advice

namespace AspectDefinition

variable {factory : Factory} {discoverer : Discoverer} {l l' : Loom} {advisors : List Advisor}

section Inversion

variable {references : Expr.References} {declared : List (AdviceMethod × Nat × AdviceSpecification)}

theorem advisorsOf_cons_eq_ok {method : AdviceMethod} {position : Nat} {specification : AdviceSpecification}
    (h : advisorsOf factory discoverer references ((method, position, specification) :: declared) l =
      (.ok advisors, l')) :
    ∃ pointcut others, let made := l.newAdvice method specification pointcut factory discoverer position
      (∃ plan, (made.2.planning made.1).1.result = .ok plan) ∧ advisors = ⟨made.1, factory.order⟩ :: others ∧
        advisorsOf factory discoverer references declared (made.2.planning made.1).2 = (.ok others, l') := by
  simp only [advisorsOf] at h
  split at h
  · cases h
  · next pointcut _ =>
      split at h
      · cases h
      · next plan hplan =>
          split at h
          · cases h
          · next others _ heq =>
              cases h
              exact ⟨pointcut, others, ⟨plan, hplan⟩, rfl, heq⟩

theorem advisors_eq_ok {d : AspectDefinition} (h : d.advisors factory discoverer l = (.ok advisors, l')) :
    ∃ declared references, declarations d.methods.zipIdx = .ok (declared, references) ∧
      advisorsOf factory discoverer references declared l = (.ok advisors, l') := by
  rw [AspectDefinition.advisors] at h
  split at h
  · cases h
  · next hdeclared => exact ⟨_, _, hdeclared, h⟩

/-- Advisors are returned with their plans made. -/
theorem plans_of_advisorsOf (h : advisorsOf factory discoverer references declared l = (.ok advisors, l')) :
    l.Keeps l' ∧ ∀ a ∈ advisors, ∃ p, l'.plans a.advice.id = some p := by
  induction declared generalizing l advisors with
  | nil =>
      cases h
      exact ⟨.refl _, by simp⟩
  | cons d rest ih =>
      obtain ⟨pointcut, others, -, rfl, hothers⟩ := advisorsOf_cons_eq_ok h
      obtain ⟨hrest, hplans⟩ := ih hothers
      let made := l.newAdvice d.1 d.2.2 pointcut factory discoverer d.2.1
      have hplanning : l.Keeps (made.2.planning made.1).2 := made.2.keeps_planning made.1
      refine ⟨hplanning.trans hrest, List.forall_mem_cons.2 ⟨?_, hplans⟩⟩
      exact ⟨_, hrest _ _ (made.2.plans_planning made.1)⟩

end Inversion

theorem plans_of_advisors {d : AspectDefinition}
    (h : d.advisors factory discoverer l = (.ok advisors, l')) :
    ∀ a ∈ advisors, ∃ p, l'.plans a.advice.id = some p := by
  obtain ⟨declared, references, -, hof⟩ := advisors_eq_ok h
  exact (plans_of_advisorsOf hof).2

/-- An aspect whose methods do nothing. Each has a name, a marker and the marker's pointcut. -/
def idle (name : String) (order : Int) (methods : List (String × String × String)) :
    AspectDefinition where
  name := name
  type := .ofName name
  perTarget := false
  order := some order
  methods := methods.map fun m =>
    ⟨m.1, .ofName name, [], [(Marker.ofName m.2.1).set "pointcut" m.2.2], .idle⟩
  counter := 0
  constructor := fun _ => .done (.ok .unit)

end AspectDefinition

end Weaving
