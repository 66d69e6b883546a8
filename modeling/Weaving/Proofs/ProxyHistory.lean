import Weaving.Aspect.Proxy
import Weaving.Proofs.ChainRuns
import Weaving.Proofs.PrecedenceOrder

namespace Weaving

instance : ReflBEq TypeInfo := ⟨fun {t} => by
  change (t.name == t.name && t.runtime == t.runtime) = true
  simp⟩

instance : ReflBEq Method := ⟨fun {m} => by
  obtain ⟨owner, name, parameters, returns⟩ := m
  change (owner == owner && (name == name && (parameters == parameters && returns == returns))) = true
  simp⟩

/-- Some aspect has given the advisor away in an earlier state. -/
def Advisor.Returned (l : Loom) (a : Advisor) : Prop :=
  ∃ (d : AspectDefinition) (factory : Factory) (discoverer : Discoverer) (l₀ l₁ : Loom)
    (advisors : List Advisor),
    d.advisors factory discoverer l₀ = (.ok advisors, l₁) ∧ a ∈ advisors ∧ l₁.Keeps l

theorem AspectDefinition.eq_ok_of_mem_advisors (d : AspectDefinition) {factory : Factory}
    {discoverer : Discoverer} {l : Loom} {a : Advisor}
    (ha : a ∈ (d.advisors factory discoverer l).1.toOption.getD []) :
    ∃ advisors, d.advisors factory discoverer l = (.ok advisors, (d.advisors factory discoverer l).2) ∧
      a ∈ advisors := by
  cases h : (d.advisors factory discoverer l).1 with
  | error e => simp [h, Except.toOption] at ha
  | ok advisors =>
      rw [h] at ha
      exact ⟨advisors, Prod.ext h rfl, ha⟩

theorem AspectDefinition.returned_of_advisors (d : AspectDefinition) (factory : Factory)
    (discoverer : Discoverer) (l : Loom) :
    ∀ a ∈ (d.advisors factory discoverer l).1.toOption.getD [],
      a.Returned (d.advisors factory discoverer l).2 := by
  intro a ha
  obtain ⟨advisors, heq, hmem⟩ := d.eq_ok_of_mem_advisors ha
  exact ⟨d, factory, discoverer, l, _, advisors, heq, hmem, .refl _⟩

/-- The plan of a returned advisor is made, so its pointcut stays as it is. -/
theorem Advisor.Returned.pointcut_eq {l l' : Loom} {a : Advisor} (h : a.Returned l) (hl : l.Keeps l') :
    l'.pointcut a.advice = l.pointcut a.advice := by
  obtain ⟨d, factory, discoverer, l₀, l₁, advisors, hd, ha, hkeeps⟩ := h
  obtain ⟨p, hp⟩ := AspectDefinition.plans_of_advisors hd a ha
  exact hl.pointcut_eq (hkeeps _ p hp)

/-- An element that a chain of the method has: its advisor applies to the method, and it is
asked again for each call if its pointcut looks at arguments. -/
def ChainElement.Selected (l : Loom) (method : Method) (targetType : TypeInfo) (e : ChainElement) : Prop :=
  Proxy.applies l method targetType e.advisor = true ∧
    e.runtime = (l.pointcut e.advisor.advice).toPointcut.matcher.isRuntime

namespace Proxy

theorem accepts_of_applies {l : Loom} {method : Method} {targetType : TypeInfo} {a : Advisor}
    (h : applies l method targetType a = true) :
    a.advice.pointcut.root.classFilter.accepts targetType = true := by
  simp only [applies, Pointcut.canApply, ExpressionPointcut.toPointcut, Loom.root_pointcut,
    Bool.and_eq_true] at h
  exact h.1

/-- What a proxy goes through as its chains are asked for and its methods are called, while
the rest of the program forgets no plan. -/
inductive Leads (p : Proxy) (l : Loom) : Proxy → Loom → Prop
  | refl : Leads p l p l
  | elsewhere {q : Proxy} {l₁ l₂ : Loom} (h : Leads p l q l₁) (hl : l₁.Keeps l₂) : Leads p l q l₂
  | chainFor {q : Proxy} {l₁ : Loom} (h : Leads p l q l₁) (method : Method) :
      Leads p l (q.chainFor method l₁).2 l₁
  | invoke {q : Proxy} {l₁ : Loom} (h : Leads p l q l₁) (method : Method) (arguments : List Value)
      (respond : List Value → Except Thrown (Option Value)) :
      Leads p l (q.invoke method arguments respond l₁).2.1 (q.invoke method arguments respond l₁).2.2

/-- The proxy stands in for the type with the given advisors, and each of its chains has been
selected for the method under which it is kept. -/
structure Serves (l : Loom) (targetType : TypeInfo) (advisors : List Advisor) (p : Proxy) : Prop where
  targetType_eq : p.targetType = targetType
  advisors_subset : p.advisors ⊆ advisors
  selected : ∀ c ∈ p.chains, ∀ e ∈ c.2, e.advisor ∈ advisors ∧ e.Selected l c.1 targetType

variable {l l' : Loom} {targetType : TypeInfo} {advisors : List Advisor} {p q : Proxy}

theorem build_serves (l : Loom) (targetType : TypeInfo) (target : Option Target)
    (advisors : List Advisor) : Serves l targetType advisors (build targetType target advisors) where
  targetType_eq := rfl
  advisors_subset _ ha := List.mem_of_mem_filter ((sortByPrecedence_perm _).subset ha)
  selected _ hc := absurd hc List.not_mem_nil

theorem Serves.mono {more : List Advisor} (h : p.Serves l targetType advisors) (hmore : advisors ⊆ more) :
    p.Serves l targetType more where
  targetType_eq := h.targetType_eq
  advisors_subset _ ha := hmore (h.advisors_subset ha)
  selected c hc e he := ⟨hmore (h.selected c hc e he).1, (h.selected c hc e he).2⟩

theorem Serves.mem_freshChain (h : p.Serves l targetType advisors) (hr : ∀ a ∈ advisors, a.Returned l)
    (hl : l.Keeps l') {method : Method} {e : ChainElement} (he : e ∈ p.freshChain method l') :
    e.advisor ∈ advisors ∧ e.Selected l method targetType := by
  obtain ⟨a, ha, rfl⟩ := List.mem_map.1 he
  rw [List.mem_filter] at ha
  have hmem := h.advisors_subset ha.1
  have hpointcut := (hr a hmem).pointcut_eq hl
  refine ⟨hmem, ?_, by rw [hpointcut]⟩
  simpa only [applies, hpointcut, h.targetType_eq] using ha.2

/-- A chain that is kept was selected for a method that equals the one asked for. -/
theorem Serves.mem_chainFor (h : p.Serves l targetType advisors) (hr : ∀ a ∈ advisors, a.Returned l)
    (hl : l.Keeps l') {method : Method} {e : ChainElement} (he : e ∈ (p.chainFor method l').1) :
    e.advisor ∈ advisors ∧
      ∃ first : Method, (first == method) = true ∧ e.Selected l first targetType := by
  simp only [chainFor] at he
  split at he
  · next chain hcached =>
      obtain ⟨c, hc, rfl⟩ := Option.map_eq_some_iff.1 hcached
      obtain ⟨hmem, hselected⟩ := h.selected c (List.mem_of_find?_eq_some hc) e he
      exact ⟨hmem, c.1, by simpa using List.find?_some hc, hselected⟩
  · obtain ⟨hmem, hselected⟩ := h.mem_freshChain hr hl he
    exact ⟨hmem, method, BEq.rfl, hselected⟩

theorem Serves.chainFor (h : p.Serves l targetType advisors) (hr : ∀ a ∈ advisors, a.Returned l)
    (hl : l.Keeps l') (method : Method) : (p.chainFor method l').2.Serves l targetType advisors := by
  simp only [Proxy.chainFor]
  split
  · exact h
  · refine ⟨h.targetType_eq, h.advisors_subset, ?_⟩
    simp only [List.forall_mem_cons]
    exact ⟨fun e he => h.mem_freshChain hr hl he, h.selected⟩

theorem Leads.serves (h : p.Leads l q l') (hp : p.Serves l targetType advisors)
    (hr : ∀ a ∈ advisors, a.Returned l) : l.Keeps l' ∧ q.Serves l targetType advisors := by
  induction h with
  | refl => exact ⟨.refl l, hp⟩
  | elsewhere _ hl ih => exact ⟨ih.1.trans hl, ih.2⟩
  | chainFor _ method ih => exact ⟨ih.1, ih.2.chainFor hr ih.1 method⟩
  | invoke _ method arguments respond ih =>
      exact ⟨ih.1.trans (CallSite.keeps_run _ arguments _), ih.2.chainFor hr ih.1 method⟩

end Proxy

end Weaving
