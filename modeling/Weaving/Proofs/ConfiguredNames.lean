import Weaving.Proofs.ArgumentTypes

namespace Weaving

namespace AdviceSpecification

variable {s : AdviceSpecification} {name : String}

theorem returning_of_role (h : s.role name = .returned) : s.returning = some name := by
  by_contra hne
  rw [role, if_neg hne] at h
  split at h <;> cases h

theorem throwing_of_role (h : s.role name = .thrown) : s.throwing = some name := by
  by_contra hne
  rw [role, if_neg hne] at h
  split at h
  · cases h
  · cases h

end AdviceSpecification

namespace BindingPlan

variable {method : AdviceMethod} {spec : AdviceSpecification} {discoverer : Discoverer}
  {pointcut pointcut' : ExpressionPointcut} {p q start : BindingPlan} {names : List String}

def Configured (spec : AdviceSpecification) (p : BindingPlan) : Prop :=
  (spec.returning.isSome = true → p.returning.isSome = true) ∧
    (spec.throwing.isSome = true → p.throwing.isSome = true)

theorem configured_of_checkConfigured (h : checkConfigured method spec p = .ok q) : q.Configured spec := by
  unfold checkConfigured at h
  split at h
  · cases h
  · cases h
  · next hreturning hthrowing =>
      obtain rfl := Except.ok.inj h
      constructor
      · intro hsome
        obtain ⟨name, hname⟩ := Option.isSome_iff_exists.1 hsome
        by_contra hnone
        exact hreturning name hname (by simpa using hnone)
      · intro hsome
        obtain ⟨name, hname⟩ := Option.isSome_iff_exists.1 hsome
        by_contra hnone
        exact hthrowing name hname (by simpa using hnone)

theorem configured_of_ofNames (h : ofNames method spec start names = .ok q) : q.Configured spec := by
  unfold ofNames at h
  split at h
  · cases h
  · split at h
    · cases h
    · exact configured_of_checkConfigured h

theorem Made.offset_eq (hmade : Made method spec discoverer pointcut p pointcut') :
    p.offset = (BindingPlan.front method).offset := by
  cases hmade <;> rfl

/-- The early exits leave the configured names alone, the way through the names checks them. -/
theorem configured_of_compute (h : (Planning.compute method spec discoverer pointcut).result = .ok q) :
    q = front method ∧ q.offset = q.parameterCount ∨
      q.offset ≠ q.parameterCount ∧ q.Configured spec := by
  obtain ⟨-, hmade⟩ := made_of_compute h
  have hcount := hmade.parameterCount_eq
  have hoffset := hmade.offset_eq
  rw [compute_eq] at h
  split at h
  · cases h
  · split at h
    · next hlast =>
        left
        exact ⟨(Except.ok.inj h).symm, by omega⟩
    · next hbehind =>
        right
        refine ⟨by omega, ?_⟩
        split at h
        · cases h
        · split at h
          · cases h
          · next hplan =>
              obtain rfl := Except.ok.inj h
              exact configured_of_ofNames hplan

section Made

variable (hmade : Made method spec discoverer pointcut p pointcut') {slot : NamedSlot}

include hmade

theorem Made.returning_eq (hslot : p.returning = some slot) : spec.returning = some slot.name := by
  cases hmade with
  | front => cases hslot
  | named names _ _ _ _ =>
      rw [fill_front] at hslot
      apply AdviceSpecification.returning_of_role
      exact (spec.mem_slotsIn.1 (List.mem_of_getLast? hslot)).2

theorem Made.throwing_eq (hslot : p.throwing = some slot) : spec.throwing = some slot.name := by
  cases hmade with
  | front => cases hslot
  | named names _ _ _ _ =>
      rw [fill_front] at hslot
      apply AdviceSpecification.throwing_of_role
      exact (spec.mem_slotsIn.1 (List.mem_of_getLast? hslot)).2

end Made

theorem map_name_eq {slot : Option NamedSlot} {configured : Option String}
    (hname : ∀ s, slot = some s → configured = some s.name)
    (hsome : configured.isSome = true → slot.isSome = true) : slot.map NamedSlot.name = configured := by
  cases slot with
  | some s => exact (hname s rfl).symm
  | none =>
      cases configured with
      | none => rfl
      | some name => cases hsome rfl

/-- The name configured for the result, or for the error, has its parameter if there is any behind
the join point, and then the type of the parameter decides. Without one the advice takes everything. -/
theorem configured_names_bound (method : AdviceMethod) (spec : AdviceSpecification)
    (discoverer : Discoverer) (pointcut : ExpressionPointcut) (plan : BindingPlan)
    (h : (Planning.compute method spec discoverer pointcut).result = .ok plan) :
    plan.returning.map NamedSlot.name =
        (if plan.offset = plan.parameterCount then none else spec.returning) ∧
      plan.throwing.map NamedSlot.name =
        (if plan.offset = plan.parameterCount then none else spec.throwing) ∧
      (∀ slot, plan.returning = some slot → method.parameterTypes[slot.index]? = some slot.type ∧
        ∀ v, Advice.acceptsReturn plan v = slot.type.admits v) ∧
      (∀ slot, plan.throwing = some slot → ∃ type,
        method.parameterTypes[slot.index]? = some (.error type) ∧
          ∀ e, Advice.acceptsThrown plan e = type.accepts e) ∧
      (plan.offset = plan.parameterCount →
        (∀ v, Advice.acceptsReturn plan v = true) ∧ ∀ e, Advice.acceptsThrown plan e = true) := by
  have hconfigured := configured_of_compute h
  obtain ⟨-, hmade⟩ := made_of_compute h
  refine ⟨?_, ?_, ?_, ?_, ?_⟩
  · rcases hconfigured with ⟨rfl, hlast⟩ | ⟨hbehind, hreturning, -⟩
    · rw [if_pos hlast]
      rfl
    · rw [if_neg hbehind]
      exact map_name_eq (fun _ => hmade.returning_eq) hreturning
  · rcases hconfigured with ⟨rfl, hlast⟩ | ⟨hbehind, -, hthrowing⟩
    · rw [if_pos hlast]
      rfl
    · rw [if_neg hbehind]
      exact map_name_eq (fun _ => hmade.throwing_eq) hthrowing
  · intro slot hslot
    exact ⟨hmade.type_eq (by simp [hslot]), acceptsReturn_of_some hslot⟩
  · intro slot hslot
    obtain ⟨type, htype⟩ := exists_error_of_isError (hmade.isError_throwing hslot)
    refine ⟨type, ?_, acceptsThrown_of_some hslot htype⟩
    rw [← htype]
    exact hmade.type_eq (by simp [hslot])
  · intro hlast
    rcases hconfigured with ⟨rfl, -⟩ | ⟨hbehind, -⟩
    · exact ⟨fun _ => rfl, fun _ => rfl⟩
    · exact absurd hlast hbehind

/-- The names as the text has them, and the parameter behind the join point as the filter. -/
theorem text_result_bound :
    let log : AdviceMethod :=
      ⟨"log", .ofName "Audit", [⟨none, .joinPoint⟩, ⟨none, .value (.ofRuntime .text)⟩], [], .idle⟩
    let spec : AdviceSpecification :=
      ⟨.afterReturning, "execution(* find(..))", some "jp, result", some "result", none⟩
    let plan : BindingPlan := ⟨2, some .joinPoint, .empty, some ⟨"result", 1, .value (.ofRuntime .text)⟩, none, .empty⟩
    (Planning.compute log spec .declared ⟨spec.expression, .within ⟨"*"⟩, .empty⟩).result = .ok plan ∧
      plan.returning.map NamedSlot.name = some "result" ∧
      Advice.acceptsReturn plan (.text "found") = true ∧ Advice.acceptsReturn plan .unit = false := by
  intro log spec plan
  have hplan : (Planning.compute log spec .declared ⟨spec.expression, .within ⟨"*"⟩, .empty⟩).result =
      .ok plan := rfl
  obtain ⟨hname, -, hfilter, -⟩ := configured_names_bound log spec .declared _ plan hplan
  obtain ⟨-, haccepts⟩ := hfilter _ rfl
  refine ⟨hplan, ?_, ?_, ?_⟩
  · rw [hname, if_neg (by decide)]
  · rw [haccepts]
    rfl
  · rw [haccepts]
    rfl

/-- Behind the join point there is no parameter for the result, and the plan is made all the same. -/
theorem result_unbound_behind_joinPoint :
    ¬ ∀ (method : AdviceMethod) (spec : AdviceSpecification) (discoverer : Discoverer)
      (pointcut : ExpressionPointcut) (plan : BindingPlan) (name : String),
      (Planning.compute method spec discoverer pointcut).result = .ok plan →
        spec.returning = some name → plan.returning.map NamedSlot.name = some name := by
  intro hbound
  let log : AdviceMethod := ⟨"log", .ofName "Audit", [⟨none, .joinPoint⟩], [], .idle⟩
  let spec : AdviceSpecification :=
    ⟨.afterReturning, "execution(* find(..))", some "jp", some "result", none⟩
  have hplan : (Planning.compute log spec .declared ⟨spec.expression, .within ⟨"*"⟩, .empty⟩).result =
      .ok ⟨1, some .joinPoint, .empty, none, none, .empty⟩ := rfl
  cases hbound log spec .declared _ _ "result" hplan rfl

end BindingPlan

end Weaving
