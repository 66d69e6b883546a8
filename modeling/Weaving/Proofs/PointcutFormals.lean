import Weaving.Proofs.ArgumentTypes
import Weaving.Proofs.TableLookup

namespace Weaving

namespace BindingPlan

/-- The keys of a table in the order of their entries. -/
def keysByIndex (t : Table Nat) : List String := (t.mergeSort fun a b => a.2 ≤ b.2).map Prod.fst

/-- What the loop over the parameters builds: the table and the two lists come of the same slots. No name
comes twice, the indices go up, and each slot has the type that its parameter declares. -/
structure Lists (types : List ParameterType) (p : BindingPlan) (slots : List NamedSlot) : Prop where
  bindings_eq : p.bindings = .ofList (slots.map NamedSlot.entry)
  formals_eq : p.formals = ⟨slots.map NamedSlot.name, slots.map NamedSlot.type⟩
  nodup : (slots.map NamedSlot.name).Nodup
  ascending : (slots.map NamedSlot.index).Pairwise (· < ·)
  typed : ∀ slot ∈ slots, types[slot.index]? = some slot.type

variable {method : AdviceMethod} {spec : AdviceSpecification} {p q : BindingPlan} {slot : NamedSlot}
  {slots : List NamedSlot} {types : List ParameterType}

/-- Whether some parameter is not the join point in front. -/
def HasBehind (method : AdviceMethod) : Prop :=
  ∃ i type, method.parameterTypes[i]? = some type ∧ ¬ (i = 0 ∧ type.isJoinPointLike = true)

theorem isSome_ofType? (type : ParameterType) :
    (JoinPointSlot.ofType? type).isSome = type.isJoinPointLike := by
  cases type <;> rfl

theorem hasBehind_iff : HasBehind method ↔ (front method).offset ≠ method.parameters.length := by
  have hlength : method.parameters.length = method.parameterTypes.length := by
    rw [AdviceMethod.parameterTypes, List.length_map]
  rw [hlength, HasBehind, offset, front]
  cases method.parameterTypes with
  | nil => simp
  | cons first rest =>
      simp only [List.head?_cons, Option.bind_some, isSome_ofType?, List.length_cons]
      cases hfirst : first.isJoinPointLike with
      | false =>
          refine iff_of_true ⟨0, first, rfl, ?_⟩ (Nat.succ_ne_zero _).symm
          simp [hfirst]
      | true =>
          simp only [if_true]
          constructor
          · rintro ⟨i, type, htype, hnot⟩ hlast
            obtain rfl : rest = [] := List.length_eq_zero_iff.1 (by omega)
            obtain ⟨rfl, rfl⟩ : i = 0 ∧ first = type := by simpa [List.getElem?_singleton] using htype
            exact hnot ⟨rfl, hfirst⟩
          · intro hmore
            have hpos : 0 < rest.length := by omega
            exact ⟨1, rest[0], by simp, by simp⟩

/-- The loop over the parameters builds the table and the lists of the slots for captured values. -/
theorem Made.exists_lists {discoverer : Discoverer} {pointcut pointcut' : ExpressionPointcut}
    (hmade : Made method spec discoverer pointcut q pointcut') :
    ∃ slots, Lists method.parameterTypes q slots := by
  cases hmade with
  | front => exact ⟨[], rfl, rfl, List.nodup_nil, List.Pairwise.nil, nofun⟩
  | named names _ _ hlength hassigned =>
      refine ⟨spec.slotsIn .captured (slotsBehind method names), ?_, ?_, hassigned.nodup, ?_, ?_⟩
      · rw [fill_front]
      · rw [fill_front]
      · refine List.Pairwise.sublist (List.filter_sublist.map _) ?_
        rw [slotsBehind, index_slots (length_names hlength)]
        exact List.pairwise_lt_range'
      · exact fun slot hslot => type_of_mem_slots (spec.mem_slotsIn.1 hslot).1

section Listing

variable (h : Lists types p slots)

include h

theorem Lists.perm_bindings : p.bindings.Perm (slots.map NamedSlot.entry) := by
  rw [h.bindings_eq]
  apply Table.perm_ofList
  rw [List.map_map]
  exact h.nodup

/-- The formal parameters are the keys of the table, by the indices of their parameters. -/
theorem Lists.names_eq : p.formals.names = keysByIndex p.bindings := by
  have hsorted : (p.bindings.mergeSort fun a b => a.2 ≤ b.2).Pairwise fun a b => a.2 ≤ b.2 := by
    have htotal := @List.pairwise_mergeSort _ (fun a b : String × Nat => decide (a.2 ≤ b.2))
      (fun a b c => by simpa using Nat.le_trans) (fun a b => by simpa using Nat.le_total a.2 b.2) p.bindings
    simpa using htotal
  have hlisted : (slots.map NamedSlot.entry).Pairwise fun a b => a.2 < b.2 := by
    rw [List.pairwise_map]
    exact List.pairwise_map.1 h.ascending
  have hperm := (List.mergeSort_perm p.bindings fun a b => a.2 ≤ b.2).trans h.perm_bindings
  have heq : (p.bindings.mergeSort fun a b => a.2 ≤ b.2) = slots.map NamedSlot.entry := by
    refine hperm.eq_of_pairwise (fun a b ha hb hab hba => ?_) hsorted (hlisted.imp Nat.le_of_lt)
    exact List.inj_on_of_nodup_map (hlisted.imp Nat.ne_of_lt |> List.pairwise_map.2)
      (hperm.subset ha) hb (Nat.le_antisymm hab hba)
  rw [keysByIndex, heq, h.formals_eq, List.map_map]
  rfl

theorem Lists.get?_eq (hslot : slot ∈ slots) : p.bindings.get? slot.name = some slot.index := by
  have hnodup : (p.bindings.map Prod.fst).Nodup := by
    rw [(h.perm_bindings.map Prod.fst).nodup_iff, List.map_map]
    exact h.nodup
  rw [Table.get?, lookup_eq_some_iff_mem hnodup, h.perm_bindings.mem_iff]
  exact List.mem_map_of_mem (f := NamedSlot.entry) hslot

theorem Lists.types_eq : p.formals.types.map some =
    p.formals.names.map fun name => (p.bindings.get? name).bind (types[·]?) := by
  rw [h.formals_eq, List.map_map, List.map_map]
  apply List.map_congr_left
  intro slot hslot
  simp only [Function.comp_apply, h.get?_eq hslot, Option.bind_some, h.typed slot hslot]

end Listing

end BindingPlan

namespace Planning

open BindingPlan

variable {method : AdviceMethod} {spec : AdviceSpecification} {discoverer : Discoverer}
  {pointcut : ExpressionPointcut}

theorem pointcut_of_error {e : EngineError} (h : (compute method spec discoverer pointcut).result = .error e) :
    (compute method spec discoverer pointcut).pointcut = pointcut := by
  rw [compute_eq] at h ⊢
  split
  · rfl
  · next hmisuse =>
      rw [if_neg hmisuse] at h
      split
      · rfl
      · next hbehind =>
          rw [if_neg hbehind] at h
          split
          · rfl
          · next hresolve =>
              rw [hresolve] at h
              dsimp only at h ⊢
              split
              · rfl
              · next hplan =>
                  rw [hplan] at h
                  cases h

/-- A plan that is not made leaves the pointcut alone, and so does one that has no more to say than that
the join point stands in front. Any other plan gives the pointcut its formal parameters: the different
names that the plan has in its table, in the order of the parameters, with the types of these. -/
theorem formals_written_with_plan (method : AdviceMethod) (spec : AdviceSpecification)
    (discoverer : Discoverer) (pointcut : ExpressionPointcut) :
    let planning := compute method spec discoverer pointcut
    (∀ e, planning.result = .error e → planning.pointcut = pointcut) ∧
    ∀ plan, planning.result = .ok plan →
      (¬ HasBehind method → planning.pointcut = pointcut) ∧
      (HasBehind method →
        planning.pointcut = pointcut.withFormals plan.formals ∧
        plan.formals.names.Nodup ∧
        plan.formals.names = keysByIndex plan.bindings ∧
        plan.formals.types.map some = plan.formals.names.map fun name =>
          (plan.bindings.get? name).bind (method.parameterTypes[·]?)) := by
  intro planning
  refine ⟨fun e => pointcut_of_error, fun plan hplan => ?_⟩
  obtain ⟨-, hmade⟩ := made_of_compute hplan
  obtain ⟨slots, hlists⟩ := hmade.exists_lists
  rw [hasBehind_iff, not_not]
  constructor
  · intro hlast
    generalize planning.pointcut = pointcut' at hmade
    cases hmade with
    | front => rfl
    | named _ hbehind => exact absurd hlast hbehind
  · intro hbehind
    have hnodup : plan.formals.names.Nodup := by
      rw [hlists.formals_eq]
      exact hlists.nodup
    refine ⟨?_, hnodup, hlists.names_eq, hlists.types_eq⟩
    generalize planning.pointcut = pointcut' at hmade
    cases hmade with
    | front hlast => exact absurd hlast hbehind
    | named => rfl

/-- The table has the names in another order than the parameters, and what the pointcut had before is
gone. Without a name for the error there is no plan, and the pointcut keeps what it had. -/
theorem formals_of_failed_transfer_written :
    let failed : AdviceMethod :=
      ⟨"failed", .ofName "Audit", [⟨none, .joinPoint⟩, ⟨none, .value (.ofRuntime .text)⟩,
        ⟨none, .error .any⟩, ⟨none, .value (.ofRuntime .word32)⟩], [], .idle⟩
    let spec (names : String) : AdviceSpecification :=
      ⟨.afterThrowing, "args(to, amount)", some names, none, some "ex"⟩
    let pointcut : ExpressionPointcut := ⟨"args(to, amount)", .within ⟨"*"⟩, ⟨["old"], [.any]⟩⟩
    let planning (names : String) := compute failed (spec names) .declared pointcut
    (∃ e, (planning "to, other, amount").result = .error e) ∧
      (planning "to, other, amount").pointcut = pointcut ∧
      ∃ plan, (planning "to, ex, amount").result = .ok plan ∧ HasBehind failed ∧
        plan.bindings = [("amount", 3), ("to", 1)] ∧
        (planning "to, ex, amount").pointcut.formals.names = ["to", "amount"] ∧
        plan.formals.types.map ParameterType.render = ["String", "u32"] := by
  intro failed spec pointcut planning
  have hbehind : HasBehind failed := ⟨1, .value (.ofRuntime .text), rfl, nofun⟩
  have hplan : (planning "to, ex, amount").result = .ok ⟨4, some .joinPoint, [("amount", 3), ("to", 1)], none,
      some ⟨"ex", 2, .error .any⟩,
      ⟨["to", "amount"], [.value (.ofRuntime .text), .value (.ofRuntime .word32)]⟩⟩ := rfl
  have hfailed : (planning "to, other, amount").result = .error (.binding
      (PlanError.throwingUnbound "ex" failed.render).message) := rfl
  obtain ⟨hkept, -⟩ := formals_written_with_plan failed (spec "to, other, amount") .declared pointcut
  obtain ⟨-, hwritten⟩ := formals_written_with_plan failed (spec "to, ex, amount") .declared pointcut
  obtain ⟨hpointcut, -⟩ := (hwritten _ hplan).2 hbehind
  refine ⟨⟨_, hfailed⟩, hkept _ hfailed, _, hplan, hbehind, by decide, ?_, by decide⟩
  rw [hpointcut]
  rfl

end Planning

end Weaving
