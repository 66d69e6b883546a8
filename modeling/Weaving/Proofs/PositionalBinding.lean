import Weaving.Proofs.BoundArguments

namespace Weaving

def JoinPointSlot.argument : JoinPointSlot → JoinPoint → Argument
  | joinPoint, j => .joinPoint j
  | proceeding, j => .proceeding j
  | staticPart, j => .staticPart j.method

/-- The same argument at another join point. -/
def Argument.at : JoinPoint → Argument → Argument
  | j, joinPoint _ => joinPoint j
  | j, proceeding _ => proceeding j
  | j, staticPart _ => staticPart j.method
  | _, value v => value v
  | _, error e => error e

theorem JoinPointSlot.argument_at (slot : JoinPointSlot) (j j' : JoinPoint) :
    (slot.argument j).at j' = slot.argument j' := by
  cases slot <;> rfl

namespace JoinPoint

def capture? (j : JoinPoint) (name : String) : Option Value := j.captured.bind (·.get? name)

end JoinPoint

namespace BindingPlan

variable {p : BindingPlan} {context other : JoinPoint} {args : Arguments}

def Covers (p : BindingPlan) : Prop := ∀ i < p.parameterCount, i ∈ p.indices

/-- The context has something for each parameter that is bound by name. -/
structure Provided (p : BindingPlan) (context : JoinPoint) : Prop where
  captured : ∀ e ∈ p.bindings, (context.capture? e.1).isSome = true
  returned : p.returning.isSome = true → context.returnValue.isSome = true
  thrown : p.throwing.isSome = true → context.thrown.isSome = true

/-- The contexts have the same for each parameter that is bound by name. -/
structure Agrees (p : BindingPlan) (context other : JoinPoint) : Prop where
  captured : ∀ e ∈ p.bindings, other.capture? e.1 = context.capture? e.1
  returned : p.returning.isSome = true → other.returnValue = context.returnValue
  thrown : p.throwing.isSome = true → other.thrown = context.thrown

def filled {α : Type} (slot : Option NamedSlot) (a : Option α) (f : α → Argument) :
    List (Nat × Argument) :=
  (slot.bind fun s => a.map fun a => (s.index, f a)).toList

theorem supplied_eq (p : BindingPlan) (context : JoinPoint) : p.supplied context =
    (p.joinPoint.map fun slot => (0, slot.argument context)).toList ++
      (p.bindings.filterMap fun e => (context.capture? e.1).map fun v => (e.2, Argument.value v)) ++
      filled p.returning context.returnValue .value ++ filled p.throwing context.thrown .error := by
  rw [supplied]
  congr 1
  · congr 1
    · congr 1
      · cases p.joinPoint with
        | none => rfl
        | some slot => cases slot <;> rfl
      · cases hc : context.captured with
        | none => simp [JoinPoint.capture?, hc]
        | some c => simp [JoinPoint.capture?, hc]
    · cases p.returning <;> cases context.returnValue <;> rfl
  · cases p.throwing <;> cases context.thrown <;> rfl

theorem mem_supplied_of_supplies {i : Nat} {arg : Argument} (h : p.Supplies context i arg) :
    (i, arg) ∈ p.supplied context := by
  rw [supplied_eq]
  simp only [List.mem_append, filled, Option.mem_toList]
  cases h with
  | joinPoint h | proceeding h | staticPart h =>
      left; left; left
      rw [h]
      rfl
  | captured hbinding hc hv =>
      left; left; right
      refine List.mem_filterMap.2 ⟨_, hbinding, ?_⟩
      rw [JoinPoint.capture?, hc, Option.bind_some, hv]
      rfl
  | returned hslot hv =>
      left; right
      rw [hslot, hv]
      rfl
  | thrown hslot he =>
      right
      rw [hslot, he]
      rfl

theorem length_filled {α : Type} (slot : Option NamedSlot) (a : Option α) (f : α → Argument) :
    (filled slot a f).length ≤ slot.toList.length ∧
      ((filled slot a f).length = slot.toList.length ↔ (slot.isSome = true → a.isSome = true)) := by
  cases slot <;> cases a <;> simp [filled]

theorem length_filterMap_map {α β γ : Type} (f : α → Option β) (g : α → β → γ) (l : List α) :
    (l.filterMap fun a => (f a).map (g a)).length ≤ l.length ∧
      ((l.filterMap fun a => (f a).map (g a)).length = l.length ↔ ∀ a ∈ l, (f a).isSome = true) := by
  induction l with
  | nil => simp
  | cons a rest ih =>
      obtain ⟨hle, heq⟩ := ih
      cases hf : f a with
      | none =>
          simp only [List.filterMap_cons, hf, Option.map_none, List.length_cons]
          refine ⟨by omega, iff_of_false (by omega) fun h => ?_⟩
          simpa [hf] using h a List.mem_cons_self
      | some b =>
          simp only [List.filterMap_cons, hf, Option.map_some, List.length_cons, List.forall_mem_cons]
          refine ⟨by omega, ?_⟩
          simp only [Option.isSome_some, true_and]
          rw [← heq]
          omega

theorem length_indices (p : BindingPlan) : p.indices.length =
    p.joinPoint.toList.length + p.bindings.length + p.returning.toList.length + p.throwing.toList.length := by
  simp only [indices, bound, offset, List.length_append, List.length_range, List.length_map]
  cases p.joinPoint with
  | none => simp [Nat.add_assoc]
  | some slot => simp [Nat.add_assoc]

theorem length_supplied_eq_iff :
    (p.supplied context).length = p.indices.length ↔ p.Provided context := by
  obtain ⟨hcaptured, hcaptured'⟩ := length_filterMap_map (fun e : String × Nat => context.capture? e.1)
    (fun e v => (e.2, Argument.value v)) p.bindings
  obtain ⟨hreturned, hreturned'⟩ := length_filled p.returning context.returnValue .value
  obtain ⟨hthrown, hthrown'⟩ := length_filled p.throwing context.thrown .error
  rw [length_indices, supplied_eq]
  simp only [List.length_append, Option.length_toList, Option.isSome_map] at *
  constructor
  · intro heq
    exact ⟨hcaptured'.1 (by omega), hreturned'.1 (by omega), hthrown'.1 (by omega)⟩
  · rintro ⟨h, h', h''⟩
    rw [hcaptured'.2 h, hreturned'.2 h', hthrown'.2 h'']

section Subperm

variable (hindices : p.indices.Subperm (List.range p.parameterCount))

include hindices

theorem length_supplied_eq_parameterCount_iff :
    (p.supplied context).length = p.parameterCount ↔ p.Covers ∧ p.Provided context := by
  have hsupplied : (p.supplied context).length ≤ p.indices.length := by
    simpa using supplied_sublist.length_le
  have hcount : p.indices.length ≤ p.parameterCount := by simpa using hindices.length_le
  rw [Covers, ← perm_range_iff hindices, ← length_supplied_eq_iff]
  -- No more is supplied than the plan is for, and that is no more than there are parameters.
  constructor
  · intro h
    refine ⟨hindices.perm_of_length_le ?_, by omega⟩
    rw [List.length_range]
    omega
  · rintro ⟨hperm, hlength⟩
    rw [hlength, hperm.length_eq, List.length_range]

theorem bind_isOk_iff : (∃ args, p.bind context = .ok args) ↔ p.Covers ∧ p.Provided context := by
  rw [← length_supplied_eq_parameterCount_iff hindices]
  by_cases h : (p.supplied context).length = p.parameterCount
  · simp [bind, h]
  · simp [bind, h]

theorem eq_of_mem_supplied {i : Nat} {a b : Argument} (ha : (i, a) ∈ p.supplied context)
    (hb : (i, b) ∈ p.supplied context) : a = b := by
  have hnodup : ((p.supplied context).map Prod.fst).Nodup := by
    obtain ⟨l, hperm, hsub⟩ := hindices
    exact (hperm.nodup_iff.1 (List.nodup_range.sublist hsub)).sublist supplied_sublist
  rw [← lookup_eq_some_iff_mem hnodup] at ha hb
  exact Option.some.inj (ha.symm.trans hb)

theorem getElem?_bind_iff (h : p.bind context = .ok args) {i : Nat} {arg : Argument} :
    args[i]? = some arg ↔ p.Supplies context i arg := by
  obtain ⟨hlength, hget⟩ := bind_eq_ok hindices h
  constructor
  · exact hget i arg
  · intro hsupplies
    have hmem := mem_supplied_of_supplies hsupplies
    have hi : i < p.parameterCount := by
      have hindex := supplied_sublist.subset (List.mem_map_of_mem (f := Prod.fst) hmem)
      exact List.mem_range.1 (hindices.subset hindex)
    have hsome : args[i]? = some args[i] := List.getElem?_eq_getElem (by omega)
    rw [hsome, eq_of_mem_supplied hindices hmem (mem_supplied_of_supplies (hget i _ hsome))]

end Subperm

section Agrees

variable (hagrees : p.Agrees context other)

include hagrees

theorem Agrees.supplied_eq :
    p.supplied other = (p.supplied context).map fun e => (e.1, e.2.at other) := by
  obtain ⟨hcaptured, hreturned, hthrown⟩ := hagrees
  simp only [BindingPlan.supplied_eq, List.map_append]
  congr 1
  · congr 1
    · congr 1
      · cases p.joinPoint with
        | none => rfl
        | some slot => simp [JoinPointSlot.argument_at]
      · rw [List.map_filterMap]
        refine List.filterMap_congr fun e he => ?_
        rw [hcaptured e he, Option.map_map]
        rfl
    · cases hr : p.returning with
      | none => rfl
      | some slot =>
          rw [hreturned (by rw [hr]; rfl)]
          cases context.returnValue <;> rfl
  · cases ht : p.throwing with
    | none => rfl
    | some slot =>
        rw [hthrown (by rw [ht]; rfl)]
        cases context.thrown <;> rfl

theorem Agrees.length_supplied : (p.supplied other).length = (p.supplied context).length := by
  rw [hagrees.supplied_eq, List.length_map]

theorem Agrees.lookup_eq (i : Nat) :
    (p.supplied other).lookup i = ((p.supplied context).lookup i).map (·.at other) := by
  rw [hagrees.supplied_eq]
  induction p.supplied context with
  | nil => rfl
  | cons e rest ih =>
      rw [List.map_cons, List.lookup_cons, List.lookup_cons, ih]
      cases i == e.1 <;> rfl

/-- What the plan does not mention has no effect beyond the text of a failure. -/
theorem Agrees.toOption_bind :
    (p.bind other).toOption = (p.bind context).toOption.map (List.map (·.at other)) := by
  simp only [bind, hagrees.length_supplied]
  split
  · simp [Except.toOption, hagrees.lookup_eq, List.map_filterMap]
  · rfl

theorem Agrees.bind_eq (hmethod : other.method = context.method)
    (hpresent : other.captured.isSome = context.captured.isSome) :
    p.bind other = (p.bind context).map (List.map (·.at other)) := by
  simp only [bind, hagrees.length_supplied, hmethod, hpresent]
  split
  · simp [Except.map, hagrees.lookup_eq, List.map_filterMap]
  · rfl

end Agrees

/-- A join point is bound exactly if the plan has a slot for each parameter and the join point
something for each slot; then each argument stands at the index of its slot. What else there is at
the join point changes nothing, but that a failure says whether anything is captured. -/
theorem bind_positional (method : AdviceMethod) (spec : AdviceSpecification) (discoverer : Discoverer)
    (pointcut : ExpressionPointcut) (plan : BindingPlan) (context : JoinPoint)
    (h : (Planning.compute method spec discoverer pointcut).result = .ok plan) :
    ((∃ args, plan.bind context = .ok args) ↔ plan.Covers ∧ plan.Provided context) ∧
      (∀ args, plan.bind context = .ok args → args.length = plan.parameterCount ∧
        ∀ (i : Nat) (arg : Argument), args[i]? = some arg ↔ plan.Supplies context i arg) ∧
      (∀ e, plan.bind context = .error e → ∃ reason, e = .binding reason) ∧
      ∀ other, plan.Agrees context other →
        (plan.bind other).toOption = (plan.bind context).toOption.map (List.map (·.at other)) ∧
          (other.method = context.method → other.captured.isSome = context.captured.isSome →
            plan.bind other = (plan.bind context).map (List.map (·.at other))) := by
  have hindices : plan.indices.Subperm (List.range plan.parameterCount) := by
    obtain ⟨-, hmade⟩ := made_of_compute h
    rw [hmade.parameterCount_eq]
    exact hmade.indices_subperm
  refine ⟨bind_isOk_iff hindices, ?_, fun e => exists_binding_of_bind, ?_⟩
  · intro args hargs
    exact ⟨(bind_eq_ok hindices hargs).1, fun i arg => getElem?_bind_iff hindices hargs⟩
  · intro other hagrees
    exact ⟨hagrees.toOption_bind, hagrees.bind_eq⟩

/-- A result and a value of another name have no place in the plan. The named value has. -/
theorem failure_bound_beside_result :
    let report : AdviceMethod := ⟨"report", .ofName "Audit",
      [⟨none, .joinPoint⟩, ⟨none, .value (.ofRuntime .word32)⟩, ⟨none, .error .any⟩], [], .idle⟩
    let spec : AdviceSpecification :=
      ⟨.afterThrowing, "execution(* find(..)) && args(id)", some "jp, id, failure", none, some "failure"⟩
    let pointcut : ExpressionPointcut := ⟨spec.expression, .args "id" [.named ⟨"id"⟩], .empty⟩
    let plan : BindingPlan := ⟨3, some .joinPoint, [("id", 1)], none, some ⟨"failure", 2, .error .any⟩,
      ⟨["id"], [.value (.ofRuntime .word32)]⟩⟩
    let find : Method := ⟨.ofName "Orders", "find", [.ofRuntime .word32], none⟩
    let missed : JoinPoint := { JoinPoint.ofCall find (.ofName "Orders") [.word32 7] with
      thrown := some (.orderNotFound 7)
      captured := some ⟨[("id", .word32 7)]⟩ }
    let other : JoinPoint := { missed with
      returnValue := some .unit
      captured := some ⟨[("order", .unit), ("id", .word32 7)]⟩ }
    (Planning.compute report spec .declared pointcut).result = .ok plan ∧
      plan.bind other = .ok [.joinPoint other, .value (.word32 7), .error (.orderNotFound 7)] ∧
      ∃ reason, plan.bind { missed with captured := none } = .error (.binding reason) := by
  intro report spec pointcut plan find missed other
  have hplan : (Planning.compute report spec .declared pointcut).result = .ok plan := rfl
  have hagrees : plan.Agrees missed other := by
    refine ⟨?_, nofun, fun _ => rfl⟩
    intro e he
    obtain rfl := List.mem_singleton.1 he
    rfl
  refine ⟨hplan, ?_, ?_⟩
  · obtain ⟨-, -, -, hother⟩ := bind_positional report spec .declared pointcut plan missed hplan
    rw [(hother other hagrees).2 rfl rfl]
    rfl
  · obtain ⟨hok, -, herror, -⟩ :=
      bind_positional report spec .declared pointcut plan { missed with captured := none } hplan
    cases hbind : plan.bind { missed with captured := none } with
    | error e =>
        obtain ⟨reason, rfl⟩ := herror e hbind
        exact ⟨reason, rfl⟩
    | ok args =>
        obtain ⟨-, hprovided⟩ := hok.1 ⟨args, hbind⟩
        cases hprovided.captured _ (List.mem_singleton_self _)

end BindingPlan

end Weaving
