import Mathlib.Data.List.Perm.Subperm
import Mathlib.Data.List.Nodup
import Weaving.Advice.BindingPlan
import Weaving.Proofs.TableLookup

namespace Weaving

/-- The parameter of a slot, under its name. -/
def NamedSlot.entry (slot : NamedSlot) : String × Nat := (slot.name, slot.index)

@[simp]
theorem NamedSlot.entry_fst (slot : NamedSlot) : slot.entry.1 = slot.name := rfl

@[simp]
theorem NamedSlot.entry_snd (slot : NamedSlot) : slot.entry.2 = slot.index := rfl

/-- What a named parameter of an advice is for. -/
inductive SlotRole where
  | captured | returned | thrown
  deriving DecidableEq

namespace AdviceSpecification

variable (s : AdviceSpecification)

def role (name : String) : SlotRole :=
  if s.returning = some name then .returned
  else if s.throwing = some name then .thrown
  else .captured

def slotsIn (r : SlotRole) (slots : List NamedSlot) : List NamedSlot :=
  slots.filter fun slot => s.role slot.name = r

theorem slotsIn_cons (r : SlotRole) (slot : NamedSlot) (slots : List NamedSlot) :
    s.slotsIn r (slot :: slots) =
      if s.role slot.name = r then slot :: s.slotsIn r slots else s.slotsIn r slots := by
  simp only [slotsIn, List.filter_cons, decide_eq_true_eq]

theorem mem_slotsIn {r : SlotRole} {slot : NamedSlot} {slots : List NamedSlot} :
    slot ∈ s.slotsIn r slots ↔ slot ∈ slots ∧ s.role slot.name = r := by
  simp [slotsIn]

theorem slotsIn_perm (slots : List NamedSlot) :
    (s.slotsIn .captured slots ++ s.slotsIn .returned slots ++ s.slotsIn .thrown slots).Perm slots := by
  induction slots with
  | nil => rfl
  | cons slot rest ih =>
      simp only [slotsIn_cons]
      cases s.role slot.name with
      | captured => simpa using ih
      | returned =>
          simp only [if_true, reduceCtorEq, if_false, List.append_assoc] at ih ⊢
          exact List.perm_middle.trans (ih.cons slot)
      | thrown =>
          simp only [if_true, reduceCtorEq, if_false] at ih ⊢
          exact List.perm_middle.trans (ih.cons slot)

end AdviceSpecification

/-- The slots that have a role in the end. Of several slots for the returned value, or for the error,
the last one has the role. -/
def AdviceSpecification.kept (s : AdviceSpecification) (slots : List NamedSlot) : List NamedSlot :=
  s.slotsIn .captured slots ++ (s.slotsIn .returned slots).getLast?.toList ++
    (s.slotsIn .thrown slots).getLast?.toList

namespace BindingPlan

variable {method : AdviceMethod} {spec : AdviceSpecification} {p q : BindingPlan}
  {slot : NamedSlot} {slots : List NamedSlot}

/-- The plan with slots in their roles: names for captured values go to the table, and to the end of the
formal parameters. -/
def fill (p : BindingPlan) (spec : AdviceSpecification) (slots : List NamedSlot) : BindingPlan :=
  { p with
    bindings := (spec.slotsIn .captured slots).foldl (fun t slot => t.insert slot.name slot.index) p.bindings
    formals := ⟨p.formals.names ++ (spec.slotsIn .captured slots).map NamedSlot.name,
      p.formals.types ++ (spec.slotsIn .captured slots).map NamedSlot.type⟩
    returning := (spec.slotsIn .returned slots).getLast?.or p.returning
    throwing := (spec.slotsIn .thrown slots).getLast?.or p.throwing }

theorem fill_nil (p : BindingPlan) : p.fill spec [] = p := by simp [fill, AdviceSpecification.slotsIn]

theorem fill_cons (p : BindingPlan) : p.fill spec (slot :: slots) = (p.fill spec [slot]).fill spec slots := by
  simp only [fill, AdviceSpecification.slotsIn_cons]
  cases spec.role slot.name <;> simp [AdviceSpecification.slotsIn, List.getLast?_cons]

section Roles

variable (p)

theorem fill_of_captured (h : spec.role slot.name = .captured) : p.fill spec [slot] =
    { p with
      bindings := p.bindings.insert slot.name slot.index
      formals := p.formals.push slot.name slot.type } := by
  simp [fill, AdviceSpecification.slotsIn, h, Formals.push]

theorem fill_of_returned (h : spec.role slot.name = .returned) :
    p.fill spec [slot] = { p with returning := some slot } := by
  simp [fill, AdviceSpecification.slotsIn, h]

theorem fill_of_thrown (h : spec.role slot.name = .thrown) :
    p.fill spec [slot] = { p with throwing := some slot } := by
  simp [fill, AdviceSpecification.slotsIn, h]

/-- One turn of the loop over the parameters. -/
theorem assign_eq (method : AdviceMethod) : p.assign method spec slot =
    match spec.role slot.name with
    | .captured =>
      if (p.bindings.get? slot.name).isSome then .error (.duplicateName slot.name method.render)
      else .ok (p.fill spec [slot])
    | .returned => .ok (p.fill spec [slot])
    | .thrown =>
      if slot.type.isError then .ok (p.fill spec [slot])
      else .error (.throwingNotError slot.name method.render slot.type.render) := by
  by_cases hreturning : spec.returning = some slot.name
  · have hrole : spec.role slot.name = .returned := if_pos hreturning
    rw [hrole, fill_of_returned p hrole, assign, if_pos hreturning]
  · by_cases hthrowing : spec.throwing = some slot.name
    · have hrole : spec.role slot.name = .thrown := (if_neg hreturning).trans (if_pos hthrowing)
      rw [hrole, fill_of_thrown p hrole, assign, if_neg hreturning, if_pos hthrowing]
    · have hrole : spec.role slot.name = .captured := (if_neg hreturning).trans (if_neg hthrowing)
      rw [hrole, fill_of_captured p hrole, assign, if_neg hreturning, if_neg hthrowing]

end Roles

/-- Names of captured parameters are different, and errors go to parameters for errors. -/
structure Assigned (spec : AdviceSpecification) (p : BindingPlan) (slots : List NamedSlot) : Prop where
  isError : ∀ slot ∈ spec.slotsIn .thrown slots, slot.type.isError = true
  nodup : (p.bindings.keys ++ (spec.slotsIn .captured slots).map NamedSlot.name).Nodup

theorem assign_eq_ok_iff : p.assign method spec slot = .ok q ↔ q = p.fill spec [slot] ∧
    (spec.role slot.name = .thrown → slot.type.isError = true) ∧
    (spec.role slot.name = .captured → slot.name ∉ p.bindings.keys) := by
  rw [assign_eq]
  cases hrole : spec.role slot.name with
  | captured =>
      simp only [Table.isSome_get?_iff]
      split
      · next hmem => simp [hmem]
      · next hmem => simp [hmem, @eq_comm _ q]
  | returned => simp [@eq_comm _ q]
  | thrown =>
      simp only
      split
      · next herror => simp [herror, @eq_comm _ q]
      · next herror => simp [herror]

theorem keys_fill (hname : spec.role slot.name = .captured → slot.name ∉ p.bindings.keys) :
    (p.fill spec [slot]).bindings.keys.Perm
      (p.bindings.keys ++ (spec.slotsIn .captured [slot]).map NamedSlot.name) := by
  by_cases hrole : spec.role slot.name = .captured
  · rw [fill_of_captured p hrole, AdviceSpecification.slotsIn_cons, if_pos hrole]
    refine ((Table.perm_insert_cons (hname hrole)).map Prod.fst).trans ?_
    exact (List.perm_append_singleton slot.name p.bindings.keys).symm
  · simp [fill, AdviceSpecification.slotsIn, hrole]

/-- What a turn of the loop needs, and what it leaves to be needed. -/
theorem assigned_cons_iff : Assigned spec p (slot :: slots) ↔
    ((spec.role slot.name = .thrown → slot.type.isError = true) ∧
      (spec.role slot.name = .captured → slot.name ∉ p.bindings.keys)) ∧
      Assigned spec (p.fill spec [slot]) slots := by
  have hcaptured : (spec.slotsIn .captured (slot :: slots)).map NamedSlot.name =
      (spec.slotsIn .captured [slot]).map NamedSlot.name ++
        (spec.slotsIn .captured slots).map NamedSlot.name := by
    rw [← List.map_append, AdviceSpecification.slotsIn, AdviceSpecification.slotsIn,
      AdviceSpecification.slotsIn, ← List.filter_append]
    rfl
  constructor
  · rintro ⟨herror, hnodup⟩
    have hname : spec.role slot.name = .captured → slot.name ∉ p.bindings.keys := by
      intro hrole hmem
      rw [AdviceSpecification.slotsIn_cons, if_pos hrole, List.map_cons] at hnodup
      exact (List.nodup_append.1 hnodup).2.2 _ hmem _ List.mem_cons_self rfl
    refine ⟨⟨fun hrole => ?_, hname⟩, ⟨fun other hother => ?_, ?_⟩⟩
    · exact herror slot (spec.mem_slotsIn.2 ⟨List.mem_cons_self, hrole⟩)
    · obtain ⟨hmem, hrole⟩ := spec.mem_slotsIn.1 hother
      exact herror other (spec.mem_slotsIn.2 ⟨List.mem_cons_of_mem _ hmem, hrole⟩)
    · rw [((keys_fill hname).append_right _).nodup_iff, List.append_assoc, ← hcaptured]
      exact hnodup
  · rintro ⟨⟨herror, hname⟩, hrest⟩
    constructor
    · intro other hother
      obtain ⟨hmem, hrole⟩ := spec.mem_slotsIn.1 hother
      rcases List.mem_cons.1 hmem with rfl | hmem
      · exact herror hrole
      · exact hrest.isError other (spec.mem_slotsIn.2 ⟨hmem, hrole⟩)
    · have hnodup := hrest.nodup
      rwa [((keys_fill hname).append_right _).nodup_iff, List.append_assoc, ← hcaptured] at hnodup

theorem assigned_nil_iff : Assigned spec p [] ↔ p.bindings.keys.Nodup := by
  constructor
  · intro h
    simpa [AdviceSpecification.slotsIn] using h.nodup
  · intro h
    exact ⟨nofun, by simpa [AdviceSpecification.slotsIn] using h⟩

/-- The loop comes to its end exactly if no name for a captured value comes twice and errors go to
parameters for errors; then every slot has its role. -/
theorem assignAll_eq_ok_iff (hp : p.bindings.keys.Nodup) :
    assignAll method spec p slots = .ok q ↔ q = p.fill spec slots ∧ Assigned spec p slots := by
  induction slots generalizing p with
  | nil => simp [assignAll, fill_nil, assigned_nil_iff, hp, @eq_comm _ q]
  | cons slot rest ih =>
      rw [assigned_cons_iff, fill_cons, assignAll]
      cases hassign : p.assign method spec slot with
      | error e =>
          have hnot := (assign_eq_ok_iff (q := p.fill spec [slot])).not.1 (by rw [hassign]; nofun)
          simp only [true_and] at hnot
          simp [hnot]
      | ok p' =>
          obtain ⟨rfl, hneeded⟩ := assign_eq_ok_iff.1 hassign
          have hnodup : (p.fill spec [slot]).bindings.keys.Nodup := by
            rw [(keys_fill hneeded.2).nodup_iff]
            by_cases hrole : spec.role slot.name = .captured
            · rw [AdviceSpecification.slotsIn_cons, if_pos hrole]
              exact hp.append (List.nodup_singleton _) (List.disjoint_singleton.2 (hneeded.2 hrole))
            · simpa [AdviceSpecification.slotsIn, hrole] using hp
          rw [and_iff_right hneeded]
          exact ih hnodup

section Slots

variable {types : List ParameterType} {names : List String} {offset : Nat}

theorem index_slots (h : names.length = types.length) :
    (BindingPlan.slots types names offset).map NamedSlot.index =
      List.range' offset (types.length - offset) := by
  have hsnd : (fun e : (String × ParameterType) × Nat => e.2) = Prod.snd := rfl
  simp only [BindingPlan.slots, List.map_map, Function.comp_def, List.map_drop, hsnd,
    List.zipIdx_map_snd, List.length_zip, h, Nat.min_self, List.drop_range', Nat.zero_add, Nat.mul_one]

theorem name_slots (h : names.length = types.length) :
    (BindingPlan.slots types names offset).map NamedSlot.name = names.drop offset := by
  have hfst : (fun e : (String × ParameterType) × Nat => e.1.1) = Prod.fst ∘ Prod.fst := rfl
  simp only [BindingPlan.slots, List.map_map, Function.comp_def, List.map_drop]
  rw [hfst, ← List.map_map, List.zipIdx_map_fst, List.map_fst_zip (Nat.le_of_eq h)]

theorem type_of_mem_slots (h : slot ∈ BindingPlan.slots types names offset) :
    types[slot.index]? = some slot.type := by
  simp only [BindingPlan.slots, List.mem_map] at h
  obtain ⟨e, he, rfl⟩ := h
  have hget := List.mem_zipIdx_iff_getElem?.1 (List.mem_of_mem_drop he)
  rw [List.getElem?_zip_eq_some] at hget
  exact hget.2

end Slots

/-- The plan before the parameters behind the join point have names. -/
def front (method : AdviceMethod) : BindingPlan :=
  ⟨method.parameters.length, method.parameterTypes.head?.bind JoinPointSlot.ofType?, .empty, none, none, .empty⟩

/-- The slots behind the join point, under the given names. -/
def slotsBehind (method : AdviceMethod) (names : List String) : List NamedSlot :=
  BindingPlan.slots method.parameterTypes names (front method).offset

theorem offset_fill (p : BindingPlan) : (p.fill spec slots).offset = p.offset := rfl

theorem offset_front_le (method : AdviceMethod) : (front method).offset ≤ method.parameters.length := by
  simp only [offset]
  split
  · next h =>
      by_contra hlen
      have hnil : method.parameters = [] := List.length_eq_zero_iff.1 (by omega)
      simp [front, AdviceMethod.parameterTypes, hnil] at h
  · exact Nat.zero_le _

theorem fill_front : (front method).fill spec slots =
    { front method with
      bindings := .ofList ((spec.slotsIn .captured slots).map NamedSlot.entry)
      formals := ⟨(spec.slotsIn .captured slots).map NamedSlot.name,
        (spec.slotsIn .captured slots).map NamedSlot.type⟩
      returning := (spec.slotsIn .returned slots).getLast?
      throwing := (spec.slotsIn .thrown slots).getLast? } := by
  simp [fill, front, Table.ofList, List.foldl_map, NamedSlot.entry, Formals.empty]

/-- What is supplied by name, and to which parameter. -/
def bound (p : BindingPlan) : List (String × Nat) :=
  p.bindings ++ p.returning.toList.map NamedSlot.entry ++ p.throwing.toList.map NamedSlot.entry

/-- The parameters that the plan supplies. -/
def indices (p : BindingPlan) : List Nat := List.range p.offset ++ p.bound.map Prod.snd

theorem bound_perm_kept (h : Assigned spec (front method) slots) :
    ((front method).fill spec slots).bound.Perm ((spec.kept slots).map NamedSlot.entry) := by
  have hnodup : (((spec.slotsIn .captured slots).map NamedSlot.entry).map Prod.fst).Nodup := by
    rw [List.map_map]
    exact h.nodup
  rw [fill_front, AdviceSpecification.kept, List.map_append, List.map_append]
  exact ((Table.perm_ofList hnodup).append_right _).append_right _

theorem toList_getLast?_sublist {α : Type} (l : List α) : l.getLast?.toList.Sublist l := by
  cases h : l.getLast? with
  | none => simp
  | some a => simpa using List.mem_of_getLast? h

theorem kept_sublist (spec : AdviceSpecification) (slots : List NamedSlot) : (spec.kept slots).Sublist
    (spec.slotsIn .captured slots ++ spec.slotsIn .returned slots ++ spec.slotsIn .thrown slots) :=
  ((List.Sublist.refl _).append (toList_getLast?_sublist _)).append (toList_getLast?_sublist _)

theorem name_eq_of_role {r : SlotRole} (hr : r ≠ .captured) {a b : String} (ha : spec.role a = r)
    (hb : spec.role b = r) : a = b := by
  simp only [AdviceSpecification.role] at ha hb
  cases r with
  | captured => exact absurd rfl hr
  | returned => grind
  | thrown => grind

theorem toList_getLast?_eq {α β : Type} {l : List α} (f : α → β) (h : (l.map f).Nodup)
    (heq : ∀ a ∈ l, ∀ b ∈ l, f a = f b) : l.getLast?.toList = l := by
  match l with
  | [] | [_] => rfl
  | a :: b :: _ =>
      have hab : f a = f b := heq a (by simp) b (by simp)
      simp [hab] at h

theorem disjoint_of_roles {r r' : SlotRole} {l l' : List NamedSlot} (hl : l ⊆ spec.slotsIn r slots)
    (hl' : l' ⊆ spec.slotsIn r' slots) (hne : r ≠ r') :
    (l.map NamedSlot.name).Disjoint (l'.map NamedSlot.name) := by
  intro name hname hname'
  obtain ⟨a, ha, rfl⟩ := List.mem_map.1 hname
  obtain ⟨b, hb, hname⟩ := List.mem_map.1 hname'
  have hrole := (spec.mem_slotsIn.1 (hl' hb)).2
  rw [hname, (spec.mem_slotsIn.1 (hl ha)).2] at hrole
  exact hne hrole

/-- Slots of different names all have a role in the end. -/
theorem kept_perm_iff (hcaptured : ((spec.slotsIn .captured slots).map NamedSlot.name).Nodup) :
    (spec.kept slots).Perm slots ↔ (slots.map NamedSlot.name).Nodup := by
  rw [AdviceSpecification.kept]
  constructor
  · intro hperm
    rw [← (hperm.map _).nodup_iff, List.map_append, List.map_append]
    have hone (o : Option NamedSlot) : (o.toList.map NamedSlot.name).Nodup := by cases o <;> simp
    have hlast (r : SlotRole) : (spec.slotsIn r slots).getLast?.toList ⊆ spec.slotsIn r slots :=
      (toList_getLast?_sublist _).subset
    refine (hcaptured.append (hone _) ?_).append (hone _) (List.disjoint_append_left.2 ⟨?_, ?_⟩)
    · exact disjoint_of_roles (List.Subset.refl _) (hlast .returned) nofun
    · exact disjoint_of_roles (List.Subset.refl _) (hlast .thrown) nofun
    · exact disjoint_of_roles (hlast .returned) (hlast .thrown) nofun
  · intro hnames
    have hlast {r : SlotRole} (hr : r ≠ .captured) :
        (spec.slotsIn r slots).getLast?.toList = spec.slotsIn r slots := by
      refine toList_getLast?_eq NamedSlot.name ?_ fun a ha b hb => ?_
      · exact hnames.sublist (List.filter_sublist.map _)
      · exact name_eq_of_role hr (spec.mem_slotsIn.1 ha).2 (spec.mem_slotsIn.1 hb).2
    rw [hlast (r := .returned) nofun, hlast (r := .thrown) nofun]
    exact spec.slotsIn_perm slots

section Indices

variable {names : List String}

theorem length_names (hnames : names.length = method.parameters.length) :
    names.length = method.parameterTypes.length := by
  rw [hnames, AdviceMethod.parameterTypes, List.length_map]

theorem indices_perm_kept (h : Assigned spec (front method) (slotsBehind method names)) :
    ((front method).fill spec (slotsBehind method names)).indices.Perm (List.range (front method).offset ++
      (spec.kept (slotsBehind method names)).map NamedSlot.index) := by
  rw [indices, offset_fill]
  refine List.Perm.append_left _ (((bound_perm_kept h).map Prod.snd).trans ?_)
  rw [List.map_map]
  rfl

variable (hnames : names.length = method.parameters.length)

include hnames

/-- The join point in front and the slots behind it are all the parameters. -/
theorem range_append_slotsBehind :
    List.range (front method).offset ++ (slotsBehind method names).map NamedSlot.index =
      List.range method.parameters.length := by
  rw [slotsBehind, index_slots (length_names hnames), ← length_names hnames, hnames,
    List.range_eq_range', List.range_eq_range', ← Nat.add_sub_of_le (offset_front_le method)]
  simp [← List.range'_append]

variable (h : Assigned spec (front method) (slotsBehind method names))

include h

theorem indices_subperm : ((front method).fill spec (slotsBehind method names)).indices.Subperm
    (List.range method.parameters.length) := by
  rw [← range_append_slotsBehind hnames]
  refine (indices_perm_kept h).subperm.trans ((List.subperm_append_left _).2 ?_)
  exact ((kept_sublist spec _).map _).subperm.trans ((spec.slotsIn_perm _).map _).subperm

theorem indices_perm_iff : ((front method).fill spec (slotsBehind method names)).indices.Perm
      (List.range method.parameters.length) ↔ (names.drop (front method).offset).Nodup := by
  rw [(indices_perm_kept h).congr_left, ← range_append_slotsBehind hnames, List.perm_append_left_iff,
    ← name_slots (length_names hnames), ← slotsBehind, ← kept_perm_iff h.nodup]
  constructor
  · intro hperm
    have hsub : (spec.kept (slotsBehind method names)).Subperm (slotsBehind method names) :=
      (kept_sublist spec _).subperm.trans (spec.slotsIn_perm _).subperm
    exact hsub.perm_of_length_le (by simpa using Nat.le_of_eq hperm.length_eq.symm)
  · exact fun hperm => hperm.map _

end Indices

/-- How a plan is made: there is nothing behind the join point, or the parameters there have names. -/
inductive Made (method : AdviceMethod) (spec : AdviceSpecification) (discoverer : Discoverer)
    (pointcut : ExpressionPointcut) : BindingPlan → ExpressionPointcut → Prop
  | front (hlast : (front method).offset = method.parameters.length) :
      Made method spec discoverer pointcut (front method) pointcut
  | named (names : List String) (hbehind : (front method).offset ≠ method.parameters.length)
      (hresolve : (resolveNames method spec discoverer).1 = .ok names)
      (hlength : names.length = method.parameters.length)
      (hassigned : Assigned spec (front method) (slotsBehind method names)) :
      Made method spec discoverer pointcut ((front method).fill spec (slotsBehind method names))
        (pointcut.withFormals ((front method).fill spec (slotsBehind method names)).formals)

theorem ofNames_eq_ok {names : List String} (h : ofNames method spec (front method) names = .ok q) :
    names.length = method.parameters.length ∧ q = (front method).fill spec (slotsBehind method names) ∧
      Assigned spec (front method) (slotsBehind method names) := by
  simp only [ofNames] at h
  split at h
  · cases h
  · next hlength =>
      split at h
      · cases h
      · next p hassign =>
          obtain ⟨rfl, hassigned⟩ := (assignAll_eq_ok_iff (p := front method) List.nodup_nil).1 hassign
          simp only [checkConfigured] at h
          split at h
          · cases h
          · cases h
          · exact ⟨not_not.1 hlength, (Except.ok.inj h).symm, hassigned⟩

variable {discoverer : Discoverer} {pointcut : ExpressionPointcut}

theorem compute_eq : Planning.compute method spec discoverer pointcut =
    if (front method).joinPoint = some .proceeding && !spec.kind.canProceed then
      ⟨.error (.proceedMisuse method.render spec.kind), pointcut, false⟩
    else if (front method).offset = method.parameters.length then ⟨.ok (front method), pointcut, false⟩
    else
      match resolveNames method spec discoverer with
      | (.error e, consulted) => ⟨.error e, pointcut, consulted⟩
      | (.ok names, consulted) =>
        match ofNames method spec (front method) names with
        | .error e => ⟨.error (.binding e.message), pointcut, consulted⟩
        | .ok plan => ⟨.ok plan, pointcut.withFormals plan.formals, consulted⟩ := rfl

theorem made_of_compute (h : (Planning.compute method spec discoverer pointcut).result = .ok q) :
    (q.joinPoint = some .proceeding → spec.kind.canProceed = true) ∧
      Made method spec discoverer pointcut q (Planning.compute method spec discoverer pointcut).pointcut := by
  rw [compute_eq] at h ⊢
  split at h
  · cases h
  · next hmisuse =>
      have hproceed : (front method).joinPoint = some .proceeding → spec.kind.canProceed = true := by
        simpa using hmisuse
      rw [if_neg hmisuse]
      split at h
      · next hlast =>
          obtain rfl := Except.ok.inj h
          rw [if_pos hlast]
          exact ⟨hproceed, .front hlast⟩
      · next hbehind =>
          rw [if_neg hbehind]
          split at h
          · cases h
          · next names consulted hresolve =>
              split at h
              · cases h
              · next plan hplan =>
                  obtain rfl := Except.ok.inj h
                  obtain ⟨hlength, rfl, hassigned⟩ := ofNames_eq_ok hplan
                  exact ⟨hproceed, .named names hbehind (by rw [hresolve]) hlength hassigned⟩

theorem indices_front : (front method).indices = List.range (front method).offset := by
  rw [indices]
  exact List.append_nil _

section Made

variable {pointcut' : ExpressionPointcut} (hmade : Made method spec discoverer pointcut q pointcut')

include hmade

theorem Made.parameterCount_eq : q.parameterCount = method.parameters.length := by
  cases hmade <;> rfl

theorem Made.indices_subperm : q.indices.Subperm (List.range method.parameters.length) := by
  cases hmade with
  | front hlast => rw [indices_front, hlast]
  | named names _ _ hlength hassigned => exact BindingPlan.indices_subperm hlength hassigned

theorem Made.indices_nodup : q.indices.Nodup := by
  obtain ⟨l, hperm, hl⟩ := hmade.indices_subperm
  exact hperm.nodup_iff.1 (List.nodup_range.sublist hl)

end Made

theorem perm_range_iff {l : List Nat} {n : Nat} (h : l.Subperm (List.range n)) :
    l.Perm (List.range n) ↔ ∀ i < n, i ∈ l := by
  constructor
  · exact fun hperm i hi => hperm.mem_iff.2 (List.mem_range.2 hi)
  · intro hcover
    refine h.antisymm (List.subperm_of_subset List.nodup_range fun i hi => ?_)
    exact hcover i (List.mem_range.1 hi)

/-- A plan supplies no parameter twice. It supplies all of them exactly if those behind the join
point have different names, since a name for the returned value or the error goes to its last
parameter only. -/
theorem indices_cover_iff_names_nodup (method : AdviceMethod) (spec : AdviceSpecification)
    (discoverer : Discoverer) (pointcut : ExpressionPointcut) (plan : BindingPlan)
    (h : (Planning.compute method spec discoverer pointcut).result = .ok plan) :
    plan.parameterCount = method.parameters.length ∧ plan.indices.Nodup ∧
      (∀ i ∈ plan.indices, i < plan.parameterCount) ∧
      ((∀ i < plan.parameterCount, i ∈ plan.indices) ↔
        plan.offset = plan.parameterCount ∨
          ∃ names, (resolveNames method spec discoverer).1 = .ok names ∧ (names.drop plan.offset).Nodup) := by
  obtain ⟨-, hmade⟩ := made_of_compute h
  generalize (Planning.compute method spec discoverer pointcut).pointcut = pointcut' at hmade
  have hsub := hmade.indices_subperm
  rw [hmade.parameterCount_eq]
  refine ⟨rfl, hmade.indices_nodup, fun i hi => List.mem_range.1 (hsub.subset hi), ?_⟩
  rw [← perm_range_iff hsub]
  cases hmade with
  | front hlast => simp [indices_front, hlast]
  | named names hbehind hresolve hlength hassigned =>
      rw [indices_perm_iff hlength hassigned, offset_fill]
      simp [hbehind, hresolve]

/-- Both parameters are named for the result, and the first one is supplied with nothing. -/
theorem first_of_two_results_unsupplied :
    let log : AdviceMethod := ⟨"log", .ofName "Audit", [⟨none, .any⟩, ⟨none, .any⟩], [], .idle⟩
    let spec : AdviceSpecification :=
      ⟨.afterReturning, "execution(* find(..))", some "result, result", some "result", none⟩
    let plan : BindingPlan := ⟨2, none, .empty, some ⟨"result", 1, .any⟩, none, .empty⟩
    (Planning.compute log spec .declared ⟨spec.expression, .within ⟨"*"⟩, .empty⟩).result = .ok plan ∧
      plan.indices = [1] ∧ ¬ ∀ i < plan.parameterCount, i ∈ plan.indices := by
  intro log spec plan
  have hplan : (Planning.compute log spec .declared ⟨spec.expression, .within ⟨"*"⟩, .empty⟩).result =
      .ok plan := rfl
  have hnames : (resolveNames log spec .declared).1 = .ok ["result", "result"] := rfl
  obtain ⟨-, -, -, hcover⟩ := indices_cover_iff_names_nodup log spec .declared _ plan hplan
  refine ⟨hplan, rfl, fun h => ?_⟩
  rcases hcover.1 h with hlast | ⟨names, hresolve, hnodup⟩
  · exact absurd hlast (by decide)
  · rw [hnames] at hresolve
    obtain rfl := Except.ok.inj hresolve
    exact absurd hnodup (by decide)

end BindingPlan

end Weaving
