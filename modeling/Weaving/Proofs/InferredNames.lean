import Weaving.Proofs.ConfiguredNames
import Weaving.Proofs.NameLists

namespace Weaving

namespace Discoverer

variable {p : ParameterType → Bool} {slots slots' : List Slot} {names : List String} {method : AdviceMethod}
  {hints : DiscoveryHints} {type : ParameterType} {name : String}

/-- The names that slots have so far. -/
def given (slots : List Slot) : List String := slots.filterMap Prod.snd

def unnamed (types : List ParameterType) : List Slot := types.map fun type => (type, none)

theorem fill_nil (p : ParameterType → Bool) (slots : List Slot) : fill p slots [] = slots := by
  cases slots <;> rfl

theorem fill_cons_some : fill p ((type, some name) :: slots) names = (type, some name) :: fill p slots names := by
  cases names with
  | nil => rw [fill_nil, fill_nil]
  | cons _ _ => rfl

theorem openSlots_cons_some : openSlots p ((type, some name) :: slots) = openSlots p slots := rfl

theorem openSlots_unnamed (p : ParameterType → Bool) (types : List ParameterType) :
    openSlots p (unnamed types) = unnamed (types.filter p) := by
  simp [openSlots, unnamed, List.filter_map, Function.comp_def]

theorem types_fill (p : ParameterType → Bool) (slots : List Slot) (names : List String) :
    (fill p slots names).map Prod.fst = slots.map Prod.fst := by
  induction slots generalizing names with
  | nil => rfl
  | cons slot rest ih =>
      obtain ⟨type, _ | name⟩ := slot
      · cases names with
        | nil => rw [fill_nil]
        | cons name names =>
            rw [fill]
            split
            · rw [List.map_cons, List.map_cons, ih]
            · rw [List.map_cons, List.map_cons, ih]
      · rw [fill_cons_some, List.map_cons, List.map_cons, ih]

/-- Each name goes to a slot of its own, if there are enough of them. -/
theorem given_fill_perm (h : names.length ≤ (openSlots p slots).length) :
    (given (fill p slots names)).Perm (given slots ++ names) := by
  induction slots generalizing names with
  | nil =>
      obtain rfl : names = [] := List.length_eq_zero_iff.1 (Nat.le_zero.1 h)
      exact List.Perm.refl _
  | cons slot rest ih =>
      obtain ⟨type, _ | known⟩ := slot
      · cases names with
        | nil =>
            rw [fill_nil, List.append_nil]
        | cons name names =>
            rw [fill]
            split
            · next htype =>
                have hopen : openSlots p ((type, none) :: rest) = (type, none) :: openSlots p rest := by
                  simp [openSlots, htype]
                rw [hopen] at h
                exact ((ih (Nat.le_of_succ_le_succ h)).cons name).trans List.perm_middle.symm
            · next htype =>
                have hopen : openSlots p ((type, none) :: rest) = openSlots p rest := by
                  simp [openSlots, htype]
                rw [hopen] at h
                exact ih h
      · rw [fill_cons_some]
        exact (ih h).cons known

theorem mem_fill {slot : Slot} (h : slot ∈ fill p slots names) :
    slot ∈ slots ∨ p slot.1 = true ∧ ∃ name ∈ names, slot.2 = some name := by
  induction slots generalizing names with
  | nil => cases h
  | cons other rest ih =>
      have hlater {names' : List String} (hsub : names' ⊆ names) (hmem : slot ∈ fill p rest names') :
          slot ∈ other :: rest ∨ p slot.1 = true ∧ ∃ name ∈ names, slot.2 = some name := by
        rcases ih hmem with hrest | ⟨hp, name, hname, heq⟩
        · exact .inl (List.mem_cons_of_mem _ hrest)
        · exact .inr ⟨hp, name, hsub hname, heq⟩
      obtain ⟨type, _ | known⟩ := other
      · cases names with
        | nil =>
            rw [fill_nil] at h
            exact .inl h
        | cons name names =>
            rw [fill] at h
            split at h
            · next htype =>
                rcases List.mem_cons.1 h with rfl | h
                · exact .inr ⟨htype, name, List.mem_cons_self, rfl⟩
                · exact hlater (List.subset_cons_self name names) h
            · rcases List.mem_cons.1 h with rfl | h
              · exact .inl List.mem_cons_self
              · exact hlater (List.Subset.refl _) h
      · rw [fill_cons_some] at h
        rcases List.mem_cons.1 h with rfl | h
        · exact .inl List.mem_cons_self
        · exact hlater (List.Subset.refl _) h

section Stages

/-- The stages behind the name of the join point. -/
def stages (method : AdviceMethod) (hints : DiscoveryHints) (slots : List Slot) :
    Except DiscoveryError (List Slot) := do
  let slots ← nameThrowing method hints slots
  let slots ← nameReturning method hints slots
  nameVariables method hints slots

theorem infer_eq (method : AdviceMethod) (hints : DiscoveryHints) :
    infer method hints =
      (stages method hints (nameJoinPoint method.parameterTypes)).map (·.mapM Prod.snd) := by
  simp only [infer, stages, bind, Except.bind]
  cases nameThrowing method hints (nameJoinPoint method.parameterTypes) with
  | error e => rfl
  | ok slots =>
      dsimp only
      cases nameReturning method hints slots with
      | error e => rfl
      | ok slots =>
          dsimp only
          cases nameVariables method hints slots <;> rfl

theorem nameThrowing_cons_some : nameThrowing method hints ((type, some name) :: slots) =
    (nameThrowing method hints slots).map ((type, some name) :: ·) := by
  simp only [nameThrowing, openSlots_cons_some, fill_cons_some]
  split
  · rfl
  · split <;> rfl

theorem nameReturning_cons_some : nameReturning method hints ((type, some name) :: slots) =
    (nameReturning method hints slots).map ((type, some name) :: ·) := by
  simp only [nameReturning, openSlots_cons_some, fill_cons_some]
  split
  · rfl
  · split <;> rfl

theorem nameVariables_cons_some : nameVariables method hints ((type, some name) :: slots) =
    (nameVariables method hints slots).map ((type, some name) :: ·) := by
  simp only [nameVariables, openSlots_cons_some, fill_cons_some]
  split
  · rfl
  · split <;> rfl

/-- A slot that has its name already is passed over. -/
theorem stages_cons_some : stages method hints ((type, some name) :: slots) =
    (stages method hints slots).map ((type, some name) :: ·) := by
  simp only [stages, bind, Except.bind, nameThrowing_cons_some]
  cases nameThrowing method hints slots with
  | error e => rfl
  | ok slots =>
      simp only [Except.map, nameReturning_cons_some]
      cases nameReturning method hints slots with
      | error e => rfl
      | ok slots => exact nameVariables_cons_some

theorem nameThrowing_eq_ok (h : nameThrowing method hints slots = .ok slots') :
    slots' = fill ParameterType.isError slots hints.throwing.toList ∧
      (hints.throwing.isSome = true → (openSlots ParameterType.isError slots).length = 1) := by
  unfold nameThrowing at h
  split at h
  · next hnone =>
      cases h
      rw [hnone]
      exact ⟨(fill_nil _ _).symm, fun hsome => absurd hsome Bool.false_ne_true⟩
  · next name hname =>
      split at h
      · next hone =>
          cases h
          rw [hname, hone]
          exact ⟨rfl, fun _ => rfl⟩
      · cases h
      · cases h

theorem nameReturning_eq_ok (h : nameReturning method hints slots = .ok slots') :
    slots' = fill (fun _ => true) slots hints.returning.toList ∧
      (hints.returning.isSome = true → (openSlots (fun _ => true) slots).length = 1) := by
  unfold nameReturning at h
  split at h
  · next hnone =>
      cases h
      rw [hnone]
      exact ⟨(fill_nil _ _).symm, fun hsome => absurd hsome Bool.false_ne_true⟩
  · next name hname =>
      split at h
      · next hone =>
          cases h
          rw [hname, hone]
          exact ⟨rfl, fun _ => rfl⟩
      · cases h

theorem nodup_candidates (method : AdviceMethod) (expression : String) :
    (candidates method expression).Nodup := by
  apply List.Nodup.filter
  unfold bindingVariables
  split
  · exact List.nodup_nil
  · exact nodup_eraseDups _

theorem nameVariables_eq_ok (h : nameVariables method hints slots = .ok slots') :
    ∃ found, found.Nodup ∧ found.length ≤ (openSlots (fun _ => true) slots).length ∧
      slots' = fill (fun _ => true) slots found := by
  unfold nameVariables at h
  dsimp only at h
  split at h
  · cases h
    exact ⟨[], List.nodup_nil, Nat.zero_le _, (fill_nil _ _).symm⟩
  · split at h
    · next hlength =>
        cases h
        exact ⟨_, nodup_candidates method hints.expression, Nat.le_of_eq hlength, rfl⟩
    · cases h

theorem length_toList_le {o : Option String} {n : Nat} (h : o.isSome = true → n = 1) :
    o.toList.length ≤ n := by
  cases o with
  | none => exact Nat.zero_le n
  | some name => exact Nat.le_of_eq (h rfl).symm

/-- The parameters behind the join point get the configured names and different variables. The name
for the error goes to the one parameter for errors, and to another one only as a variable. -/
theorem stages_eq_ok {types : List ParameterType} (h : stages method hints (unnamed types) = .ok slots) :
    slots.map Prod.fst = types ∧
      ∃ found, found.Nodup ∧ (given slots).Perm (hints.throwing.toList ++ hints.returning.toList ++ found) ∧
        ∀ name, hints.throwing = some name → types.countP ParameterType.isError = 1 ∧
          ∀ slot ∈ slots, slot.2 = some name →
            slot.1.isError = true ∨ name ∈ hints.returning.toList ++ found := by
  simp only [stages, bind, Except.bind] at h
  split at h
  · cases h
  · next first hfirst =>
      split at h
      · cases h
      · next second hsecond =>
          obtain ⟨rfl, hone⟩ := nameThrowing_eq_ok hfirst
          obtain ⟨rfl, hlast⟩ := nameReturning_eq_ok hsecond
          obtain ⟨found, hfound, hcount, rfl⟩ := nameVariables_eq_ok h
          have hnone : given (unnamed types) = [] := by simp [given, unnamed, List.filterMap_map]
          have htypes : (unnamed types).map Prod.fst = types := by simp [unnamed, Function.comp_def]
          refine ⟨?_, found, hfound, ?_, fun name hname => ⟨?_, fun slot hslot hgiven => ?_⟩⟩
          · rw [types_fill, types_fill, types_fill, htypes]
          · refine (given_fill_perm hcount).trans (List.Perm.append_right found ?_)
            refine (given_fill_perm (length_toList_le hlast)).trans (List.Perm.append_right _ ?_)
            have hperm := given_fill_perm (length_toList_le hone)
            rwa [hnone, List.nil_append] at hperm
          · have hlength := hone (by rw [hname]; rfl)
            rw [openSlots_unnamed, unnamed, List.length_map] at hlength
            rw [List.countP_eq_length_filter, hlength]
          · rcases mem_fill hslot with hslot | ⟨-, other, hother, heq⟩
            · rcases mem_fill hslot with hslot | ⟨-, other, hother, heq⟩
              · rcases mem_fill hslot with hslot | ⟨herror, -⟩
                · obtain ⟨type, -, rfl⟩ := List.mem_map.1 hslot
                  cases hgiven
                · exact .inl herror
              · cases hgiven.symm.trans heq
                exact .inr (List.mem_append_left _ hother)
            · cases hgiven.symm.trans heq
              exact .inr (List.mem_append_right _ hother)

theorem stages_append_some (front : List (ParameterType × String)) :
    stages method hints (front.map (fun s => (s.1, some s.2)) ++ slots) =
      (stages method hints slots).map (front.map (fun s => (s.1, some s.2)) ++ ·) := by
  induction front with
  | nil =>
      rw [List.map_nil]
      cases h : stages method hints slots <;> simp [h, Except.map]
  | cons first rest ih =>
      rw [List.map_cons, List.cons_append, stages_cons_some, ih]
      cases stages method hints slots <;> rfl

end Stages

theorem mapM_snd_eq_some (h : slots.mapM Prod.snd = some names) : slots.map Prod.snd = names.map some := by
  induction slots generalizing names with
  | nil =>
      obtain rfl : [] = names := by simpa using h
      rfl
  | cons slot rest ih =>
      obtain ⟨name, hname, names', hrest, rfl⟩ : ∃ name, slot.2 = some name ∧
          ∃ names', rest.mapM Prod.snd = some names' ∧ name :: names' = names := by
        simpa [List.mapM_cons, Option.bind_eq_some_iff] using h
      rw [List.map_cons, List.map_cons, hname, ih hrest]

/-- The join point in front has its name from the start. -/
theorem nameJoinPoint_eq (types : List ParameterType) :
    ∃ front : List (ParameterType × String),
      front.length = (if (types.head?.bind JoinPointSlot.ofType?).isSome then 1 else 0) ∧
      nameJoinPoint types = front.map (fun s => (s.1, some s.2)) ++ unnamed (types.drop front.length) := by
  cases types with
  | nil => exact ⟨[], rfl, rfl⟩
  | cons first rest =>
      cases first with
      | joinPoint => exact ⟨[(.joinPoint, thisJoinPoint)], rfl, rfl⟩
      | proceedingJoinPoint => exact ⟨[(.proceedingJoinPoint, thisJoinPoint)], rfl, rfl⟩
      | staticPart => exact ⟨[(.staticPart, thisJoinPointStaticPart)], rfl, rfl⟩
      | error | value => exact ⟨[], rfl, rfl⟩

section Heuristic

variable {raises : Bool} (h : heuristic raises method hints = .ok (some names))

include h

theorem infer_of_heuristic (hsome : method.parameters ≠ []) : infer method hints = .ok (some names) := by
  rw [heuristic, if_neg (by simpa using hsome)] at h
  split at h
  · next found hinfer => rw [hinfer, Except.ok.inj h]
  · cases raises <;> cases h

/-- The names that are found belong to the join point in front and to the slots behind it. -/
theorem stages_of_heuristic (hsome : method.parameters ≠ []) :
    (BindingPlan.front method).offset ≤ names.length ∧
      ∃ slots, stages method hints (unnamed (method.parameterTypes.drop (BindingPlan.front method).offset)) =
        .ok slots ∧ slots.map Prod.snd = (names.drop (BindingPlan.front method).offset).map some := by
  have hinfer := infer_of_heuristic h hsome
  obtain ⟨front, hlength, hfront⟩ := nameJoinPoint_eq method.parameterTypes
  have hoffset : (BindingPlan.front method).offset = front.length := hlength.symm
  rw [hoffset]
  rw [infer_eq, hfront, stages_append_some] at hinfer
  cases hstages : stages method hints (unnamed (method.parameterTypes.drop front.length)) with
  | error e =>
      rw [hstages] at hinfer
      cases hinfer
  | ok slots =>
      rw [hstages] at hinfer
      have hnames := mapM_snd_eq_some (Except.ok.inj hinfer)
      rw [List.map_append, List.map_map] at hnames
      have hcount := congrArg List.length hnames
      simp only [List.length_append, List.length_map] at hcount
      refine ⟨by omega, slots, rfl, ?_⟩
      rw [List.map_drop, ← hnames, List.drop_left' (List.length_map _)]

theorem length_of_heuristic : names.length = method.parameters.length := by
  by_cases hnone : method.parameters = []
  · rw [heuristic, if_pos (by simpa using hnone)] at h
    cases h
    rw [hnone]
    rfl
  · obtain ⟨hoffset, slots, hstages, hnames⟩ := stages_of_heuristic h hnone
    have hbehind := congrArg List.length hnames
    have htypes := congrArg List.length (stages_eq_ok hstages).1
    have hfront := BindingPlan.offset_front_le method
    simp only [List.length_map, List.length_drop, AdviceMethod.parameterTypes] at hbehind htypes
    omega

end Heuristic

end Discoverer

namespace BindingPlan

variable {method : AdviceMethod} {spec : AdviceSpecification} {p : BindingPlan} {names : List String}
  {slots : List Discoverer.Slot} {name : String}

theorem checkConfigured_eq_ok (h : p.Configured spec) : checkConfigured method spec p = .ok p := by
  unfold checkConfigured
  split
  · next hreturning hnone =>
      have hsome := h.1 (by rw [hreturning]; rfl)
      rw [hnone] at hsome
      cases hsome
  · next hthrowing hnone _ =>
      have hsome := h.2 (by rw [hthrowing]; rfl)
      rw [hnone] at hsome
      cases hsome
  · rfl

theorem ofNames_eq_fill (hlength : names.length = method.parameters.length)
    (hassigned : Assigned spec (front method) (slotsBehind method names))
    (hconfigured : ((front method).fill spec (slotsBehind method names)).Configured spec) :
    ofNames method spec (front method) names =
      .ok ((front method).fill spec (slotsBehind method names)) := by
  have hassign : assignAll method spec (front method) (slotsBehind method names) =
      .ok ((front method).fill spec (slotsBehind method names)) :=
    (assignAll_eq_ok_iff (p := front method) List.nodup_nil).2 ⟨rfl, hassigned⟩
  rw [ofNames, if_neg (not_not.2 hlength)]
  rw [slotsBehind] at hassign ⊢
  rw [hassign]
  exact checkConfigured_eq_ok hconfigured

theorem type_slots {types : List ParameterType} {offset : Nat} (h : names.length = types.length) :
    (BindingPlan.slots types names offset).map NamedSlot.type = types.drop offset := by
  have hsnd : (fun e : (String × ParameterType) × Nat => e.1.2) = Prod.snd ∘ Prod.fst := rfl
  simp only [BindingPlan.slots, List.map_map, Function.comp_def, List.map_drop]
  rw [hsnd, ← List.map_map, List.zipIdx_map_fst, List.map_snd_zip (Nat.le_of_eq h.symm)]

/-- A slot of the discoverer is the slot of the plan, but for its index. -/
theorem map_slotsBehind (hlength : names.length = method.parameters.length)
    (htypes : slots.map Prod.fst = method.parameterTypes.drop (front method).offset)
    (hnames : slots.map Prod.snd = (names.drop (front method).offset).map some) :
    (slotsBehind method names).map (fun slot => (slot.type, some slot.name)) = slots := by
  have hsome : (slotsBehind method names).map (fun slot => some slot.name) = slots.map Prod.snd := by
    rw [hnames, ← name_slots (length_names hlength), List.map_map, slotsBehind]
    rfl
  have htype : (slotsBehind method names).map NamedSlot.type = slots.map Prod.fst := by
    rw [htypes, slotsBehind, type_slots (length_names hlength)]
  rw [← List.zip_map', htype, hsome, List.zip_map']
  exact List.map_id _

/-- What is known of slots whose names are inferred. A variable of the pointcut may have the name that
is for the error. -/
structure Inferred (spec : AdviceSpecification) (slots : List NamedSlot) (found : List String) : Prop where
  nodup : found.Nodup
  perm : (slots.map NamedSlot.name).Perm (spec.throwing.toList ++ spec.returning.toList ++ found)
  oneError : spec.throwing.isSome = true → slots.countP (·.type.isError) = 1
  isError : ∀ slot ∈ slots, spec.throwing = some slot.name →
    slot.type.isError = true ∨ slot.name ∈ spec.returning.toList ++ found

theorem inferred_of_heuristic {raises : Bool} (hsome : method.parameters ≠ [])
    (h : Discoverer.heuristic raises method ⟨spec.expression, spec.returning, spec.throwing⟩ =
      .ok (some names)) : ∃ found, Inferred spec (slotsBehind method names) found := by
  obtain ⟨-, slots, hstages, hnames⟩ := Discoverer.stages_of_heuristic h hsome
  obtain ⟨htypes, found, hnodup, hperm, hthrowing⟩ := Discoverer.stages_eq_ok hstages
  have hslots := map_slotsBehind (Discoverer.length_of_heuristic h) htypes hnames
  refine ⟨found, hnodup, ?_, ?_, ?_⟩
  · rw [← hslots, Discoverer.given, List.filterMap_map] at hperm
    simpa [Function.comp_def] using hperm
  · intro hsome
    obtain ⟨name, hname⟩ := Option.isSome_iff_exists.1 hsome
    rw [← (hthrowing name hname).1, ← htypes, ← hslots, List.map_map, List.countP_map]
    rfl
  · intro slot hslot hname
    apply (hthrowing slot.name hname).2 (slot.type, some slot.name) ?_ rfl
    rw [← hslots]
    exact List.mem_map_of_mem hslot

theorem slotsIn_ne_nil {r : SlotRole} {slots : List NamedSlot} (hmem : name ∈ slots.map NamedSlot.name)
    (hrole : spec.role name = r) : spec.slotsIn r slots ≠ [] := by
  obtain ⟨slot, hslot, rfl⟩ := List.mem_map.1 hmem
  exact List.ne_nil_of_mem (spec.mem_slotsIn.2 ⟨hslot, hrole⟩)

section Inferred

variable {slots : List NamedSlot} {found : List String} (h : Inferred spec slots found)

include h

theorem Inferred.nodup_captured : ((spec.slotsIn .captured slots).map NamedSlot.name).Nodup := by
  have hfilter : (spec.slotsIn .captured slots).map NamedSlot.name =
      (slots.map NamedSlot.name).filter fun name => spec.role name = .captured := by
    rw [List.filter_map]
    rfl
  rw [hfilter, (h.perm.filter _).nodup_iff, List.filter_append, List.filter_append]
  have hthrowing : (spec.throwing.toList.filter fun name => spec.role name = .captured) = [] := by
    rw [List.filter_eq_nil_iff]
    intro name hname
    simp only [Option.mem_toList] at hname
    simp only [AdviceSpecification.role, hname]
    split <;> simp
  have hreturning : (spec.returning.toList.filter fun name => spec.role name = .captured) = [] := by
    rw [List.filter_eq_nil_iff]
    intro name hname
    simp only [Option.mem_toList] at hname
    simp [AdviceSpecification.role, hname]
  rw [hthrowing, hreturning]
  exact h.nodup.filter _

theorem Inferred.configured (hone : spec.throwing.isSome = true → spec.returning = none) :
    ((front method).fill spec slots).Configured spec := by
  rw [fill_front]
  constructor
  · intro hsome
    obtain ⟨name, hname⟩ := Option.isSome_iff_exists.1 hsome
    have hmem : name ∈ slots.map NamedSlot.name := h.perm.symm.subset (by simp [hname])
    rw [List.getLast?_isSome]
    exact slotsIn_ne_nil hmem (by simp [AdviceSpecification.role, hname])
  · intro hsome
    obtain ⟨name, hname⟩ := Option.isSome_iff_exists.1 hsome
    have hmem : name ∈ slots.map NamedSlot.name := h.perm.symm.subset (by simp [hname])
    rw [List.getLast?_isSome]
    exact slotsIn_ne_nil hmem (by simp [AdviceSpecification.role, hname, hone hsome])

/-- There is one parameter for errors, so the name for the error must stand there only. -/
theorem Inferred.assigned_iff (hone : spec.throwing.isSome = true → spec.returning = none) :
    Assigned spec (front method) slots ↔
      ∀ name, spec.throwing = some name → (slots.map NamedSlot.name).count name ≤ 1 := by
  constructor
  · intro hassigned name hname
    have hsome : spec.throwing.isSome = true := by rw [hname]; rfl
    rw [← h.oneError hsome, List.count, List.countP_map]
    apply List.countP_mono_left
    intro slot hslot heq
    obtain rfl : slot.name = name := by simpa using heq
    apply hassigned.isError slot
    exact spec.mem_slotsIn.2 ⟨hslot, by simp [AdviceSpecification.role, hname, hone hsome]⟩
  · intro hcount
    refine ⟨fun slot hslot => ?_, h.nodup_captured⟩
    obtain ⟨hmem, hrole⟩ := spec.mem_slotsIn.1 hslot
    have hname := AdviceSpecification.throwing_of_role hrole
    rcases h.isError slot hmem hname with herror | hagain
    · exact herror
    · have hmore := hcount slot.name hname
      rw [h.perm.count_eq, hname, List.append_assoc, List.count_append] at hmore
      have hpos := List.count_pos_iff.2 hagain
      simp only [Option.toList_some, List.count_singleton_self] at hmore
      omega

end Inferred

end BindingPlan

/-- A name for the error excludes one for the result, and it excludes going on. -/
theorem AdviceSpecification.throwing_of_ofMethod {method : AdviceMethod} {spec : AdviceSpecification}
    (h : ofMethod method = .ok spec) (hthrowing : spec.throwing.isSome = true) :
    spec.returning = none ∧ spec.kind.canProceed = false := by
  unfold ofMethod at h
  split at h
  · cases h
  · split at h
    · cases h
    · cases h
      dsimp only at hthrowing ⊢
      split at hthrowing
      · next hkind => rw [hkind]; exact ⟨rfl, rfl⟩
      · cases hthrowing
  · cases h

namespace Planning

open BindingPlan

variable {method : AdviceMethod} {spec : AdviceSpecification} {discoverer : Discoverer}
  {pointcut : ExpressionPointcut} {names : List String}

theorem compute_of_found (hargNames : spec.argNames = none)
    (hfound : discoverer method ⟨spec.expression, spec.returning, spec.throwing⟩ = .ok (some names))
    (hproceed : ¬ ((front method).joinPoint = some .proceeding && !spec.kind.canProceed) = true)
    (hbehind : (front method).offset ≠ method.parameters.length) :
    (compute method spec discoverer pointcut).result =
      (ofNames method spec (front method) names).mapError (fun e => .binding e.message) := by
  have hresolve : resolveNames method spec discoverer = (.ok names, true) := by
    simp only [resolveNames, AdviceSpecification.argumentNames, hargNames, hfound]
  rw [compute_eq, if_neg hproceed, if_neg hbehind, hresolve]
  dsimp only
  split
  · next hplan => rw [hplan]; rfl
  · next hplan => rw [hplan]; rfl

theorem refused_iff {raises : Bool} {found : List String} (hargNames : spec.argNames = none)
    (hfound : Discoverer.heuristic raises method ⟨spec.expression, spec.returning, spec.throwing⟩ =
      .ok (some names))
    (hproceed : ¬ ((front method).joinPoint = some .proceeding && !spec.kind.canProceed) = true)
    (hbehind : (front method).offset ≠ method.parameters.length)
    (hinferred : Inferred spec (slotsBehind method names) found)
    (hone : spec.throwing.isSome = true → spec.returning = none) :
    (∃ message, (compute method spec (.heuristic raises) pointcut).result = .error (.binding message)) ↔
      ¬ Assigned spec (front method) (slotsBehind method names) := by
  rw [compute_of_found hargNames hfound hproceed hbehind]
  constructor
  · rintro ⟨message, herror⟩ hassigned
    rw [ofNames_eq_fill (Discoverer.length_of_heuristic hfound) hassigned (hinferred.configured hone)] at herror
    cases herror
  · intro hnot
    cases hplan : ofNames method spec (front method) names with
    | error e => exact ⟨e.message, rfl⟩
    | ok plan =>
        obtain ⟨-, -, hassigned⟩ := ofNames_eq_ok hplan
        exact absurd hassigned hnot

theorem joinPoint_front_eq_proceeding : (front method).joinPoint = some .proceeding ↔
    method.parameterTypes.head? = some .proceedingJoinPoint := by
  constructor
  · intro h
    obtain ⟨type, hhead, htype⟩ := Option.bind_eq_some_iff.1 h
    rw [hhead, JoinPointSlot.eq_type htype]
    rfl
  · intro h
    rw [front, h]
    rfl

/-- Names that are inferred make a plan, unless a variable of the pointcut has the name for the error. -/
theorem inferred_names_refused_iff (method : AdviceMethod) (spec : AdviceSpecification) (raises : Bool)
    (pointcut : ExpressionPointcut) (names : List String) (hspec : AdviceSpecification.ofMethod method = .ok spec)
    (hargNames : spec.argNames = none)
    (hfound : Discoverer.heuristic raises method ⟨spec.expression, spec.returning, spec.throwing⟩ =
      .ok (some names)) :
    names.length = method.parameters.length ∧
      ((∃ message, (compute method spec (.heuristic raises) pointcut).result = .error (.binding message)) ↔
        method.parameterTypes.head? ≠ some .proceedingJoinPoint ∧
          ∃ name, spec.throwing = some name ∧ 1 < (names.drop (front method).offset).count name) := by
  have hlength := Discoverer.length_of_heuristic hfound
  refine ⟨hlength, ?_⟩
  rw [ne_eq, ← joinPoint_front_eq_proceeding]
  by_cases hmisuse : ((front method).joinPoint = some .proceeding && !spec.kind.canProceed) = true
  · rw [compute_eq, if_pos hmisuse]
    have hfront : (front method).joinPoint = some .proceeding := by
      simp only [Bool.and_eq_true, decide_eq_true_eq] at hmisuse
      exact hmisuse.1
    simp [hfront]
  · by_cases hlast : (front method).offset = method.parameters.length
    · rw [compute_eq, if_neg hmisuse, if_pos hlast, hlast, ← hlength, List.drop_length]
      simp
    · have hsome : method.parameters ≠ [] := by
        rintro hnone
        have hfront := offset_front_le method
        rw [hnone] at hlast hfront
        exact hlast (Nat.le_zero.1 hfront)
      obtain ⟨found, hinferred⟩ := inferred_of_heuristic hsome hfound
      have hone (hthrowing : spec.throwing.isSome = true) :=
        (AdviceSpecification.throwing_of_ofMethod hspec hthrowing).1
      rw [refused_iff hargNames hfound hmisuse hlast hinferred hone, hinferred.assigned_iff hone,
        slotsBehind, name_slots (length_names hlength)]
      push Not
      constructor
      · rintro ⟨name, hname, hcount⟩
        refine ⟨fun hfront => hmisuse ?_, name, hname, hcount⟩
        have hkind := (AdviceSpecification.throwing_of_ofMethod hspec (by rw [hname]; rfl)).2
        simp [hfront, hkind]
      · rintro ⟨-, hmore⟩
        exact hmore

/-- Advice for an error. Its pointcut has a variable of the name that is for the error. -/
def validation : AdviceMethod :=
  ⟨"check", .ofName "Validation", [⟨none, .value (.ofRuntime .text)⟩, ⟨none, .error .any⟩],
    [⟨"AfterThrowing", [("pointcut", "args(ex)"), ("throwing", "ex")]⟩], .idle⟩

def validationSpec : AdviceSpecification := ⟨.afterThrowing, "args(ex)", none, none, some "ex"⟩

def validated : ExpressionPointcut := ⟨"args(ex)", .args "ex" [.named ⟨"ex"⟩], .empty⟩

theorem ofMethod_validation : AdviceSpecification.ofMethod validation = .ok validationSpec := by decide

theorem heuristic_validation (raises : Bool) :
    Discoverer.heuristic raises validation ⟨"args(ex)", none, some "ex"⟩ = .ok (some ["ex", "ex"]) := by
  have hinfer : Discoverer.infer validation ⟨"args(ex)", none, some "ex"⟩ = .ok (some ["ex", "ex"]) := by decide
  rw [Discoverer.heuristic, if_neg (by decide), hinfer]

/-- The one name is found for both parameters, and then the text cannot take the error. -/
theorem inferred_name_for_error_and_variable :
    AdviceSpecification.ofMethod validation = .ok validationSpec ∧
      Discoverer.heuristic false validation ⟨"args(ex)", none, some "ex"⟩ = .ok (some ["ex", "ex"]) ∧
      ∃ message, (compute validation validationSpec (.heuristic false) validated).result =
        .error (.binding message) := by
  have hfound := heuristic_validation false
  refine ⟨ofMethod_validation, hfound, ?_⟩
  rw [(inferred_names_refused_iff validation validationSpec false validated _ ofMethod_validation rfl hfound).2]
  exact ⟨nofun, "ex", rfl, by decide⟩

/-- The names that are found need not make a plan. -/
theorem inferred_names_not_usable :
    ¬ ∀ (method : AdviceMethod) (spec : AdviceSpecification) (raises : Bool) (pointcut : ExpressionPointcut)
      (names : List String), AdviceSpecification.ofMethod method = .ok spec → spec.argNames = none →
      Discoverer.heuristic raises method ⟨spec.expression, spec.returning, spec.throwing⟩ = .ok (some names) →
      names.length = method.parameters.length ∧
        ∀ message, (compute method spec (.heuristic raises) pointcut).result ≠ .error (.binding message) := by
  intro husable
  have hfound := heuristic_validation true
  obtain ⟨-, hplan⟩ := husable validation validationSpec true validated _ ofMethod_validation rfl hfound
  exact hplan _ ((compute_of_found rfl hfound (by decide) (by decide)).trans rfl)

end Planning

end Weaving
