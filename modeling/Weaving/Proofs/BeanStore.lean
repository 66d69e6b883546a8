import Mathlib.Data.Finset.Card
import Weaving.Proofs.BeanHistory
import Weaving.Proofs.CallHistory
import Weaving.Proofs.NameLists

namespace Weaving

namespace Operation

def IsRequest : Operation → Prop
  | .bean _ => True
  | _ => False

/-- An operation on the beans of a container. Suppliers may fail, and may ask for other beans. -/
def OnBeans : Operation → Prop
  | .define _ supplier => ∀ serial, (supplier serial).Keeps IsRequest
  | .register _ _ | .bean _ | .destroy => True
  | _ => False

theorem IsRequest.exists_eq {operation : Operation} (h : operation.IsRequest) :
    ∃ name, operation = .bean name := by
  cases operation with
  | bean name => exact ⟨name, rfl⟩
  | _ => cases h

def defined? : Operation → Option String
  | .define b _ => some b.name
  | _ => none

end Operation

/-- Beans may be required of a supplier. -/
theorem Program.keeps_require {rest : Program} (names : List String)
    (h : rest.Keeps Operation.IsRequest) : (Program.require names rest).Keeps Operation.IsRequest := by
  induction names with
  | nil => exact h
  | cons name names ih =>
      refine ⟨trivial, fun outcome => ?_⟩
      cases outcome with
      | container | tooDeep => trivial
      | _ => exact ih

namespace Container

variable {c : Container} {name : String}

theorem names_pairwise_lt (c : Container) : c.names.Pairwise (· < ·) := pairwise_lt_sorted_eraseDups _

theorem exists_isSingleton_iff : (∃ b, c.isSingleton name = .ok b) ↔ c.contains name = true := by
  rw [contains_iff, isSingleton]
  cases c.definition? name with
  | some definition => simp
  | none => cases c.cached? name <;> simp

end Container

namespace Call

/-- A request whose supplier ends with a value. -/
def Supplies (c : Call) (name : String) : Prop :=
  c.operation = .bean name ∧ ∃ program w v w', c.program? = some (program, w) ∧
    program.run (World.execute (c.depth - 1)) w = (.ok v, w')

end Call

namespace World

open Container Operation

variable {w u w' : World} {name other : String} {i : Instance} {program : Program} {depth : Nat}

/-- Suppliers ask for beans only, definitions have the given names, and fewer of these than the depth
allows are not in creation. -/
structure IsStore (names : Finset String) (depth : Nat) (w : World) : Prop where
  requests : ∀ definition ∈ w.container.definitions, ∀ serial, (definition.2 serial).Keeps IsRequest
  mem_names : ∀ definition ∈ w.container.definitions, definition.1.name ∈ names
  spare_lt : (names \ w.container.inCreation.toFinset).card < depth

/-- Beans are added, but none that is in creation. -/
structure Adds (w w' : World) : Prop where
  depth_eq : w'.depth = w.depth
  definitions_eq : w'.container.definitions = w.container.definitions
  inCreation_eq : w'.container.inCreation = w.container.inCreation
  cached : ∀ name i, w.container.cached? name = some i → w'.container.cached? name = some i
  uncached : ∀ name ∈ w.container.inCreation,
    w.container.cached? name = none → w'.container.cached? name = none

theorem Adds.refl (w : World) : Adds w w := ⟨rfl, rfl, rfl, fun _ _ h => h, fun _ _ h => h⟩

theorem Adds.trans (h : Adds u w) (h' : Adds w w') : Adds u w' where
  depth_eq := h'.depth_eq.trans h.depth_eq
  definitions_eq := h'.definitions_eq.trans h.definitions_eq
  inCreation_eq := h'.inCreation_eq.trans h.inCreation_eq
  cached name i hi := h'.cached name i (h.cached name i hi)
  uncached name hname hnone := h'.uncached name (h.inCreation_eq ▸ hname) (h.uncached name hname hnone)

theorem IsStore.adds {names : Finset String} (h : IsStore names depth w) (hadds : Adds w w') :
    IsStore names depth w' := by
  refine ⟨?_, ?_, ?_⟩
  · rw [hadds.definitions_eq]; exact h.requests
  · rw [hadds.definitions_eq]; exact h.mem_names
  · rw [hadds.inCreation_eq]; exact h.spare_lt

/-- Since the start of a history no instance has been lost: each call for a name that had one found
it there. -/
structure Holds (origin : World) (l : List Call) (w : World) : Prop where
  later : ∀ u ∈ origin :: l.map (·.after), ∀ name i,
    u.container.cached? name = some i → w.container.cached? name = some i
  found : ∀ l' c, l' ++ [c] <+: l → ∀ u ∈ origin :: l'.map (·.after), ∀ name i,
    u.container.cached? name = some i → c.operation = .bean name →
      0 < c.depth ∧ c.before.container.cached? name = some i

variable {origin : World} {l : List Call} {c : Call}

theorem Holds.start (w : World) : Holds w [] w where
  later u hu name i hi := by
    rw [List.map_nil, List.mem_singleton] at hu
    exact hu ▸ hi
  found l' c hbegins := by simp at hbegins

theorem Holds.keeps (h : Holds origin l w)
    (hw : ∀ name i, w.container.cached? name = some i → w'.container.cached? name = some i) :
    Holds origin l w' where
  later u hu name i hi := hw name i (h.later u hu name i hi)
  found := h.found

theorem Holds.concat (h : Holds origin l c.after)
    (hc : ∀ name i, c.operation = .bean name → c.after.container.cached? name = some i →
      (∃ u ∈ origin :: l.map (·.after), u.container.cached? name = some i) →
      0 < c.depth ∧ c.before.container.cached? name = some i) :
    Holds origin (l ++ [c]) c.after where
  later u hu name i hi := by
    rw [List.map_append, ← List.cons_append, List.mem_append] at hu
    rcases hu with hu | hu
    · exact h.later u hu name i hi
    · rw [List.map_singleton, List.mem_singleton] at hu
      exact hu ▸ hi
  found := forall_prefix_concat
    (fun u hu name i hi hc' => hc name i hc' (h.later u hu name i hi) ⟨u, hu, hi⟩) h.found

/-- A store in which no instance has been lost since the start of a history. -/
def Lasts (names : Finset String) (origin : World) (depth : Nat) (l : List Call) (w : World) : Prop :=
  IsStore names depth w ∧ Holds origin l w

section Request

theorem execute_bean_after (depth : Nat) (name : String) (w : World) :
    (execute (depth + 1) (.bean name) w).2 = (getBean (Program.run (execute depth)) name w).2 := by
  rw [execute, perform]
  split <;> next heq => rw [heq]

theorem execute_bean_of_cached (hcached : w.container.cached? name = some i) :
    execute (depth + 1) (.bean name) w = (.instance i, w) := by
  rw [execute, perform, getBean_of_cached hcached]

variable {result : Except String Value}

theorem Adds.uncached_name (hadds : Adds (w.entering name) u') (hcached : w.container.cached? name = none) :
    u'.container.cached? name = none :=
  hadds.uncached name List.mem_cons_self hcached

theorem Adds.leaving (hadds : Adds (w.entering name) u') : Adds w (u'.leaving name) where
  depth_eq := hadds.depth_eq
  definitions_eq := hadds.definitions_eq
  inCreation_eq := by
    rw [World.leaving, Container.leave, hadds.inCreation_eq]
    exact List.erase_cons_head name w.container.inCreation
  cached := hadds.cached
  uncached other hother := hadds.uncached other (List.mem_cons_of_mem _ hother)

theorem Adds.finishing (hadds : Adds (w.entering name) u') (hcached : w.container.cached? name = none)
    (hnew : name ∉ w.container.inCreation) (scope : Scope) (v : Value) :
    Adds w (u'.finishing scope name v).2 where
  depth_eq := hadds.depth_eq
  definitions_eq := by
    rw [← show u'.container.definitions = w.container.definitions from hadds.definitions_eq]
    cases scope <;> rfl
  inCreation_eq := by
    rw [inCreation_finishing]
    exact hadds.leaving.inCreation_eq
  cached other i hi := by
    rw [cached?_finishing, if_neg fun hname => by simp [hname.1, hcached] at hi]
    exact hadds.cached other i hi
  uncached other hother hnone := by
    rw [cached?_finishing, if_neg (by rintro ⟨rfl, -⟩; exact hnew hother)]
    exact hadds.uncached other (List.mem_cons_of_mem _ hother) hnone

/-- What the supplier of a bean stored stays, and is in the store beside the bean. -/
theorem adds_execute_bean (h : w.supplier? name = some (program, u))
    (hrun : program.run (execute depth) u = (result, u')) (hadds : Adds u u') :
    Adds w (execute (depth + 1) (.bean name) w).2 ∧
      ∀ other i, u'.container.cached? other = some i →
        (execute (depth + 1) (.bean name) w).2.container.cached? other = some i := by
  obtain ⟨hcached, hnew, rfl, bean, supplier, hdefinition, rfl⟩ := supplier?_eq_some h
  rw [execute_bean_after]
  cases result with
  | error cause =>
      rw [getBean_of_error hcached hdefinition hnew hrun]
      exact ⟨hadds.leaving, fun other i hi => hi⟩
  | ok v =>
      rw [getBean_of_ok hcached hdefinition hnew hrun]
      refine ⟨hadds.finishing hcached hnew bean.scope v, fun other i hi => ?_⟩
      rw [cached?_finishing, if_neg fun hname => by simp [hname.1, hadds.uncached_name hcached] at hi]
      exact hi

/-- A bean under a shared definition is kept when its supplier has ended with a value. -/
theorem cached?_execute_bean_of_ok {v : Value} (h : w.supplier? name = some (program, u))
    (hrun : program.run (execute depth) u = (.ok v, u')) (hshared : w.container.Shares name) :
    ((execute (depth + 1) (.bean name) w).2.container.cached? name).isSome = true := by
  obtain ⟨hcached, hnew, rfl, bean, supplier, hdefinition, rfl⟩ := supplier?_eq_some h
  obtain ⟨bean', supplier', hdefinition', hscope⟩ := hshared
  cases hdefinition.symm.trans hdefinition'
  rw [execute_bean_after, getBean_of_ok hcached hdefinition hnew hrun, cached?_finishing,
    if_pos ⟨rfl, hscope⟩]
  rfl

end Request

theorem IsStore.entering {names : Finset String} (h : IsStore names (depth + 1) w)
    (hname : name ∈ names) (hnew : name ∉ w.container.inCreation) : IsStore names depth (w.entering name) where
  requests := h.requests
  mem_names := h.mem_names
  spare_lt := by
    have hless : (names \ (w.entering name).container.inCreation.toFinset).card <
        (names \ w.container.inCreation.toFinset).card := by
      refine Finset.card_lt_card ((Finset.ssubset_iff_of_subset ?_).2 ⟨name, ?_, ?_⟩)
      · exact Finset.sdiff_subset_sdiff (Finset.Subset.refl _) (by simp [World.entering, enter])
      · simpa [hname] using hnew
      · simp [World.entering, enter]
    have hspare := h.spare_lt
    omega

theorem IsStore.of_supplier?_eq_some {names : Finset String} (h : IsStore names (depth + 1) w)
    (hprogram : w.supplier? name = some (program, u)) :
    program.Keeps IsRequest ∧ IsStore names depth u := by
  obtain ⟨-, hnew, rfl, bean, supplier, hdefinition, rfl⟩ := supplier?_eq_some hprogram
  have hmem := List.mem_of_find?_eq_some hdefinition
  have hbean : bean.name = name := by simpa using List.find?_some hdefinition
  exact ⟨h.requests _ hmem _, h.entering (hbean ▸ h.mem_names _ hmem) hnew⟩

theorem carried_lasts (names : Finset String) (origin : World) :
    Carried IsRequest (Lasts names origin) Adds where
  refl := Adds.refl
  trans := Adds.trans
  noted reports trace h :=
    have hadds := ⟨rfl, rfl, rfl, fun _ _ h => h, fun _ _ h => h⟩
    ⟨⟨h.1.adds hadds, h.2.keeps fun _ _ hi => hi⟩, hadds⟩
  quiet := by
    rintro ⟨depth, operation, w⟩ l hrequest ⟨hstore, hholds⟩ hprogram
    obtain ⟨name, rfl⟩ := hrequest.exists_eq
    cases depth with
    | zero => exact absurd hstore.spare_lt (Nat.not_lt_zero _)
    | succ depth =>
        have hafter : Call.after ⟨depth + 1, .bean name, w⟩ = w :=
          (execute_bean_after depth name w).trans (getBean_of_supplier?_none hprogram)
        rw [hafter]
        refine ⟨⟨hstore, ?_⟩, .refl w⟩
        have hconcat := Holds.concat (c := ⟨depth + 1, .bean name, w⟩) (hafter.symm ▸ hholds)
        rw [hafter] at hconcat
        refine hconcat fun other i hother hi _ => ⟨Nat.succ_pos _, ?_⟩
        cases hother
        exact hi
  starts hrequest h hprogram := by
    obtain ⟨name, rfl⟩ := hrequest.exists_eq
    obtain ⟨hkeeps, hstore⟩ := h.1.of_supplier?_eq_some hprogram
    obtain ⟨-, -, rfl, -⟩ := supplier?_eq_some hprogram
    exact ⟨hkeeps, hstore, h.2.keeps fun _ _ hi => hi⟩
  ends := by
    intro depth operation w u u' program l l' result hrequest h hprogram hrun h' hadds
    obtain ⟨name, rfl⟩ := hrequest.exists_eq
    obtain ⟨hadds', hlater⟩ := adds_execute_bean hprogram hrun hadds
    refine ⟨⟨h.1.adds hadds', ?_⟩, hadds'⟩
    refine Holds.concat (c := ⟨depth + 1, .bean name, w⟩) (h'.2.keeps hlater) ?_
    -- `name` had no instance when its supplier began, nor could it get one before the supplier ended
    rintro other i hother - ⟨v, hv, hi⟩
    cases hother
    obtain ⟨hcached, -, rfl, -⟩ := supplier?_eq_some hprogram
    cases (h'.2.later v hv name i hi).symm.trans (hadds.uncached_name hcached)

section Operations

variable {operation : Operation} {names : Finset String} {limit : Nat}

theorem isStore_execute (hbeans : operation.OnBeans)
    (hdefined : ∀ name, operation.defined? = some name → name ∈ names) (h : IsStore names depth w) :
    IsStore names depth (execute depth operation w).2 ∧ (execute depth operation w).2.depth = w.depth := by
  cases depth with
  | zero => exact ⟨h, rfl⟩
  | succ depth =>
      cases operation with
      | bean name =>
          obtain ⟨⟨hstore, -⟩, hadds⟩ := (carried_lasts names w).calls _ (.bean name) [] w trivial ⟨h, .start w⟩
          exact ⟨hstore, hadds.depth_eq⟩
      | define bean supplier =>
          simp only [execute, perform]
          split
          · exact ⟨h, rfl⟩
          · next hdefine =>
              refine ⟨⟨?_, ?_, ?_⟩, rfl⟩ <;> rw [define_eq_ok hdefine]
              · intro definition hdefinition
                rcases List.mem_append.1 hdefinition with hold | hnew
                · exact h.requests definition hold
                · obtain rfl := List.mem_singleton.1 hnew
                  exact hbeans
              · intro definition hdefinition
                rcases List.mem_append.1 hdefinition with hold | hnew
                · exact h.mem_names definition hold
                · obtain rfl := List.mem_singleton.1 hnew
                  exact hdefined bean.name rfl
              · exact h.spare_lt
      | register name v =>
          simp only [execute, perform]
          split
          · exact ⟨⟨h.requests, h.mem_names, h.spare_lt⟩, rfl⟩
          · next hregister =>
              rw [(register_eq_ok hregister).2]
              exact ⟨⟨h.requests, h.mem_names, h.spare_lt⟩, rfl⟩
      | destroy => exact ⟨⟨h.requests, h.mem_names, h.spare_lt⟩, rfl⟩
      | _ => cases hbeans

theorem cached?_execute (hbeans : operation.OnBeans) (hrequest : ¬ operation.IsRequest)
    (hdestroy : operation ≠ .destroy) (hcached : w.container.cached? name = some i) :
    (execute depth operation w).2.container.cached? name = some i := by
  cases depth with
  | zero => exact hcached
  | succ depth =>
      cases operation with
      | define bean supplier =>
          simp only [execute, perform]
          split
          · exact hcached
          · next hdefine =>
              rw [define_eq_ok hdefine]
              exact hcached
      | register other v =>
          simp only [execute, perform]
          split
          · exact hcached
          · next hregister =>
              obtain ⟨hnone, rfl⟩ := register_eq_ok hregister
              have hother : name ≠ other := by
                rintro rfl
                cases hnone.symm.trans hcached
              rw [cached?_store, if_neg hother]
              exact hcached
      | bean name => exact absurd trivial hrequest
      | destroy => exact absurd rfl hdestroy
      | _ => cases hbeans

theorem calls_of_started?_none (depth : Nat) (h : w.started? operation = none) :
    calls depth operation w = [⟨depth, operation, w⟩] := by
  cases depth with
  | zero => rfl
  | succ depth => simp only [calls, h, List.nil_append]

theorem lasts_calls {l : List Call} (hbeans : operation.OnBeans) (hdestroy : operation ≠ .destroy)
    (hdefined : ∀ name, operation.defined? = some name → name ∈ names) (h : Lasts names origin depth l w) :
    Lasts names origin depth (l ++ calls depth operation w) (execute depth operation w).2 := by
  by_cases hrequest : operation.IsRequest
  · exact ((carried_lasts names origin).calls depth operation l w hrequest h).1
  · have hnone : w.started? operation = none := by
      cases operation with
      | bean name => exact absurd trivial hrequest
      | define | register | destroy => rfl
      | _ => cases hbeans
    rw [calls_of_started?_none depth hnone]
    refine ⟨(isStore_execute hbeans hdefined h.1).1, ?_⟩
    refine Holds.concat (c := ⟨depth, operation, w⟩) (h.2.keeps fun name i hi => ?_) ?_
    · exact cached?_execute hbeans hrequest hdestroy hi
    · rintro name i rfl
      exact absurd trivial hrequest

theorem isStore_after {operations : List Operation} (hbeans : ∀ o ∈ operations, o.OnBeans)
    (hdefined : ∀ o ∈ operations, ∀ name, o.defined? = some name → name ∈ names)
    (h : IsStore names limit w) (hdepth : w.depth = limit) :
    IsStore names limit (operations.foldl after w) ∧ (operations.foldl after w).depth = limit := by
  refine history_induction (fun _ w => IsStore names limit w ∧ w.depth = limit) operations (l := [])
    (fun o ho _ w hw => ?_) ⟨h, hdepth⟩
  obtain ⟨hstore, rfl⟩ := hw
  exact isStore_execute (hbeans o ho) (hdefined o ho) ⟨hstore.requests, hstore.mem_names, hstore.spare_lt⟩

theorem lasts_history {operations : List Operation} (hbeans : ∀ o ∈ operations, o.OnBeans)
    (hdefined : ∀ o ∈ operations, ∀ name, o.defined? = some name → name ∈ names)
    (hdestroy : .destroy ∉ operations) (h : IsStore names limit w) (hdepth : w.depth = limit) :
    Lasts names w limit (history operations w) (operations.foldl after w) := by
  refine (history_induction (fun l u => Lasts names w limit l u ∧ u.depth = limit) operations (l := [])
    (fun o ho l u hu => ?_) ⟨⟨h, .start w⟩, hdepth⟩).1
  obtain ⟨⟨hstore, hholds⟩, rfl⟩ := hu
  have hcleared : IsStore names u.depth { u with reports := [] } :=
    ⟨hstore.requests, hstore.mem_names, hstore.spare_lt⟩
  refine ⟨lasts_calls (hbeans o ho) (fun e => hdestroy (e ▸ ho)) (hdefined o ho)
    ⟨hcleared, hholds.keeps fun _ _ hi => hi⟩, ?_⟩
  exact (isStore_execute (hbeans o ho) (hdefined o ho) hcleared).2

end Operations

theorem not_supplies_of_cached (h : c.before.container.cached? name = some i) : ¬ c.Supplies name := by
  obtain ⟨depth, operation, w⟩ := c
  rintro ⟨hrequest, program, u, v, u', hprogram, -⟩
  cases hrequest
  cases depth with
  | zero => cases hprogram
  | succ depth =>
      obtain ⟨hcached, -⟩ := supplier?_eq_some hprogram
      cases hcached.symm.trans h

theorem outcome_of_cached (hrequest : c.operation = .bean name) (hdepth : 0 < c.depth)
    (h : c.before.container.cached? name = some i) : c.outcome = .instance i := by
  obtain ⟨depth, operation, w⟩ := c
  cases hrequest
  obtain ⟨depth, rfl⟩ := Nat.exists_eq_add_one.2 hdepth
  exact congrArg Prod.fst (execute_bean_of_cached h)

theorem cached?_after_of_supplies (h : c.Supplies name) (hshared : c.before.container.Shares name) :
    ∃ i, c.after.container.cached? name = some i := by
  obtain ⟨depth, operation, w⟩ := c
  obtain ⟨hrequest, program, u, v, u', hprogram, hrun⟩ := h
  cases hrequest
  cases depth with
  | zero => cases hprogram
  | succ depth => exact Option.isSome_iff_exists.1 (cached?_execute_bean_of_ok hprogram hrun hshared)

/-- A supplier of a shared definition ends with a value only if none has before. -/
theorem Holds.supplies_once (h : Holds origin l w) {l' : List Call} {c c' : Call} (hbegins : l' ++ [c] <+: l)
    (hc' : c' ∈ l') (hshared : c'.before.container.Shares name) (hsupplies : c'.Supplies name) :
    ¬ c.Supplies name := by
  intro hc
  obtain ⟨i, hi⟩ := cached?_after_of_supplies hsupplies hshared
  have hafter : c'.after ∈ origin :: l'.map (·.after) :=
    List.mem_cons_of_mem _ (List.mem_map_of_mem hc')
  exact not_supplies_of_cached (h.found l' c hbegins _ hafter name i hi hc.1).2 hc

theorem isStore_empty {names : Finset String} {limit : Nat} (h : names.card < limit) :
    IsStore names limit (empty limit) where
  requests := by simp [empty, Container.empty]
  mem_names := by simp [empty, Container.empty]
  spare_lt := by simpa [empty, Container.empty] using h

section Rejected

variable {e : ContainerError}

theorem eq_of_define_rejected {bean : BeanInfo} {supplier : Nat → Program}
    (h : execute depth (.define bean supplier) w = (.container e, w')) : w' = w := by
  cases depth with
  | zero => cases h
  | succ depth =>
      simp only [execute, perform] at h
      split at h <;> cases h
      rfl

theorem eq_of_register_rejected {v : Value}
    (h : execute depth (.register name v) w = (.container e, w')) : w' = (w.allocate v).2 := by
  cases depth with
  | zero => cases h
  | succ depth =>
      simp only [execute, perform] at h
      split at h <;> cases h
      rfl

theorem execute_bean_of_not_mem_names (h : name ∉ w.container.names) :
    execute (depth + 1) (.bean name) w = (.container (.beanNotFound name), w) := by
  rw [mem_names_iff, contains_iff, not_or, Option.not_isSome_iff_eq_none,
    Option.not_isSome_iff_eq_none] at h
  rw [execute, perform, getBean_of_undefined h.2 h.1]

end Rejected

/-- What a container keeps, whatever is defined, registered, requested and destroyed, if suppliers
may fail and may ask for other beans. The limit is no hindrance to them. What it says of its names, and
that a rejection leaves it as it is, holds also where a supplier is at work. -/
theorem beans_kept_until_destroyed {limit : Nat} {before more : List Operation}
    (hbeans : ∀ operation ∈ before ++ more, operation.OnBeans) (hlimit : (before ++ more).length < limit) :
    let w := before.foldl after (empty limit)
    (∀ name definition, w.container.definition? name = some definition →
      (more.foldl after w).container.definition? name = some definition) ∧
    (.destroy ∉ more → ∀ l c, l ++ [c] <+: history more w → ∀ name,
      (∀ u ∈ w :: l.map (·.after), ∀ i, u.container.cached? name = some i →
        c.operation = .bean name → c.outcome = .instance i) ∧
      ∀ c' ∈ l, c'.before.container.Shares name → c'.Supplies name → ¬ c.Supplies name) ∧
    ∀ u : World,
      (∀ depth e u', (∀ bean supplier, execute depth (.define bean supplier) u = (.container e, u') → u' = u) ∧
        ∀ name v, execute depth (.register name v) u = (.container e, u') → u' = (u.allocate v).2) ∧
      u.container.names.Pairwise (· < ·) ∧
      ∀ name, (name ∈ u.container.names ↔ u.container.contains name = true) ∧
        (name ∈ u.container.names ↔ ∃ shared, u.container.isSingleton name = .ok shared) ∧
        (name ∉ u.container.names →
          ∀ depth, execute (depth + 1) (.bean name) u = (.container (.beanNotFound name), u)) := by
  intro w
  let names := ((before ++ more).filterMap defined?).toFinset
  have hdefined : ∀ o ∈ before ++ more, ∀ name, o.defined? = some name → name ∈ names := fun o ho name hname =>
    List.mem_toFinset.2 (List.mem_filterMap.2 ⟨o, ho, hname⟩)
  have hcard : names.card < limit :=
    Nat.lt_of_le_of_lt ((List.toFinset_card_le _).trans (List.length_filterMap_le _ _)) hlimit
  rw [List.forall_mem_append] at hbeans hdefined
  obtain ⟨hstore, hdepth⟩ := isStore_after hbeans.1 hdefined.1 (isStore_empty hcard) rfl
  refine ⟨fun name definition h => ?_, fun hdestroy l c hbegins name => ⟨fun u hu i hi hrequest => ?_, ?_⟩,
    fun u => ⟨fun depth e u' => ⟨fun bean supplier => eq_of_define_rejected,
      fun name v => eq_of_register_rejected⟩, u.container.names_pairwise_lt,
      fun name => ⟨mem_names_iff, ?_, fun hname depth => execute_bean_of_not_mem_names hname⟩⟩⟩
  · obtain ⟨changes, hchanges⟩ := follows_after more w
    exact hchanges.definition? h
  · obtain ⟨-, hholds⟩ := lasts_history hbeans.2 hdefined.2 hdestroy hstore hdepth
    obtain ⟨hpos, hbefore⟩ := hholds.found l c hbegins u hu name i hi hrequest
    exact outcome_of_cached hrequest hpos hbefore
  · obtain ⟨-, hholds⟩ := lasts_history hbeans.2 hdefined.2 hdestroy hstore hdepth
    exact fun c' hc' hshared hsupplies => hholds.supplies_once hbegins hc' hshared hsupplies
  · exact mem_names_iff.trans exists_isSingleton_iff.symm

/-- A bean that cannot be made at first, and one that needs it. -/
def stocked : List Operation :=
  [.define ⟨"stock", "String", .singleton, none⟩ fun n => .finish [1] "sold out" n (.text "stock"),
    .define ⟨"shop", "String", .singleton, none⟩ fun _ => .require ["stock"] (.done (.ok (.text "shop"))),
    .bean "shop"]

def visits : List Operation := [.bean "shop", .bean "shop"]

theorem shop_supplied_once :
    (∀ operation ∈ stocked ++ visits, operation.OnBeans) ∧ (stocked ++ visits).length < 6 ∧
      ∃ stock first again, history visits (stocked.foldl after (empty 6)) = [stock, first] ++ [again] ∧
        first.Supplies "shop" ∧ again.outcome = .instance ⟨1, .text "shop"⟩ ∧ ¬ again.Supplies "shop" := by
  have hbeans : ∀ operation ∈ stocked ++ visits, operation.OnBeans := by
    simp only [stocked, visits, List.cons_append, List.nil_append, List.forall_mem_cons]
    exact ⟨fun _ => trivial, fun _ => Program.keeps_require _ trivial, trivial, trivial, trivial, by simp⟩
  have hlimit : (stocked ++ visits).length < 6 := by decide
  have hdestroy : .destroy ∉ visits := by simp [visits]
  obtain ⟨-, hkept, -⟩ := beans_kept_until_destroyed hbeans hlimit
  refine ⟨hbeans, hlimit, _, _, _, rfl, ⟨rfl, _, _, _, _, rfl, rfl⟩, ?_, ?_⟩
  · exact (hkept hdestroy [_, _] _ (List.prefix_refl _) "shop").1 _
      (List.mem_cons_of_mem _ (List.mem_cons_of_mem _ List.mem_cons_self)) _ rfl rfl
  · exact (hkept hdestroy [_, _] _ (List.prefix_refl _) "shop").2 _
      (List.mem_cons_of_mem _ List.mem_cons_self) ⟨_, _, rfl, rfl⟩ ⟨rfl, _, _, _, _, rfl, rfl⟩

end World

end Weaving
