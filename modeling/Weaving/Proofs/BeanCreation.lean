import Mathlib.Data.Finset.Card
import Weaving.Lifecycle.Execution
import Weaving.Proofs.Reachability

namespace Weaving

open Relation

namespace Container

variable {c d : Container} {requests : String → List String} {name other : String}

/-- Each supplier gets the beans of a list in turn and then succeeds. -/
def Requests (c : Container) (requests : String → List String) : Prop :=
  ∀ definition ∈ c.definitions, ∀ serial, ∃ v,
    definition.2 serial = Program.require (requests definition.1.name) (.done (.ok v))

theorem Requests.exists_eq (h : c.Requests requests) {bean : BeanInfo} {supplier : Nat → Program}
    (hdefinition : c.definition? name = some (bean, supplier)) (serial : Nat) :
    ∃ v, supplier serial = Program.require (requests name) (.done (.ok v)) := by
  have hbean : bean.name = name := by simpa using List.find?_some hdefinition
  rw [← hbean]
  exact h (bean, supplier) (List.mem_of_find?_eq_some hdefinition) serial

/-- A bean that is still to be made asks for another. -/
def Needs (c : Container) (requests : String → List String) (name other : String) : Prop :=
  c.cached? name = none ∧ (c.definition? name).isSome = true ∧ other ∈ requests name

/-- A bean that can be had: it is there, or all that its supplier asks for can be had. -/
inductive Creatable (c : Container) (requests : String → List String) : String → Prop
  | cached {name : String} {i : Instance} (h : c.cached? name = some i) : Creatable c requests name
  | made {name : String} (hdefined : (c.definition? name).isSome = true)
      (h : ∀ other ∈ requests name, Creatable c requests other) : Creatable c requests name

theorem Creatable.contains (h : c.Creatable requests name) : c.contains name = true := by
  cases h with
  | cached h => exact contains_iff.2 (.inr (by simp [h]))
  | made hdefined _ => exact contains_iff.2 (.inl hdefined)

theorem Creatable.of_needs (h : c.Creatable requests name) (hneeds : c.Needs requests name other) :
    c.Creatable requests other := by
  cases h with
  | cached h => exact absurd hneeds.1 (by simp [h])
  | made _ h => exact h other hneeds.2.2

theorem Creatable.acc (h : c.Creatable requests name) :
    Acc (fun other name => c.Needs requests name other) name := by
  induction h with
  | cached h => exact .intro _ fun other hneeds => absurd hneeds.1 (by simp [h])
  | made _ _ ih => exact .intro _ fun other hneeds => ih other hneeds.2.2

theorem creatable_iff : c.Creatable requests name ↔
    (∀ other, ReflTransGen (c.Needs requests) name other → c.contains other = true) ∧
      AcyclicFrom (c.Needs requests) name := by
  constructor
  · intro h
    refine ⟨fun other hreach => ?_, acyclicFrom_of_acc h.acc⟩
    have hother : c.Creatable requests other := by
      induction hreach with
      | refl => exact h
      | tail _ hneeds ih => exact ih.of_needs hneeds
    exact hother.contains
  · rintro ⟨hcontains, hacyclic⟩
    have hfin : {other | ReflTransGen (c.Needs requests) name other}.Finite :=
      c.names.finite_toSet.subset fun other hreach => mem_names_iff.2 (hcontains other hreach)
    induction acc_of_acyclicFrom hfin hacyclic with
    | intro name _ ih =>
        have hname := hcontains name .refl
        cases hcached : c.cached? name with
        | some i => exact .cached hcached
        | none =>
            have hdefined : (c.definition? name).isSome = true := by
              simpa [contains_iff, hcached] using hname
            refine .made hdefined fun other hother => ?_
            have hneeds : c.Needs requests name other := ⟨hcached, hdefined, hother⟩
            have hreaches := hacyclic.of_reaches (.single hneeds)
            refine ih other hneeds (fun far hfar => hcontains far (.head hneeds hfar)) hreaches ?_
            exact hfin.subset fun far hfar => .head hneeds hfar

/-- The later container has more beans, and each of them could be had from the start. -/
structure Fills (requests : String → List String) (c d : Container) : Prop where
  definitions_eq : d.definitions = c.definitions
  cached : ∀ name i, c.cached? name = some i → d.cached? name = some i
  creatable : ∀ name i, d.cached? name = some i → c.Creatable requests name

theorem Fills.refl (requests : String → List String) (c : Container) : Fills requests c c where
  definitions_eq := rfl
  cached _ _ h := h
  creatable _ _ h := .cached h

theorem Fills.enter (h : Fills requests c d) (name : String) : Fills requests c (d.enter name) :=
  ⟨h.definitions_eq, h.cached, h.creatable⟩

theorem Fills.leave (h : Fills requests c d) (name : String) : Fills requests c (d.leave name) :=
  ⟨h.definitions_eq, h.cached, h.creatable⟩

theorem Fills.store (h : Fills requests c d) (hnew : c.cached? name = none)
    (hname : c.Creatable requests name) (i : Instance) : Fills requests c (d.store name i) where
  definitions_eq := h.definitions_eq
  cached other j hj := by
    rw [cached?_store, if_neg fun e => by simp [e, hnew] at hj]
    exact h.cached other j hj
  creatable other j hj := by
    rw [cached?_store] at hj
    split at hj
    · next e => exact e ▸ hname
    · exact h.creatable other j hj

theorem Fills.definition?_eq (h : Fills requests c d) (name : String) :
    d.definition? name = c.definition? name := definition?_eq_of_definitions_eq h.definitions_eq name

theorem Fills.cached?_eq_none (h : Fills requests c d) (hd : d.cached? name = none) :
    c.cached? name = none := by
  cases hc : c.cached? name with
  | none => rfl
  | some i => exact absurd (h.cached name i hc) (by simp [hd])

/-- How many beans could still begin to be made. -/
def spare (c : Container) : Nat := ((c.definitions.map (·.1.name)).toFinset \ c.inCreation.toFinset).card

theorem spare_le (c : Container) : c.spare ≤ c.definitions.length := by
  calc c.spare ≤ (c.definitions.map (·.1.name)).toFinset.card := Finset.card_le_card Finset.sdiff_subset
    _ ≤ (c.definitions.map (·.1.name)).length := List.toFinset_card_le _
    _ = c.definitions.length := List.length_map _

theorem spare_enter (hdefined : (c.definition? name).isSome = true) (hnew : name ∉ c.inCreation) :
    (c.enter name).spare < c.spare := by
  have hname := isSome_definition?_iff.1 hdefined
  apply Finset.card_lt_card
  rw [Finset.ssubset_iff_of_subset]
  · exact ⟨name, by simpa [hnew] using hname, by simp [enter]⟩
  · exact Finset.sdiff_subset_sdiff (Finset.Subset.refl _) (by simp [enter])

end Container

namespace World

open Container

/-- A request is answered with the bean if it can be had from the start, and with an error if not. -/
structure Answers (requests : String → List String) (c : Container) (name : String) (w : World)
    (answer : Outcome × World) : Prop where
  fills : Fills requests c answer.2.container
  inCreation_eq : answer.2.container.inCreation = w.container.inCreation
  outcome : (∃ i, answer.1 = .instance i) ∧ c.Creatable requests name ∨
    (∃ e, answer.1 = .container e) ∧ ¬ c.Creatable requests name

variable {requests : String → List String} {c : Container} {name other : String} {w : World}

/-- What becomes of a supplier that asks for beans in turn. -/
structure Supplies (requests : String → List String) (c : Container) (names : List String) (v : Value)
    (w : World) (answer : Except String Value × World) : Prop where
  fills : Fills requests c answer.2.container
  inCreation_eq : answer.2.container.inCreation = w.container.inCreation
  outcome : answer.1 = .ok v ∧ (∀ name ∈ names, c.Creatable requests name) ∨
    (∃ cause, answer.1 = .error cause) ∧ ∃ name ∈ names, ¬ c.Creatable requests name

section Require

variable {perform : Operation → World → Outcome × World} {rest : List String} {last : Program} {w' : World}

theorem run_require_of_instance {i : Instance} (h : perform (.bean name) w = (.instance i, w')) :
    (Program.require (name :: rest) last).run perform w = (Program.require rest last).run perform w' := by
  simp only [Program.require, List.foldr_cons, Program.run, h]

theorem run_require_of_error {e : ContainerError} (h : perform (.bean name) w = (.container e, w')) :
    (Program.require (name :: rest) last).run perform w = (.error e.message, w') := by
  simp only [Program.require, List.foldr_cons, Program.run, h]

end Require

theorem supplies_of_answers {perform deeper : Operation → World → Outcome × World} {names : List String}
    {v : Value} (hfills : Fills requests c w.container)
    (h : ∀ name ∈ names, ∀ w', Fills requests c w'.container →
      w'.container.inCreation = w.container.inCreation →
      Answers requests c name w' (perform (.bean name) w') ∧
        deeper (.bean name) w' = perform (.bean name) w') :
    Supplies requests c names v w ((Program.require names (.done (.ok v))).run perform w) ∧
      (Program.require names (.done (.ok v))).run deeper w =
        (Program.require names (.done (.ok v))).run perform w := by
  induction names generalizing w with
  | nil => exact ⟨⟨hfills, rfl, .inl ⟨rfl, by simp⟩⟩, rfl⟩
  | cons name rest ih =>
      obtain ⟨⟨hfills', hcreation, houtcome⟩, hdeeper⟩ := h name List.mem_cons_self w hfills rfl
      generalize hperform : perform (.bean name) w = answer at hfills' hcreation houtcome hdeeper
      obtain ⟨outcome, w'⟩ := answer
      rcases houtcome with ⟨⟨i, rfl⟩, hname⟩ | ⟨⟨e, rfl⟩, hname⟩
      · obtain ⟨hrest, hsame⟩ := ih hfills' fun other hother w'' hw'' hcreation'' =>
          h other (List.mem_cons_of_mem _ hother) w'' hw'' (hcreation''.trans hcreation)
        rw [run_require_of_instance hperform, run_require_of_instance hdeeper]
        refine ⟨⟨hrest.fills, hrest.inCreation_eq.trans hcreation, ?_⟩, hsame⟩
        rcases hrest.outcome with ⟨hok, hall⟩ | ⟨herror, other, hother, hnot⟩
        · exact .inl ⟨hok, List.forall_mem_cons.2 ⟨hname, hall⟩⟩
        · exact .inr ⟨herror, other, List.mem_cons_of_mem _ hother, hnot⟩
      · rw [run_require_of_error hperform, run_require_of_error hdeeper]
        exact ⟨⟨hfills', hcreation, .inr ⟨⟨_, rfl⟩, name, List.mem_cons_self, hname⟩⟩, rfl⟩

theorem fills_finishing (scope : Scope) (v : Value) (hfills : Fills requests c w.container)
    (hnew : c.cached? name = none) (hname : c.Creatable requests name) :
    Fills requests c (w.finishing scope name v).2.container := by
  cases scope with
  | singleton => exact (hfills.leave name).store hnew hname _
  | prototype => exact hfills.leave name

theorem spare_congr {d : Container} (hdefinitions : d.definitions = c.definitions)
    (hcreation : d.inCreation = c.inCreation) : d.spare = c.spare := by
  rw [spare, spare, hdefinitions, hcreation]

/-- How the operation that gets a bean answers. -/
def beanOutcome : Except ContainerError Instance × World → Outcome × World
  | (.error e, w) => (.container e, w)
  | (.ok i, w) => (.instance i, w)

theorem execute_bean (depth : Nat) (name : String) (w : World) :
    execute (depth + 1) (.bean name) w = beanOutcome (getBean (Program.run (execute depth)) name w) := rfl

section GetBean

variable {build deeper : Build} (hfills : Fills requests c w.container)

include hfills

theorem answers_of_cached {i : Instance} (hcached : w.container.cached? name = some i) :
    Answers requests c name w (beanOutcome (getBean build name w)) := by
  rw [getBean_of_cached hcached]
  exact ⟨hfills, rfl, .inl ⟨⟨i, rfl⟩, hfills.creatable name i hcached⟩⟩

theorem answers_of_undefined (hcached : w.container.cached? name = none)
    (hdefinition : w.container.definition? name = none) :
    Answers requests c name w (beanOutcome (getBean build name w)) := by
  rw [getBean_of_undefined hcached hdefinition]
  refine ⟨hfills, rfl, .inr ⟨⟨_, rfl⟩, fun h => ?_⟩⟩
  have hcontains := h.contains
  rw [contains_iff, ← hfills.definition?_eq, hdefinition, hfills.cached?_eq_none hcached] at hcontains
  simp at hcontains

variable {bean : BeanInfo} {supplier : Nat → Program} {v : Value}
  (hcached : w.container.cached? name = none)
  (hdefinition : w.container.definition? name = some (bean, supplier))

include hcached hdefinition

theorem answers_of_inCreation (hcreation : name ∈ w.container.inCreation)
    (hcircle : TransGen (c.Needs requests) name name) :
    Answers requests c name w (beanOutcome (getBean build name w)) := by
  rw [getBean_of_inCreation hcached hdefinition hcreation]
  exact ⟨hfills, rfl, .inr ⟨⟨_, rfl⟩, fun h => acyclicFrom_of_acc h.acc name .refl hcircle⟩⟩

theorem needs_of_mem (hother : other ∈ requests name) : c.Needs requests name other := by
  refine ⟨hfills.cached?_eq_none hcached, ?_, hother⟩
  rw [← hfills.definition?_eq, hdefinition]
  rfl

variable (hnew : name ∉ w.container.inCreation)

include hnew

theorem answers_of_supplies (h : Supplies requests c (requests name) v (w.entering name)
      (build (supplier (w.container.calls name + 1)) (w.entering name))) :
    Answers requests c name w (beanOutcome (getBean build name w)) := by
  obtain ⟨hfills', hcreation, houtcome⟩ := h
  generalize hbuild : build (supplier (w.container.calls name + 1)) (w.entering name) = answer
    at hfills' hcreation houtcome
  obtain ⟨result, w'⟩ := answer
  have hleft : w'.container.inCreation.erase name = w.container.inCreation := by
    rw [hcreation]
    exact List.erase_cons_head name w.container.inCreation
  rcases houtcome with ⟨rfl, hall⟩ | ⟨⟨cause, rfl⟩, other, hother, hnot⟩
  · have hname : c.Creatable requests name := by
      refine .made ?_ hall
      rw [← hfills.definition?_eq, hdefinition]
      rfl
    rw [getBean_of_ok hcached hdefinition hnew hbuild]
    exact ⟨fills_finishing bean.scope v hfills' (hfills.cached?_eq_none hcached) hname,
      (inCreation_finishing w' bean.scope name v).trans hleft, .inl ⟨⟨_, rfl⟩, hname⟩⟩
  · rw [getBean_of_error hcached hdefinition hnew hbuild]
    refine ⟨hfills'.leave name, hleft, .inr ⟨⟨_, rfl⟩, fun hname => ?_⟩⟩
    exact hnot (hname.of_needs (needs_of_mem hfills hcached hdefinition hother))

omit hfills in
theorem getBean_congr (h : deeper (supplier (w.container.calls name + 1)) (w.entering name) =
    build (supplier (w.container.calls name + 1)) (w.entering name)) :
    getBean deeper name w = getBean build name w := by
  cases hbuild : build (supplier (w.container.calls name + 1)) (w.entering name) with
  | mk result w' =>
      have hdeeper := h.trans hbuild
      cases result with
      | error cause =>
          rw [getBean_of_error hcached hdefinition hnew hbuild,
            getBean_of_error hcached hdefinition hnew hdeeper]
      | ok v =>
          rw [getBean_of_ok hcached hdefinition hnew hbuild, getBean_of_ok hcached hdefinition hnew hdeeper]

end GetBean

/-- Requests are answered, the same with any more depth, where fewer beans could begin to be made than
the depth allows and those in creation lead to the one that is requested. -/
def Settles (requests : String → List String) (c : Container) (depth : Nat) : Prop :=
  ∀ name w, Fills requests c w.container → w.container.spare < depth →
    (∀ other ∈ w.container.inCreation, TransGen (c.Needs requests) other name) →
    Answers requests c name w (execute depth (.bean name) w) ∧
      ∀ more, execute (depth + more) (.bean name) w = execute depth (.bean name) w

/-- Once its making has begun, a bean leads to all that its supplier asks for, and there is one less
to begin with. -/
theorem Settles.supplies {depth : Nat} {bean : BeanInfo} {supplier : Nat → Program}
    (h : Settles requests c depth) (hfills : Fills requests c w.container)
    (hcached : w.container.cached? name = none)
    (hdefinition : w.container.definition? name = some (bean, supplier))
    (hnew : name ∉ w.container.inCreation) (hdepth : w.container.spare < depth + 1)
    (hcreation : ∀ other ∈ w.container.inCreation, TransGen (c.Needs requests) other name) (v : Value)
    (more : Nat) :
    Supplies requests c (requests name) v (w.entering name)
        ((Program.require (requests name) (.done (.ok v))).run (execute depth) (w.entering name)) ∧
      (Program.require (requests name) (.done (.ok v))).run (execute (depth + more)) (w.entering name) =
        (Program.require (requests name) (.done (.ok v))).run (execute depth) (w.entering name) := by
  have hspare : (w.container.enter name).spare < depth := by
    have hless := spare_enter (by simp [hdefinition]) hnew
    omega
  refine supplies_of_answers (hfills.enter name) fun other hother w' hw' hcreation' => ?_
  have hneeds := needs_of_mem hfills hcached hdefinition hother
  have hsame : w'.container.spare = (w.container.enter name).spare :=
    spare_congr (hw'.definitions_eq.trans hfills.definitions_eq.symm) hcreation'
  -- what was in creation leads to `name`, and so does `name` to what it asks for
  obtain ⟨hanswer, hmore⟩ := h other w' hw' (hsame ▸ hspare) fun begun hbegun => by
    rw [hcreation'] at hbegun
    rcases List.mem_cons.1 hbegun with rfl | hbegun
    · exact .single hneeds
    · exact (hcreation begun hbegun).tail hneeds
  exact ⟨hanswer, hmore more⟩

theorem settles (hrequests : c.Requests requests) (depth : Nat) : Settles requests c depth := by
  induction depth with
  | zero => exact fun _ _ _ hdepth _ => absurd hdepth (Nat.not_lt_zero _)
  | succ depth ih =>
      intro name w hfills hdepth hcreation
      simp only [Nat.add_right_comm depth 1, execute_bean]
      cases hcached : w.container.cached? name with
      | some i =>
          refine ⟨answers_of_cached hfills hcached, fun more => ?_⟩
          rw [getBean_of_cached hcached, getBean_of_cached hcached]
      | none =>
          cases hdefinition : w.container.definition? name with
          | none =>
              refine ⟨answers_of_undefined hfills hcached hdefinition, fun more => ?_⟩
              rw [getBean_of_undefined hcached hdefinition, getBean_of_undefined hcached hdefinition]
          | some definition =>
              obtain ⟨bean, supplier⟩ := definition
              by_cases hnew : name ∈ w.container.inCreation
              · refine ⟨answers_of_inCreation hfills hcached hdefinition hnew (hcreation name hnew), ?_⟩
                intro more
                rw [getBean_of_inCreation hcached hdefinition hnew,
                  getBean_of_inCreation hcached hdefinition hnew]
              · have hbean := (hfills.definition?_eq name).symm.trans hdefinition
                obtain ⟨v, hsupplier⟩ := hrequests.exists_eq hbean (w.container.calls name + 1)
                have hasked := ih.supplies hfills hcached hdefinition hnew hdepth hcreation v
                rw [← hsupplier] at hasked
                refine ⟨answers_of_supplies hfills hcached hdefinition hnew (hasked 0).1, fun more => ?_⟩
                rw [getBean_congr hcached hdefinition hnew (hasked more).2]

/-- Getting a bean while none is in creation ends, whatever depth is allowed beyond the number of
definitions, and leaves none in creation. It succeeds exactly if every bean is there or defined that
is reached through the requests of beans that are not there yet, and none of these leads back to
itself. -/
theorem bean_created_iff_acyclic {w : World} {requests : String → List String} (name : String)
    (hrequests : w.container.Requests requests) (hidle : w.container.inCreation = []) :
    ∃ outcome w', (∀ depth, w.container.definitions.length < depth →
        execute depth (.bean name) w = (outcome, w')) ∧
      w'.container.inCreation = [] ∧
      ((∃ i, outcome = .instance i) ∨ ∃ e, outcome = .container e) ∧
      ((∃ i, outcome = .instance i) ↔
        (∀ other, ReflTransGen (w.container.Needs requests) name other →
          w.container.contains other = true) ∧
        ∀ other, ReflTransGen (w.container.Needs requests) name other →
          ¬ TransGen (w.container.Needs requests) other other) := by
  have hdepth : w.container.spare < w.container.definitions.length + 1 :=
    Nat.lt_succ_of_le w.container.spare_le
  obtain ⟨⟨-, hcreation, houtcome⟩, hmore⟩ :=
    settles hrequests _ name w (.refl requests w.container) hdepth (by simp [hidle])
  generalize execute (w.container.definitions.length + 1) (.bean name) w = answer
    at hcreation houtcome hmore
  obtain ⟨outcome, w'⟩ := answer
  refine ⟨outcome, w', fun depth hlt => ?_, hcreation.trans hidle, ?_, ?_⟩
  · obtain ⟨more, rfl⟩ := Nat.exists_eq_add_of_le hlt
    exact hmore more
  · exact houtcome.imp And.left And.left
  · refine Iff.trans ?_ creatable_iff
    rcases houtcome with ⟨hinstance, hname⟩ | ⟨⟨e, he⟩, hnot⟩
    · exact iff_of_true hinstance hname
    · refine iff_of_false ?_ hnot
      rintro ⟨i, hi⟩
      cases he.symm.trans hi

/-- What the beans of a shop ask for. The clock is reached on two ways. -/
def shopRequests (name : String) : List String :=
  if name = "app" then ["store", "audit"]
  else if name = "clock" then []
  else if name = "loop" then ["clock", "loop"]
  else ["clock"]

/-- A bean of the shop. -/
def ware (d : String × Scope) : BeanInfo × (Nat → Program) :=
  (⟨d.1, "String", d.2, none⟩, fun _ => .require (shopRequests d.1) (.done (.ok (.text d.1))))

def shop : World :=
  { empty 0 with container := ⟨[("app", .singleton), ("store", .prototype), ("audit", .singleton),
    ("clock", .prototype), ("loop", .singleton)].map ware, fun _ => 0, [], []⟩ }

theorem app_created_loop_refused :
    (shop.container.Requests shopRequests ∧ shop.container.inCreation = []) ∧
      (∀ depth, 5 < depth → (execute depth (.bean "app") shop).1 = .instance ⟨4, .text "app"⟩) ∧
      (∀ other, ReflTransGen (shop.container.Needs shopRequests) "app" other →
        ¬ TransGen (shop.container.Needs shopRequests) other other) ∧
      ¬ ((∀ other, ReflTransGen (shop.container.Needs shopRequests) "loop" other →
          shop.container.contains other = true) ∧
        ∀ other, ReflTransGen (shop.container.Needs shopRequests) "loop" other →
          ¬ TransGen (shop.container.Needs shopRequests) other other) := by
  have hrequests : shop.container.Requests shopRequests := by
    intro definition hdefinition serial
    obtain ⟨d, -, rfl⟩ := List.mem_map.1 hdefinition
    exact ⟨.text d.1, rfl⟩
  refine ⟨⟨hrequests, rfl⟩, ?_⟩
  obtain ⟨made, w, hmade, -, -, happ⟩ := bean_created_iff_acyclic "app" hrequests rfl
  obtain ⟨refused, w', hrefused, -, -, hloop⟩ := bean_created_iff_acyclic "loop" hrequests rfl
  have hanswer := congrArg Prod.fst (hmade 6 (by decide))
  obtain rfl : .instance ⟨4, .text "app"⟩ = made := hanswer
  refine ⟨fun depth hdepth => by rw [hmade depth hdepth], (happ.1 ⟨_, rfl⟩).2, fun h => ?_⟩
  obtain ⟨i, rfl⟩ := hloop.2 h
  cases congrArg Prod.fst (hrefused 6 (by decide))

end World

end Weaving
