import Weaving.Proofs.TargetEntries

namespace Weaving

namespace World

/-- The delegate of the lazy factory with a cell, if a factory that is asked asks that one. -/
def lazyIn? (cell : Nat) : Factory → World → Option Factory
  | .lazy own delegate, w =>
    if own = cell then some delegate
    else if (w.stored own).isSome then none
    else lazyIn? cell delegate w
  | _, _ => none

def lazyFor? (cell : Nat) (f : Factory) (target : Option Target) (w : World) : Option Factory :=
  match f, target with
  | .perTarget own delegate, some t =>
    if (w.keptFor? own t).isSome then none else lazyIn? cell delegate w
  | f, _ => lazyIn? cell f w

/-- The delegate of the lazy factory that an operation asks, with the world in which it does. -/
def askedLazy? (cell : Nat) : Operation → World → Option (Factory × World)
  | .get id, w => (w.factories.lookup id).bind fun h => (lazyIn? cell h.factory w).map fun d => (d, w)
  | .getFor id target, w =>
    (w.factories.lookup id).bind fun h =>
      match target.bind (w.targets.lookup ·) with
      | none => (lazyIn? cell h.factory w).map fun d => (d, w)
      | some t => (lazyFor? cell h.factory (some t) (w.holding t)).map fun d => (d, w.holding t)
  | _, _ => none

def lazyAnswer (build : Build) (cell : Nat) (asked : Factory × World) : Except EngineError Instance :=
  (getInstance build (.lazy cell asked.1) asked.2).1

/-- What an answer of a lazy factory leaves in its cell, which had `old` in it when the program of the
delegate ended: an instance that it answers is the one that was there, if there was one. -/
structure Stores (answer : Option (Except EngineError Instance)) (old new : Option Instance) : Prop where
  of_ok {i : Instance} (h : answer = some (.ok i)) : new = some i ∧ ∀ j, old = some j → j = i
  of_not_ok (h : ∀ i, answer ≠ some (.ok i)) : new = old

namespace Stores

variable {answer : Option (Except EngineError Instance)} {old new : Option Instance} {i : Instance}

theorem refl (o : Option Instance) : Stores none o o where
  of_ok h := by cases h
  of_not_ok _ := rfl

theorem of_error {e : EngineError} (h : new = old) : Stores (some (.error e)) old new where
  of_ok h := by cases h
  of_not_ok _ := h

theorem new_of_old (h : Stores answer old new) (hold : old = some i) : new = some i := by
  by_cases hok : ∃ j, answer = some (.ok j)
  · obtain ⟨j, hj⟩ := hok
    obtain ⟨hnew, hsame⟩ := h.of_ok hj
    rw [hnew, hsame i hold]
  · rw [h.of_not_ok (not_exists.1 hok), hold]

end Stores

variable {build : Build} {cell : Nat} {w : World}

theorem stored_getBean (build : Build) (name : String) (w : World) :
    (getBean build name w).2.stored = (resumed build (w.supplier? name) w).stored := by
  cases hprogram : w.supplier? name with
  | none =>
      rw [getBean_of_supplier?_none hprogram]
      rfl
  | some start =>
      obtain ⟨program, u⟩ := start
      obtain ⟨hcached, hnew, rfl, bean, supplier, hdefinition, rfl⟩ := supplier?_eq_some hprogram
      cases hbuild : build (supplier (w.container.calls name + 1)) (w.entering name) with
      | mk result u =>
          simp only [resumed, hbuild]
          cases result with
          | error cause =>
              rw [getBean_of_error hcached hdefinition hnew hbuild]
              rfl
          | ok v =>
              rw [getBean_of_ok hcached hdefinition hnew hbuild]
              rfl

section Lazy

variable {delegate : Factory}

theorem getInstance_lazy_of_some {i : Instance} (h : w.stored cell = some i) (build : Build)
    (delegate : Factory) : getInstance build (.lazy cell delegate) w = (.ok i, w) := by
  rw [getInstance, h]

variable (h : w.stored cell = none)

include h

theorem getInstance_lazy_of_error {e : EngineError} {w' : World}
    (hdelegate : getInstance build delegate w = (.error e, w')) :
    getInstance build (.lazy cell delegate) w = (.error e, w') := by
  rw [getInstance, h]
  simp only [hdelegate]

theorem getInstance_lazy_of_first {i first : Instance} {w' : World}
    (hdelegate : getInstance build delegate w = (.ok i, w')) (hfirst : w'.stored cell = some first) :
    getInstance build (.lazy cell delegate) w = (.ok first, w') := by
  rw [getInstance, h]
  simp only [hdelegate, hfirst]

theorem getInstance_lazy_of_ok {i : Instance} {w' : World}
    (hdelegate : getInstance build delegate w = (.ok i, w')) (hnone : w'.stored cell = none) :
    getInstance build (.lazy cell delegate) w =
      (.ok i, { w' with stored := change w'.stored cell (some i) }) := by
  rw [getInstance, h]
  simp only [hdelegate, hnone]

theorem getInstance_lazy_elsewhere {other : Nat} (hother : other ≠ cell) (build : Build) (delegate : Factory) :
    (getInstance build (.lazy cell delegate) w).1.isOk = (getInstance build delegate w).1.isOk ∧
      (getInstance build (.lazy cell delegate) w).2.stored other =
        (getInstance build delegate w).2.stored other := by
  rcases hdelegate : getInstance build delegate w with ⟨e | i, w'⟩
  · rw [getInstance_lazy_of_error h hdelegate]
    exact ⟨rfl, rfl⟩
  · cases hfirst : w'.stored cell with
    | some first =>
        rw [getInstance_lazy_of_first h hdelegate hfirst]
        exact ⟨rfl, rfl⟩
    | none =>
        rw [getInstance_lazy_of_ok h hdelegate hfirst]
        exact ⟨rfl, if_neg hother⟩

end Lazy

/-- A factory changes the cell of a lazy one only by the answer of that one, and if it asks it, it fails
if and only if that one fails. -/
structure Relays (build : Build) (cell : Nat) (f : Factory) (w : World) : Prop where
  stores : Stores ((lazyIn? cell f w).map fun d => lazyAnswer build cell (d, w))
    ((resumed build (constructor? f w) w).stored cell) ((getInstance build f w).2.stored cell)
  isOk_eq {d : Factory} (h : lazyIn? cell f w = some d) :
    (lazyAnswer build cell (d, w)).isOk = (getInstance build f w).1.isOk

theorem relays_of_stored_eq {f : Factory} (hasked : lazyIn? cell f w = none)
    (h : (getInstance build f w).2.stored = (resumed build (constructor? f w) w).stored) :
    Relays build cell f w := by
  refine ⟨?_, fun hd => ?_⟩
  · rw [hasked, h]
    exact .refl _
  · rw [hasked] at hd
    cases hd

theorem Relays.lazy_self {delegate : Factory} (h : Relays build cell delegate w) :
    Relays build cell (.lazy cell delegate) w := by
  have hself : lazyIn? cell (.lazy cell delegate) w = some delegate := if_pos rfl
  refine ⟨?_, fun hd => ?_⟩
  · rw [hself, Option.map_some, lazyAnswer]
    cases hstored : w.stored cell with
    | some i =>
        rw [getInstance_lazy_of_some hstored, constructor?, if_pos (by rw [hstored]; rfl)]
        refine ⟨fun h => ?_, fun h => absurd rfl (h i)⟩
        cases h
        exact ⟨hstored, fun j hj => Option.some.inj (hj.symm.trans hstored)⟩
    | none =>
        obtain ⟨hstores, hok⟩ := h
        rw [constructor?, if_neg (by rw [hstored]; exact Bool.false_ne_true)]
        rcases hdelegate : getInstance build delegate w with ⟨e | i, w'⟩
        · rw [hdelegate] at hstores hok
          rw [getInstance_lazy_of_error hstored hdelegate]
          refine .of_error (hstores.of_not_ok fun i hi => ?_)
          obtain ⟨d, hd, heq⟩ := Option.map_eq_some_iff.1 hi
          have hfails := hok hd
          rw [heq] at hfails
          cases hfails
        · rw [hdelegate] at hstores
          cases hfirst : w'.stored cell with
          | some first =>
              -- a call inside of the delegate has stored an instance
              rw [getInstance_lazy_of_first hstored hdelegate hfirst]
              refine ⟨fun h => ?_, fun h => absurd rfl (h first)⟩
              cases h
              refine ⟨hfirst, fun j hj => ?_⟩
              exact Option.some.inj ((hstores.new_of_old hj).symm.trans hfirst)
          | none =>
              rw [getInstance_lazy_of_ok hstored hdelegate hfirst]
              refine ⟨fun h => ?_, fun h => absurd rfl (h i)⟩
              cases h
              refine ⟨if_pos rfl, fun j hj => ?_⟩
              cases (hstores.new_of_old hj).symm.trans hfirst
  · cases hself.symm.trans hd
    rfl

theorem Relays.lazy_other {delegate : Factory} {own : Nat} (h : Relays build cell delegate w)
    (hown : own ≠ cell) : Relays build cell (.lazy own delegate) w := by
  cases hstored : w.stored own with
  | some i =>
      apply relays_of_stored_eq
      · rw [lazyIn?, if_neg hown, if_pos (by rw [hstored]; rfl)]
      · rw [getInstance_lazy_of_some hstored, constructor?, if_pos (by rw [hstored]; rfl)]
        rfl
  | none =>
      have hempty : ¬ (w.stored own).isSome = true := by
        rw [hstored]
        exact Bool.false_ne_true
      have hinner : lazyIn? cell (.lazy own delegate) w = lazyIn? cell delegate w := by
        rw [lazyIn?, if_neg hown, if_neg hempty]
      obtain ⟨hok, hother⟩ := getInstance_lazy_elsewhere hstored (Ne.symm hown) build delegate
      constructor
      · rw [hinner, constructor?, if_neg hempty, hother]
        exact h.stores
      · rw [hinner, hok]
        exact h.isOk_eq

theorem relays_getInstance (build : Build) (cell : Nat) (f : Factory) (w : World) : Relays build cell f w := by
  induction f with
  | singleton | perTarget => exact relays_of_stored_eq rfl rfl
  | simple state counter name order constructor =>
      apply relays_of_stored_eq rfl
      simp only [getInstance, constructor?, resumed]
      split
      · next hbuild => rw [hbuild]
      · next hbuild =>
          rw [hbuild]
          rfl
  | bean state name order plain =>
      have hbean := stored_getBean build name w
      apply relays_of_stored_eq rfl
      simp only [getInstance, constructor?]
      split <;> next heq =>
        rw [heq] at hbean
        exact hbean
  | lazy own delegate ih =>
      by_cases hown : own = cell
      · subst hown
        exact ih.lazy_self
      · exact ih.lazy_other hown

theorem stored_resumed_holding (build : Build) (start : Option (Program × World)) (w : World) (t : Target) :
    (resumed build start (w.holding t)).stored = (resumed build start w).stored := by
  cases start <;> rfl

theorem stores_getInstanceFor (build : Build) (cell : Nat) (f : Factory) (t : Target) (w : World) :
    Stores ((lazyFor? cell f (some t) w).map fun d => lazyAnswer build cell (d, w))
      ((resumed build (constructorFor? f (some t) w) w).stored cell)
      ((getInstanceFor build f (some t) w).2.stored cell) := by
  by_cases hf : ∃ own delegate, f = .perTarget own delegate
  · obtain ⟨own, delegate, rfl⟩ := hf
    have hstores := (relays_getInstance build cell delegate w).stores
    rw [lazyFor?, constructorFor?]
    rcases getInstanceFor_perTarget_cases build own delegate t w with
      ⟨e, hkept, heq⟩ | ⟨hnone, w', ⟨error, hdelegate, heq⟩ | ⟨i, hdelegate, ⟨e, -, heq⟩ | ⟨-, heq⟩⟩⟩
    · rw [heq, hkept]
      exact .refl _
    all_goals
      rw [heq, hnone]
      rw [hdelegate] at hstores
      exact hstores
  · have haside : ∀ own delegate, f ≠ .perTarget own delegate := fun own delegate heq => hf ⟨own, delegate, heq⟩
    have hlazy : lazyFor? cell f (some t) w = lazyIn? cell f w := by
      cases f with
      | perTarget own delegate => exact absurd rfl (haside own delegate)
      | _ => rfl
    rw [hlazy, constructorFor?_eq (.inr haside), getInstanceFor_eq (.inr haside)]
    exact (relays_getInstance build cell f w).stores

theorem stored_addManaged (id bean : String) (plain managed : Bool) (w : World) :
    (match managedFactory bean plain w with
      | (.error e, w) => (Outcome.engine e, w)
      | (.ok f, w) => w.addFactory id f managed).2.stored = w.stored := by
  rw [managedFactory]
  cases w.container.isSingleton bean with
  | error e => rfl
  | ok shared => cases shared <;> rfl

/-- An operation changes the cell of a lazy factory only by the answer of that one. -/
theorem stores_perform (build : Build) (cell : Nat) (operation : Operation) (w : World) :
    Stores ((askedLazy? cell operation w).map (lazyAnswer build cell))
      ((resumed build (started? operation w) w).stored cell) ((perform build operation w).2.stored cell) := by
  have hsame {asked : Option (Except EngineError Instance)} {old new : World} (hasked : asked = none)
      (h : new.stored = old.stored) : Stores asked (old.stored cell) (new.stored cell) := by
    rw [hasked, h]
    exact .refl _
  cases operation with
  | bean name =>
      have hbean := stored_getBean build name w
      apply hsame rfl
      rw [perform]
      split <;> next heq =>
        rw [heq] at hbean
        exact hbean
  | get id =>
      cases hlookup : w.factories.lookup id with
      | none =>
          simp only [askedLazy?, started?, perform, withFactory, hlookup]
          exact .refl _
      | some handle =>
          simp only [askedLazy?, started?, perform, withFactory, hlookup, Option.bind_some, Option.map_map]
          exact (relays_getInstance build cell handle.factory w).stores
  | getFor id target =>
      cases hlookup : w.factories.lookup id with
      | none =>
          simp only [askedLazy?, started?, perform, withFactory, hlookup]
          exact .refl _
      | some handle =>
          cases ht : target.bind (w.targets.lookup ·) with
          | none =>
              simp only [askedLazy?, started?, perform, withFactory, hlookup, ht, Option.bind_some, Option.map_map,
                constructorFor?_eq (.inl rfl), getInstanceFor_eq (.inl rfl)]
              exact (relays_getInstance build cell handle.factory w).stores
          | some t =>
              have hstores := stores_getInstanceFor build cell handle.factory t (w.holding t)
              rw [stored_resumed_holding] at hstores
              simp only [askedLazy?, started?, perform, withFactory, hlookup, ht, Option.bind_some, Option.map_map]
              exact hstores
  | beanInfo | beanNames | destroy | containerLock | newSingleton | newSimple | newBean | target | drop =>
      exact hsame rfl rfl
  | define | «alias» =>
      apply hsame rfl
      rw [perform]
      split <;> rfl
  | register =>
      apply hsame rfl
      rw [perform]
      dsimp only
      split <;> rfl
  | newPrototype id bean plain =>
      apply hsame rfl
      rw [perform]
      split
      · rfl
      · exact stored_addManaged id bean plain false w
  | newManaged id bean plain => exact hsame rfl (stored_addManaged id bean plain true w)
  | newLazy | newPerTarget | lock | info =>
      apply hsame rfl
      rw [perform, withFactory]
      split <;> rfl
  | purge id =>
      apply hsame rfl
      rw [perform, withFactory]
      split
      · split <;> rfl
      · rfl

theorem stored_of_constructor? {f : Factory} {u : World} {program : Program}
    (h : constructor? f w = some (program, u)) : u.stored = w.stored := by
  induction f with
  | singleton | perTarget => cases h
  | simple state counter name order constructor =>
      cases h
      rfl
  | bean state name order plain =>
      obtain ⟨-, -, rfl, -⟩ := supplier?_eq_some h
      rfl
  | lazy own delegate ih =>
      rw [constructor?] at h
      split at h
      · cases h
      · exact ih h

theorem stored_of_constructorFor? {f : Factory} {target : Option Target} {u : World} {program : Program}
    (h : constructorFor? f target w = some (program, u)) : u.stored = w.stored := by
  rw [constructorFor?.eq_def] at h
  split at h
  · split at h
    · cases h
    · exact stored_of_constructor? h
  · exact stored_of_constructor? h

theorem stored_of_started? {operation : Operation} {u : World} {program : Program}
    (h : w.started? operation = some (program, u)) : u.stored = w.stored := by
  cases operation with
  | bean name =>
      obtain ⟨-, -, rfl, -⟩ := supplier?_eq_some h
      rfl
  | get id =>
      obtain ⟨handle, -, hprogram⟩ := Option.bind_eq_some_iff.1 h
      exact stored_of_constructor? hprogram
  | getFor id target =>
      obtain ⟨handle, -, hprogram⟩ := Option.bind_eq_some_iff.1 h
      split at hprogram
      · exact stored_of_constructorFor? hprogram
      · exact (stored_of_constructorFor? hprogram).trans rfl
  | _ => cases h

section Filled

variable (hstored : (w.stored cell).isSome = true)

include hstored

theorem constructor?_of_lazyIn? {f d : Factory} (h : lazyIn? cell f w = some d) : constructor? f w = none := by
  induction f with
  | lazy own delegate ih =>
      rw [constructor?]
      split
      · rfl
      · next hempty =>
          rw [lazyIn?, if_neg hempty] at h
          split at h
          · next hown => exact absurd hstored (hown ▸ hempty)
          · exact ih h
  | _ => cases h

theorem constructorFor?_of_lazyFor? {f d : Factory} {t : Target} (h : lazyFor? cell f (some t) w = some d) :
    constructorFor? f (some t) w = none := by
  cases f with
  | perTarget own delegate =>
      rw [lazyFor?] at h
      rw [constructorFor?]
      split at h
      · cases h
      · next hkept =>
          rw [if_neg hkept]
          exact constructor?_of_lazyIn? hstored h
  | _ => exact constructor?_of_lazyIn? hstored h

end Filled

/-- An operation that asks a lazy factory does so before anything is stored, and where that one has its
instance, no program is started. -/
theorem started?_of_askedLazy {operation : Operation} {d : Factory} {u : World}
    (h : askedLazy? cell operation w = some (d, u)) :
    u.stored = w.stored ∧ ((w.stored cell).isSome = true → w.started? operation = none) := by
  cases operation with
  | get id =>
      obtain ⟨handle, hlookup, hasked⟩ := Option.bind_eq_some_iff.1 h
      obtain ⟨d', hlazy, heq⟩ := Option.map_eq_some_iff.1 hasked
      cases heq
      refine ⟨rfl, fun hstored => ?_⟩
      rw [started?, hlookup]
      exact constructor?_of_lazyIn? hstored hlazy
  | getFor id target =>
      obtain ⟨handle, hlookup, hasked⟩ := Option.bind_eq_some_iff.1 h
      cases ht : target.bind (w.targets.lookup ·) with
      | none =>
          rw [ht] at hasked
          obtain ⟨d', hlazy, heq⟩ := Option.map_eq_some_iff.1 hasked
          cases heq
          refine ⟨rfl, fun hstored => ?_⟩
          rw [started?, hlookup, Option.bind_some, ht]
          exact (constructorFor?_eq (.inl rfl)).trans (constructor?_of_lazyIn? hstored hlazy)
      | some t =>
          rw [ht] at hasked
          obtain ⟨d', hlazy, heq⟩ := Option.map_eq_some_iff.1 hasked
          cases heq
          refine ⟨rfl, fun hstored => ?_⟩
          have hheld : ((w.holding t).stored cell).isSome = true := hstored
          rw [started?, hlookup, Option.bind_some, ht]
          exact constructorFor?_of_lazyFor? hheld hlazy
  | _ => cases h

end World

namespace Call

open World

/-- What the lazy factory with a cell answers in a call, if it is asked there. -/
def lazyAnswer? (cell : Nat) : Call → Option (Except EngineError Instance)
  | ⟨0, _, _⟩ => none
  | ⟨depth + 1, operation, w⟩ =>
    (askedLazy? cell operation w).map (lazyAnswer (Program.run (execute depth)) cell)

theorem stores (cell : Nat) (c : Call) :
    Stores (c.lazyAnswer? cell) (c.resumed.stored cell) (c.after.stored cell) := by
  obtain ⟨depth, operation, w⟩ := c
  cases depth with
  | zero => exact .refl _
  | succ depth => exact stores_perform (Program.run (execute depth)) cell operation w

/-- A request to a lazy factory, for a target or not, comes to the answer of the factory. -/
theorem outcome_of_lazy {cell : Nat} {c : Call} {id : String} {delegate : Factory} {managed : Bool}
    (hdepth : 0 < c.depth) (hrequest : c.operation = .get id ∨ ∃ target, c.operation = .getFor id target)
    (hlookup : c.before.factories.lookup id = some ⟨.lazy cell delegate, managed⟩) :
    ∃ answer, c.lazyAnswer? cell = some answer ∧ c.outcome = outcomeOf answer := by
  obtain ⟨depth, operation, w⟩ := c
  obtain ⟨depth, rfl⟩ : ∃ n, depth = n + 1 := Nat.exists_eq_succ_of_ne_zero hdepth.ne'
  dsimp only at hlookup hrequest
  have hself : ∀ w, lazyIn? cell (.lazy cell delegate) w = some delegate := fun _ => if_pos rfl
  rcases hrequest with rfl | ⟨target, rfl⟩
  · refine ⟨lazyAnswer (Program.run (execute depth)) cell (delegate, w), ?_, ?_⟩
    · rw [lazyAnswer?, askedLazy?, hlookup, Option.bind_some, hself]
      rfl
    · simp only [outcome, execute, perform, withFactory, hlookup]
      rfl
  · cases ht : target.bind (w.targets.lookup ·) with
    | none =>
        refine ⟨lazyAnswer (Program.run (execute depth)) cell (delegate, w), ?_, ?_⟩
        · simp only [lazyAnswer?, askedLazy?, hlookup, Option.bind_some, ht, hself, Option.map_some]
        · simp only [outcome, execute, perform, withFactory, hlookup, ht, getInstanceFor_eq (.inl rfl)]
          rfl
    | some t =>
        refine ⟨lazyAnswer (Program.run (execute depth)) cell (delegate, w.holding t), ?_, ?_⟩
        · simp only [lazyAnswer?, askedLazy?, hlookup, Option.bind_some, ht, lazyFor?, hself, Option.map_some]
        · simp only [outcome, execute, perform, withFactory, hlookup, ht]
          rw [getInstanceFor_eq (.inr (by rintro _ _ ⟨⟩))]
          rfl

end Call

namespace World

/-- A lazy factory has answered with an instance. -/
def Supplied (cell : Nat) (l : List Call) (i : Instance) : Prop :=
  ∃ c ∈ l, c.lazyAnswer? cell = some (.ok i)

theorem supplied_concat_iff {cell : Nat} {l : List Call} {c : Call} {i : Instance} :
    Supplied cell (l ++ [c]) i ↔ Supplied cell l i ∨ c.lazyAnswer? cell = some (.ok i) := by
  simp [Supplied, or_and_right, exists_or]

/-- What is in the cell of a lazy factory is what it has answered. -/
def Filled (cell : Nat) (l : List Call) (w : World) : Prop :=
  ∀ i, w.stored cell = some i ↔ Supplied cell l i

variable {cell : Nat} {l : List Call} {w : World} {c : Call}

theorem Filled.of_stored_eq {w' : World} (h : Filled cell l w) (hsame : w'.stored = w.stored) :
    Filled cell l w' := by
  intro i
  rw [hsame]
  exact h i

theorem Filled.concat (h : Filled cell l c.resumed) : Filled cell (l ++ [c]) c.after := by
  intro i
  have hstores := c.stores cell
  rw [supplied_concat_iff]
  by_cases hok : ∃ j, c.lazyAnswer? cell = some (.ok j)
  · obtain ⟨j, hj⟩ := hok
    obtain ⟨hnew, hsame⟩ := hstores.of_ok hj
    rw [hnew, hj]
    constructor
    · intro heq
      cases heq
      exact .inr rfl
    · rintro (hsupplied | heq)
      · rw [hsame i ((h i).2 hsupplied)]
      · cases heq
        rfl
  · rw [hstores.of_not_ok (not_exists.1 hok), h i]
    exact ⟨.inl, fun hor => hor.resolve_right fun heq => hok ⟨i, heq⟩⟩

theorem carried_filled (cell : Nat) : Carried (fun _ => True) (fun _ => Filled cell) fun _ _ => True where
  refl _ := trivial
  trans _ _ := trivial
  noted _ _ h := ⟨h.of_stored_eq rfl, trivial⟩
  quiet {c l} _ h hprogram := by
    refine ⟨Filled.concat ?_, trivial⟩
    rwa [Call.resumed_of_none hprogram]
  starts _ h hprogram :=
    ⟨Program.keeps_of_forall (fun _ => trivial) _, h.of_stored_eq (stored_of_started? hprogram)⟩
  ends {depth operation w _ _ _ _ _ _} _ _ hprogram hrun h' _ := by
    refine ⟨Filled.concat (c := ⟨depth + 1, operation, w⟩) ?_, trivial⟩
    rwa [Call.resumed_of_run hprogram hrun]

theorem Filled.isSome_iff (h : Filled cell l w) :
    (w.stored cell).isSome = true ↔ ∃ i, Supplied cell l i := by
  rw [Option.isSome_iff_exists]
  exact exists_congr h

/-- All answers of a lazy factory with an instance, of calls inside of its delegate too, are the same one,
and the factory is materialized from the first of them on, as each call finds it and as each call leaves
it. A request to the factory comes to its answer. Up to the first instance this is what the delegate
answers, unless a call inside of it has answered first, and where the delegate fails, nothing is stored.
From then on the factory answers by itself. -/
theorem one_lazy_instance (limit : Nat) (allocator : Allocator) (operations : List Operation) (cell : Nat) :
    let log := history operations { empty limit with allocator := allocator }
    (∀ i j, Supplied cell log i → Supplied cell log j → i = j) ∧
    ∀ l c, l ++ [c] <+: log → ∃ ended, ended ++ calls c.depth c.operation c.before = l ++ [c] ∧
      (∀ delegate,
        (∃ b, c.before.details? ⟨.lazy cell delegate, false⟩ = some (.lazy b) ∧
          (b = true ↔ ∃ i, Supplied cell ended i)) ∧
        ∃ b, c.after.details? ⟨.lazy cell delegate, false⟩ = some (.lazy b) ∧
          (b = true ↔ ∃ i, Supplied cell (l ++ [c]) i)) ∧
      (∀ id delegate managed, 0 < c.depth →
        (c.operation = .get id ∨ ∃ target, c.operation = .getFor id target) →
        c.before.factories.lookup id = some ⟨.lazy cell delegate, managed⟩ →
        ∃ answer, c.lazyAnswer? cell = some answer ∧ c.outcome = outcomeOf answer) ∧
      ∀ depth delegate w, c.depth = depth + 1 → askedLazy? cell c.operation c.before = some (delegate, w) →
        let build := Program.run (execute depth)
        (∀ i, Supplied cell ended i → c.lazyAnswer? cell = some (.ok i) ∧ c.program? = none ∧
          ∀ other, getInstance build (.lazy cell other) w = (.ok i, w)) ∧
        ((∀ i, ¬ Supplied cell ended i) →
          (∀ e w', getInstance build delegate w = (.error e, w') →
            c.lazyAnswer? cell = some (.error e) ∧ c.after.stored cell = c.resumed.stored cell) ∧
          ∀ i w', getInstance build delegate w = (.ok i, w') →
            c.lazyAnswer? cell = some (.ok ((w'.stored cell).getD i)) ∧
              c.after.stored cell = some ((w'.stored cell).getD i)) := by
  intro log
  obtain ⟨hend, hcalls⟩ := (carried_filled cell).history operations
    (w := { empty limit with allocator := allocator }) (by simp [Filled, Supplied, empty])
  refine ⟨fun i j hi hj => Option.some.inj (((hend i).2 hi).symm.trans ((hend j).2 hj)), fun l c hbegins => ?_⟩
  obtain ⟨hafter, ended, hbefore, hended⟩ := hcalls l c hbegins
  refine ⟨ended, hended, fun delegate => ⟨⟨_, rfl, hbefore.isSome_iff⟩, _, rfl, hafter.isSome_iff⟩,
    fun _ _ _ => Call.outcome_of_lazy, ?_⟩
  intro depth delegate w hdepth hasked
  obtain ⟨_, operation, before⟩ := c
  obtain rfl : _ = depth + 1 := hdepth
  obtain ⟨hsame, hstarted⟩ := started?_of_askedLazy hasked
  have hanswer : Call.lazyAnswer? cell ⟨depth + 1, operation, before⟩ =
      some (getInstance (Program.run (execute depth)) (.lazy cell delegate) w).1 := by
    rw [Call.lazyAnswer?, hasked]
    rfl
  refine ⟨fun i hi => ?_, fun hnone => ?_⟩
  · have hstored : before.stored cell = some i := (hbefore i).2 hi
    have hfirst : w.stored cell = some i := by rw [hsame, hstored]
    refine ⟨?_, hstarted (by rw [hstored]; rfl), getInstance_lazy_of_some hfirst _⟩
    rw [hanswer, getInstance_lazy_of_some hfirst]
  · have hempty : w.stored cell = none := by
      rw [hsame]
      exact Option.eq_none_iff_forall_ne_some.2 fun i hi => hnone i ((hbefore i).1 hi)
    have hstores := Call.stores cell ⟨depth + 1, operation, before⟩
    refine ⟨fun e w' hdelegate => ?_, fun i w' hdelegate => ?_⟩
    · rw [hanswer, getInstance_lazy_of_error hempty hdelegate] at hstores ⊢
      exact ⟨rfl, hstores.of_not_ok nofun⟩
    · cases hfirst : w'.stored cell with
      | some first =>
          rw [hanswer, getInstance_lazy_of_first hempty hdelegate hfirst] at hstores ⊢
          exact ⟨rfl, (hstores.of_ok rfl).1⟩
      | none =>
          rw [hanswer, getInstance_lazy_of_ok hempty hdelegate hfirst] at hstores ⊢
          exact ⟨rfl, (hstores.of_ok rfl).1⟩

/-- A constructor that fails twice. The second time it has asked the lazy factory for the aspect before. -/
def impatient : Nat → Program
  | 1 => .done (.error "early")
  | 2 => .call (.get "once") fun _ => .done (.error "late")
  | _ => .done (.ok (.text "audit"))

def attempts : List Operation :=
  [.newSimple "audit" "audit" 0 impatient, .newLazy "once" "audit", .get "once", .get "once", .get "once"]

/-- The first attempt leaves nothing. In the second one it is the call inside that succeeds, and what it
has made is there for the third. -/
theorem instance_of_third_attempt :
    let log := history attempts (empty 3)
    let made : Instance := ⟨0, .text "audit"⟩
    log.map (fun c => (c.lazyAnswer? 1).map Except.toOption) =
        [none, none, some none, some (some made), some none, some (some made)] ∧
      log.map (fun c => c.after.details? ⟨.lazy 1 (.simple 0 0 "audit" 0 impatient), false⟩) =
        [false, false, false, true, true, true].map (fun b => some (.lazy b)) ∧
      ∀ i, Supplied 1 log i → i = made := by
  intro log made
  have hmade : Supplied 1 log made := ⟨log[3], List.getElem_mem _, rfl⟩
  obtain ⟨hsame, -⟩ := one_lazy_instance 3 .upward attempts 1
  exact ⟨rfl, rfl, fun i hi => hsame i made hi hmade⟩

end World

end Weaving
