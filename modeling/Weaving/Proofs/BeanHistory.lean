import Weaving.Lifecycle.Execution

namespace Weaving

namespace Container

/-- What becomes of the definitions and the instances of a container. -/
inductive Change where
  | defined (bean : BeanInfo)
  | registered (name : String) (i : Instance)
  | made (name : String) (i : Instance)
  | destroyed

/-- The instance that was registered under a name and not destroyed since. The last change comes
first. -/
def registeredAfter (name : String) : List Change → Option Instance
  | [] => none
  | .registered other i :: before => if name = other then some i else registeredAfter name before
  | .destroyed :: _ => none
  | .defined _ :: before | .made _ _ :: before => registeredAfter name before

variable {c : Container} {name : String}

/-- A definition under which instances are kept. -/
def Shares (c : Container) (name : String) : Prop :=
  ∃ bean supplier, c.definition? name = some (bean, supplier) ∧ bean.scope = .singleton

theorem not_shares (h : c.isSingleton name = .ok false) : ¬ c.Shares name := by
  rintro ⟨bean, supplier, hbean, hscope⟩
  obtain ⟨bean', supplier', hbean', hscope'⟩ := isSingleton_eq_ok_false h
  cases hbean.symm.trans hbean'
  cases hscope.symm.trans hscope'

end Container

namespace World

open Container

/-- A world that comes of another one by changes to its container, the last one first. What stays
aside of the container may change in between, and objects may be made. -/
inductive Changes (start : World) : List Change → World → Prop
  | none : Changes start [] start
  | aside {l : List Change} {w w' : World} (h : Changes start l w)
      (hdefinitions : w'.container.definitions = w.container.definitions)
      (hsingletons : w'.container.singletons = w.container.singletons)
      (hobjects : w.nextObject ≤ w'.nextObject) : Changes start l w'
  | defined {l : List Change} {w : World} {bean : BeanInfo} {supplier : Nat → Program} {c : Container}
      (h : Changes start l w) (hdefine : w.container.define bean supplier = .ok c) :
      Changes start (.defined bean :: l) { w with container := c }
  | registered {l : List Change} {w : World} {name : String} {c : Container} (h : Changes start l w)
      (v : Value) (hregister : w.container.register name (w.allocate v).1 = .ok c) :
      Changes start (.registered name (w.allocate v).1 :: l) { (w.allocate v).2 with container := c }
  | made {l : List Change} {w : World} {name : String} {bean : BeanInfo} {supplier : Nat → Program}
      (h : Changes start l w) (hdefinition : w.container.definition? name = some (bean, supplier))
      (v : Value) : Changes start (.made name (w.allocate v).1 :: l) (w.finishing bean.scope name v).2
  | destroyed {l : List Change} {w : World} (h : Changes start l w) :
      Changes start (.destroyed :: l) { w with container := w.container.destroy }

variable {start w w' : World} {l : List Change} {name : String} {i : Instance}

namespace Changes

theorem trans {l' : List Change} (h : Changes start l w) (h' : Changes w l' w') :
    Changes start (l' ++ l) w' := by
  induction h' with
  | none => exact h
  | aside _ hdefinitions hsingletons hobjects ih => exact ih.aside hdefinitions hsingletons hobjects
  | defined _ hdefine ih => exact ih.defined hdefine
  | registered _ v hregister ih => exact ih.registered v hregister
  | made _ hdefinition v ih => exact ih.made hdefinition v
  | destroyed _ ih => exact ih.destroyed

theorem nextObject_le (h : Changes start l w) : start.nextObject ≤ w.nextObject := by
  induction h with
  | none => exact Nat.le_refl _
  | aside _ _ _ hobjects ih => exact Nat.le_trans ih hobjects
  | defined _ _ ih | destroyed _ ih => exact ih
  | registered _ _ _ ih | made _ _ _ ih => exact Nat.le_succ_of_le ih

theorem definition? {definition : BeanInfo × (Nat → Program)} (h : Changes start l w)
    (hstart : start.container.definition? name = some definition) :
    w.container.definition? name = some definition := by
  induction h with
  | none => exact hstart
  | aside _ hdefinitions _ _ ih => exact (definition?_eq_of_definitions_eq hdefinitions name).trans ih
  | defined _ hdefine ih => exact definition?_of_define hdefine ih
  | registered _ _ hregister ih => rw [(register_eq_ok hregister).2]; exact ih
  | made _ _ v ih => exact (definition?_finishing _ _ _ _ v).trans ih
  | destroyed _ ih => exact ih

theorem isSingleton (h : Changes start l w) (hstart : start.container.isSingleton name = .ok false) :
    w.container.isSingleton name = .ok false := by
  obtain ⟨bean, supplier, hbean, hscope⟩ := isSingleton_eq_ok_false hstart
  simp [Container.isSingleton, h.definition? hbean, hscope]

theorem shares (h : Changes start l w) (hstart : start.container.Shares name) :
    w.container.Shares name := by
  obtain ⟨bean, supplier, hbean, hscope⟩ := hstart
  exact ⟨bean, supplier, h.definition? hbean, hscope⟩

theorem id_lt_of_kept {p : Prop} [Decidable p] {v : Value}
    (hcached : w.container.cached? name = some i → i.id < w.nextObject)
    (h : (if p then some (w.allocate v).1 else w.container.cached? name) = some i) :
    i.id < (w.allocate v).2.nextObject := by
  split at h
  · cases h
    exact Nat.lt_succ_self _
  · exact Nat.lt_succ_of_lt (hcached h)

/-- An instance in the cache was made before. -/
theorem id_lt_nextObject (h : Changes start l w) (hstart : start.container.singletons = [])
    (hcached : w.container.cached? name = some i) : i.id < w.nextObject := by
  induction h with
  | none => simp [cached?, hstart] at hcached
  | aside _ _ hsingletons hobjects ih =>
      rw [cached?, hsingletons] at hcached
      exact Nat.lt_of_lt_of_le (ih hcached) hobjects
  | defined _ hdefine ih =>
      rw [define_eq_ok hdefine] at hcached
      exact ih hcached
  | registered _ v hregister ih =>
      rw [(register_eq_ok hregister).2, cached?_store] at hcached
      exact id_lt_of_kept ih hcached
  | made _ _ v ih =>
      rw [cached?_finishing] at hcached
      exact id_lt_of_kept ih hcached
  | destroyed _ ih => cases hcached

/-- What is kept under a name whose definition, if it has one, shares nothing has been registered.
Before the definition the name had none or this one, since a definition is never replaced. -/
theorem cached?_eq_registeredAfter (h : Changes start l w) (hstart : start.container.singletons = [])
    (hname : ¬ w.container.Shares name) : w.container.cached? name = registeredAfter name l := by
  induction h with
  | none => simp [cached?, hstart, registeredAfter]
  | aside _ hdefinitions hsingletons _ ih =>
      rw [Shares, definition?_eq_of_definitions_eq hdefinitions] at hname
      rw [cached?, hsingletons]
      exact ih hname
  | defined _ hdefine ih =>
      rw [registeredAfter, ← ih (mt (Changes.defined .none hdefine).shares hname), define_eq_ok hdefine]
      rfl
  | registered _ v hregister ih =>
      rw [registeredAfter, ← ih (mt (Changes.registered .none v hregister).shares hname),
        (register_eq_ok hregister).2, cached?_store]
  | made _ hdefinition v ih =>
      have hother := ih (mt (Changes.made .none hdefinition v).shares hname)
      rw [registeredAfter, ← hother, cached?_finishing, if_neg]
      rintro ⟨rfl, hscope⟩
      exact hname ⟨_, _, (definition?_finishing _ _ _ _ v).trans hdefinition, hscope⟩
  | destroyed _ ih => rfl

end Changes

/-- A world that comes of another one. -/
def Follows (w w' : World) : Prop := ∃ l, Changes w l w'

namespace Follows

theorem refl (w : World) : Follows w w := ⟨[], .none⟩

theorem trans {w'' : World} (h : Follows w w') (h' : Follows w' w'') : Follows w w'' := by
  obtain ⟨l, hl⟩ := h
  obtain ⟨l', hl'⟩ := h'
  exact ⟨l' ++ l, hl.trans hl'⟩

theorem aside (hcontainer : w'.container = w.container) (hobjects : w.nextObject ≤ w'.nextObject) :
    Follows w w' :=
  ⟨[], .aside .none (by rw [hcontainer]) (by rw [hcontainer]) hobjects⟩

theorem of_eq {α : Type} {x : α × World} {a : α} (h : Follows w x.2) (heq : x = (a, w')) :
    Follows w w' := by
  rw [heq] at h
  exact h

theorem entering (w : World) (name : String) : Follows w (w.entering name) :=
  ⟨[], .aside .none rfl rfl (Nat.le_refl _)⟩

theorem leaving (w : World) (name : String) : Follows w (w.leaving name) :=
  ⟨[], .aside .none rfl rfl (Nat.le_refl _)⟩

end Follows

section Build

variable {build : Build} (hbuild : ∀ program w, Follows w (build program w).2)

include hbuild

theorem follows_getBean (name : String) (w : World) : Follows w (getBean build name w).2 := by
  rcases getBean_cases build name w with ⟨i, -, h⟩ | ⟨-, ⟨-, h⟩ | ⟨bean, supplier, hdefinition, hcases⟩⟩
  · rw [h]; exact .refl w
  · rw [h]; exact .refl w
  have hentered := (Follows.entering w name).trans (hbuild (supplier (w.container.calls name + 1)) _)
  rcases hcases with ⟨-, h⟩ | ⟨cause, w', hresult, h⟩ | ⟨v, w', hresult, h⟩ <;> rw [h]
  · exact .refl w
  · exact (hentered.of_eq hresult).trans (.leaving w' name)
  · obtain ⟨l, hl⟩ := hentered.of_eq hresult
    exact ⟨_, hl.made (hl.definition? hdefinition) v⟩

theorem follows_getInstance (f : Factory) (w : World) : Follows w (getInstance build f w).2 := by
  induction f generalizing w with
  | singleton name i order => exact .refl w
  | simple cell counter name order constructor =>
      have hcounted : Follows w { w with serials := change w.serials counter (w.serials counter + 1) } :=
        .aside rfl (Nat.le_refl _)
      have hmade := hcounted.trans (hbuild (constructor (w.serials counter + 1)) _)
      simp only [getInstance]
      split
      · next hresult => exact hmade.of_eq hresult
      · next hresult => exact (hmade.of_eq hresult).trans (.aside rfl (Nat.le_succ _))
  | bean cell name order plain =>
      have hbean := follows_getBean hbuild name w
      simp only [getInstance]
      split <;> next hresult => exact hbean.of_eq hresult
  | lazy cell delegate ih =>
      have hdelegate := ih w
      simp only [getInstance]
      split
      · exact .refl w
      · split
        · next hresult => exact hdelegate.of_eq hresult
        · next hresult =>
            split
            · exact hdelegate.of_eq hresult
            · exact (hdelegate.of_eq hresult).trans (.aside rfl (Nat.le_refl _))
  | perTarget cell delegate ih => exact .refl w

theorem follows_create (cell : Nat) (delegate : Factory) (t : Target) (w : World) :
    Follows w (getInstanceFor.create build cell delegate t w).2 := by
  have hdelegate := follows_getInstance hbuild delegate w
  rw [getInstanceFor.create]
  split
  · next hresult => exact hdelegate.of_eq hresult
  · next hresult =>
      dsimp only
      split <;> exact (hdelegate.of_eq hresult).trans (.aside rfl (Nat.le_refl _))

theorem follows_getInstanceFor (f : Factory) (target : Option Target) (w : World) :
    Follows w (getInstanceFor build f target w).2 := by
  rw [getInstanceFor.eq_def]
  split
  · split
    · split
      · exact .refl w
      · exact follows_create hbuild _ _ _ w
    · exact follows_create hbuild _ _ _ w
  · exact follows_getInstance hbuild f w

end Build

theorem follows_managedFactory (bean : String) (plain : Bool) (w : World) :
    Follows w (managedFactory bean plain w).2 := by
  rw [managedFactory]
  split
  · exact .refl w
  · dsimp only
    split <;> exact .aside rfl (Nat.le_refl _)

theorem follows_withFactory {f : Handle → Outcome × World} (id : String)
    (h : ∀ handle, Follows w (f handle).2) : Follows w (w.withFactory id f).2 := by
  rw [withFactory]
  split
  · exact h _
  · exact .refl w

theorem follows_perform {build : Build} (hbuild : ∀ program w, Follows w (build program w).2)
    (operation : Operation) (w : World) : Follows w (w.perform build operation).2 := by
  cases operation with
  | define bean supplier =>
      rw [perform]
      split
      · exact .refl w
      · next hdefine => exact ⟨_, .defined .none hdefine⟩
  | register name v =>
      rw [perform]
      dsimp only
      split
      · exact .aside rfl (Nat.le_succ _)
      · next hregister => exact ⟨_, .registered .none v hregister⟩
  | bean name =>
      have hbean := follows_getBean hbuild name w
      rw [perform]
      split <;> next hresult => exact hbean.of_eq hresult
  | destroy => exact ⟨_, .destroyed .none⟩
  | beanInfo | beanNames | containerLock => exact .refl w
  | newSingleton => exact .aside rfl (Nat.le_succ _)
  | target => exact .aside rfl (Nat.le_succ _)
  | newSimple | newBean | drop => exact .aside rfl (Nat.le_refl _)
  | newPrototype id bean plain =>
      have hfactory := follows_managedFactory bean plain w
      rw [perform]
      split
      · exact .refl w
      · split <;> next hresult => exact (hfactory.of_eq hresult).trans (.aside rfl (Nat.le_refl _))
  | newManaged id bean plain =>
      have hfactory := follows_managedFactory bean plain w
      rw [perform]
      split <;> next hresult => exact (hfactory.of_eq hresult).trans (.aside rfl (Nat.le_refl _))
  | newLazy | newPerTarget => exact follows_withFactory _ fun handle => .aside rfl (Nat.le_refl _)
  | get id => exact follows_withFactory id fun handle => follows_getInstance hbuild handle.factory w
  | getFor id target =>
      refine follows_withFactory id fun handle => ?_
      split
      · exact follows_getInstanceFor hbuild handle.factory none w
      · next t _ =>
          have hheld : Follows w { w with held := t :: w.held } := .aside rfl (Nat.le_refl _)
          exact (hheld.trans (follows_getInstanceFor hbuild handle.factory (some t) _)).trans
            (.aside rfl (Nat.le_refl _))
  | lock | info => exact follows_withFactory _ fun _ => .refl w
  | purge id =>
      refine follows_withFactory id fun handle => ?_
      split
      · exact .aside rfl (Nat.le_refl _)
      · exact .refl w
  | «alias» name existing =>
      rw [perform]
      split
      · exact .refl w
      · exact .aside rfl (Nat.le_refl _)

theorem follows_run {execute : Operation → World → Outcome × World}
    (h : ∀ operation w, Follows w (execute operation w).2) :
    ∀ (program : Program) (w : World), Follows w (program.run execute w).2
  | .done _, w => .refl w
  | .call operation next, w => (h operation w).trans (follows_run h (next _) _)
  | .report outcome rest, w =>
      have hreported : Follows w (w.report outcome) := .aside rfl (Nat.le_refl _)
      hreported.trans (follows_run h rest _)
  | .record event rest, w =>
      have hrecorded : Follows w (w.record event) := .aside rfl (Nat.le_refl _)
      hrecorded.trans (follows_run h rest _)

theorem follows_execute (depth : Nat) (operation : Operation) (w : World) :
    Follows w (execute depth operation w).2 := by
  induction depth generalizing operation w with
  | zero => exact .refl w
  | succ depth ih => exact follows_perform (follows_run ih) operation w

theorem follows_after (operations : List Operation) (w : World) :
    Follows w (operations.foldl after w) := by
  induction operations generalizing w with
  | nil => exact .refl w
  | cons operation rest ih =>
      have hcleared : Follows w { w with reports := [] } := .aside rfl (Nat.le_refl _)
      exact (hcleared.trans (follows_execute w.depth operation _)).trans (ih (w.after operation))

/-- An instance that the supplier of a bean makes while the bean is fetched. -/
def Fresh (build : Build) (name : String) (w : World) (i : Instance) : Prop :=
  ∃ bean supplier v w', w.container.definition? name = some (bean, supplier) ∧
    build (supplier (w.container.calls name + 1)) (w.entering name) = (.ok v, w') ∧
    i = (w'.allocate v).1 ∧ w.nextObject ≤ i.id

theorem getBean_eq_ok {build : Build} (hbuild : ∀ program w, Follows w (build program w).2)
    (h : getBean build name w = (.ok i, w')) :
    w.container.cached? name = some i ∧ w' = w ∨
      w.container.cached? name = none ∧ Fresh build name w i ∧ i.id < w'.nextObject := by
  rcases getBean_cases build name w with ⟨j, hcached, heq⟩ | ⟨hcached, ⟨-, heq⟩ | ⟨bean, supplier,
    hdefinition, ⟨-, heq⟩ | ⟨cause, w'', hresult, heq⟩ | ⟨v, w'', hresult, heq⟩⟩⟩ <;>
    cases heq.symm.trans h
  · exact .inl ⟨hcached, rfl⟩
  · have hentered := (Follows.entering w name).trans (hbuild (supplier (w.container.calls name + 1)) _)
    obtain ⟨l, hl⟩ := hentered.of_eq hresult
    exact .inr ⟨hcached, ⟨bean, supplier, v, w'', hdefinition, hresult, rfl, hl.nextObject_le⟩,
      Nat.lt_succ_self _⟩

section Prototype

variable {build : Build} (hbuild : ∀ program w, Follows w (build program w).2) {limit : Nat}
  (h : (empty limit).Changes l w)

include hbuild h

theorem id_lt_of_getBean (hget : getBean build name w = (.ok i, w')) : i.id < w'.nextObject := by
  rcases getBean_eq_ok hbuild hget with ⟨hcached, rfl⟩ | ⟨-, -, hid⟩
  · exact h.id_lt_nextObject rfl hcached
  · exact hid

variable (hname : w.container.isSingleton name = .ok false)

include hname

theorem getBean_registered {j : Instance} (hget : getBean build name w = (.ok i, w'))
    (hregistered : registeredAfter name l = some j) : i = j := by
  rw [← h.cached?_eq_registeredAfter rfl (not_shares hname)] at hregistered
  rcases getBean_eq_ok hbuild hget with ⟨hcached, -⟩ | ⟨hcached, -, -⟩
  · exact Option.some.inj (hcached.symm.trans hregistered)
  · cases hcached.symm.trans hregistered

theorem getBean_fresh_iff (hget : getBean build name w = (.ok i, w')) :
    Fresh build name w i ↔ registeredAfter name l = none := by
  rw [← h.cached?_eq_registeredAfter rfl (not_shares hname)]
  rcases getBean_eq_ok hbuild hget with ⟨hcached, -⟩ | ⟨hcached, hfresh, -⟩
  · refine iff_of_false ?_ (by simp [hcached])
    rintro ⟨bean, supplier, v, w'', -, -, -, hid⟩
    exact absurd (h.id_lt_nextObject rfl hcached) (Nat.not_lt_of_le hid)
  · exact iff_of_true hfresh hcached

/-- An instance that was there before is fetched again only if it is registered. -/
theorem getBean_eq_iff {j : Instance} (hget : getBean build name w = (.ok j, w'))
    (hbefore : i.id < w.nextObject) : i = j ↔ registeredAfter name l = some i := by
  constructor
  · rintro rfl
    cases hregistered : registeredAfter name l with
    | none =>
        obtain ⟨-, -, -, -, -, -, -, hid⟩ := (getBean_fresh_iff hbuild h hname hget).2 hregistered
        exact absurd hbefore (Nat.not_lt_of_le hid)
    | some j => rw [getBean_registered hbuild h hname hget hregistered]
  · exact fun hregistered => (getBean_registered hbuild h hname hget hregistered).symm

end Prototype

theorem getInstance_bean_eq_ok {build : Build} {cell : Nat} {order : Int} {plain : Bool} :
    getInstance build (.bean cell name order plain) w = (.ok i, w') ↔
      getBean build name w = (.ok i, w') := by
  rw [getInstance]
  split <;> simp [*]

/-- Of two answers of a factory, the second is the first again exactly if this one is registered
under the name when the second is fetched. -/
def RepeatsRegistered (limit : Nat) (f : Factory) (name : String) (start : World) : Prop :=
  ∀ depth w i w', Follows start w → getInstance (Program.run (execute depth)) f w = (.ok i, w') →
    ∀ depth' l u j u', Follows w' u → (empty limit).Changes l u →
      getInstance (Program.run (execute depth')) f u = (.ok j, u') →
      (i = j ↔ registeredAfter name l = some i)

theorem repeatsRegistered_bean {limit cell : Nat} {order : Int} {plain : Bool}
    (hstart : (empty limit).Changes l start) (hname : start.container.isSingleton name = .ok false) :
    RepeatsRegistered limit (.bean cell name order plain) name start := by
  intro depth w i w' ⟨m, hw⟩ hfirst depth' m' u j u' ⟨k, hu⟩ hchanges hsecond
  rw [getInstance_bean_eq_ok] at hfirst hsecond
  have hbuild := follows_run (follows_execute depth)
  have hlt : i.id < w'.nextObject := id_lt_of_getBean hbuild (hstart.trans hw) hfirst
  obtain ⟨n, hfetched⟩ := (follows_getBean hbuild name w).of_eq hfirst
  -- a definition is never replaced, so the second answer is that of a prototype too
  have hstill := (hw.trans (hfetched.trans hu)).isSingleton hname
  exact getBean_eq_iff (follows_run (follows_execute depth')) hchanges hstill hsecond
    (Nat.lt_of_lt_of_le hlt hu.nextObject_le)

theorem managedFactory_of_prototype (hname : w.container.isSingleton name = .ok false) (plain : Bool) :
    ∃ cell order, managedFactory name plain w = (.ok (.bean cell name order plain), w.newCell.2) := by
  simp [managedFactory, hname]

/-- A prototype bean is made anew whenever it is fetched, unless an instance has been registered under
its name and not destroyed since: then this one is what everyone gets, also from a factory that was
made for the prototype. -/
theorem prototype_fresh_iff_unregistered (limit : Nat) :
    (∀ operations : List Operation, Follows (empty limit) (operations.foldl after (empty limit))) ∧
      ∀ l w name, (empty limit).Changes l w → w.container.isSingleton name = .ok false →
        (∀ depth i w', getBean (Program.run (execute depth)) name w = (.ok i, w') →
          (Fresh (Program.run (execute depth)) name w i ↔ registeredAfter name l = none) ∧
          ∀ j, registeredAfter name l = some j → i = j) ∧
        ∀ depth id plain, ∃ cell order,
          execute (depth + 1) (.newPrototype id name plain) w =
            w.newCell.2.addFactory id (.bean cell name order plain) false ∧
          RepeatsRegistered limit (.bean cell name order plain) name w.newCell.2 := by
  refine ⟨fun operations => follows_after operations _, fun l w name h hname => ⟨?_, ?_⟩⟩
  · intro depth i w' hget
    have hbuild := follows_run (follows_execute depth)
    exact ⟨getBean_fresh_iff hbuild h hname hget, fun j => getBean_registered hbuild h hname hget⟩
  · intro depth id plain
    obtain ⟨cell, order, hfactory⟩ := managedFactory_of_prototype hname plain
    have hcell : Changes w [] w.newCell.2 := .aside .none rfl rfl (Nat.le_refl _)
    refine ⟨cell, order, ?_, repeatsRegistered_bean (h.trans hcell) (hcell.isSingleton hname)⟩
    simp only [execute, perform, hname, hfactory]

/-- A prototype and an instance that stands in its way. -/
def connected : World :=
  [.define ⟨"conn", "String", .prototype, none⟩ fun n => .done (.ok (.text (Program.label "conn" n))),
    .register "conn" (.text "shared")].foldl after (empty 1)

theorem conn_shared_until_destroyed :
    (connected.container.isSingleton "conn" = .ok false ∧ ∃ l, (empty 1).Changes l connected ∧
      registeredAfter "conn" l = some ⟨0, .text "shared"⟩) ∧
    (∃ w, getBean (Program.run (execute 1)) "conn" connected = (.ok ⟨0, .text "shared"⟩, w) ∧
      ¬ Fresh (Program.run (execute 1)) "conn" connected ⟨0, .text "shared"⟩) ∧
    (∃ cell order i w j u,
      getInstance (Program.run (execute 1)) (.bean cell "conn" order true) connected.newCell.2 =
        (.ok i, w) ∧
      getInstance (Program.run (execute 1)) (.bean cell "conn" order true) w = (.ok j, u) ∧ i = j) ∧
    ∃ i w, getBean (Program.run (execute 1)) "conn" (connected.after .destroy) = (.ok i, w) ∧
      Fresh (Program.run (execute 1)) "conn" (connected.after .destroy) i := by
  have hchanges : (empty 1).Changes [.registered "conn" ⟨0, .text "shared"⟩,
      .defined ⟨"conn", "String", .prototype, none⟩] connected :=
    .registered (.defined .none rfl) (.text "shared") rfl
  have hlater : (empty 1).Changes _ connected.newCell.2 := hchanges.aside rfl rfl (Nat.le_refl _)
  obtain ⟨hbean, hfactory⟩ := (prototype_fresh_iff_unregistered 1).2 _ connected "conn" hchanges rfl
  obtain ⟨hdestroyed, -⟩ :=
    (prototype_fresh_iff_unregistered 1).2 _ (connected.after .destroy) "conn" hchanges.destroyed rfl
  obtain ⟨cell, order, -, hrepeats⟩ := hfactory 1 "source" true
  refine ⟨⟨rfl, _, hchanges, rfl⟩, ⟨_, rfl, fun hfresh => ?_⟩, ⟨cell, order, _, _, _, _, rfl, rfl, ?_⟩,
    _, _, rfl, (hdestroyed 1 _ _ rfl).1.2 rfl⟩
  · cases (hbean 1 _ _ rfl).1.1 hfresh
  · exact (hrepeats 1 _ _ _ (.refl _) rfl 1 _ _ _ _ (.refl _) hlater rfl).2 rfl

end World

end Weaving
