import Weaving.Lifecycle.Execution

namespace Weaving

def Event.isDiscovery : Event → Bool
  | .discovery _ => true
  | _ => false

mutual

/-- Neither the program itself nor one that it defines asks a discoverer, whatever is answered. -/
def Program.IsTacit : Program → Prop
  | .done _ => True
  | .call operation next => operation.IsTacit ∧ ∀ outcome, (next outcome).IsTacit
  | .report _ rest => rest.IsTacit
  | .record e rest => e.isDiscovery = false ∧ rest.IsTacit

def Operation.IsTacit : Operation → Prop
  | .define _ supplier => ∀ serial, (supplier serial).IsTacit
  | .newSimple _ _ _ constructor => ∀ serial, (constructor serial).IsTacit
  | _ => True

end

theorem Program.isTacit_construction (name : String) (failures : List Nat) (message : String) (serial : Nat) :
    (construction name failures message serial).IsTacit := ⟨rfl, trivial⟩

def Factory.IsTacit : Factory → Prop
  | .simple _ _ _ _ constructor => ∀ serial, (constructor serial).IsTacit
  | .lazy _ delegate | .perTarget _ delegate => delegate.IsTacit
  | .singleton _ _ _ | .bean _ _ _ _ => True

namespace World

def asked (w : World) : List Event := w.trace.filter Event.isDiscovery

/-- What makes the beans and the aspects of a world asks no discoverer. -/
structure IsTacit (w : World) : Prop where
  definitions : ∀ d ∈ w.container.definitions, ∀ serial, (d.2 serial).IsTacit
  factories : ∀ named ∈ w.factories, named.2.factory.IsTacit

theorem isTacit_empty (depth : Nat) : (empty depth).IsTacit :=
  ⟨fun _ hd => absurd hd List.not_mem_nil, fun _ hf => absurd hf List.not_mem_nil⟩

/-- On the way to another world no discoverer is asked, if what makes the objects asks none. -/
def Silent (w w' : World) : Prop := w.IsTacit → w'.IsTacit ∧ w'.asked = w.asked

variable {w w' w'' : World}

namespace Silent

theorem refl (w : World) : Silent w w := fun hw => ⟨hw, rfl⟩

theorem trans (h : Silent w w') (h' : Silent w' w'') : Silent w w'' := by
  intro hw
  obtain ⟨hw', hasked⟩ := h hw
  obtain ⟨hw'', hasked'⟩ := h' hw'
  exact ⟨hw'', hasked'.trans hasked⟩

theorem aside (hdefinitions : w'.container.definitions = w.container.definitions)
    (hfactories : w'.factories = w.factories) (htrace : w'.trace = w.trace) : Silent w w' := by
  intro hw
  refine ⟨⟨?_, ?_⟩, congrArg (List.filter Event.isDiscovery) htrace⟩
  · rw [hdefinitions]
    exact hw.definitions
  · rw [hfactories]
    exact hw.factories

theorem record (w : World) {e : Event} (he : e.isDiscovery = false) : Silent w (w.record e) :=
  fun hw => ⟨⟨hw.definitions, hw.factories⟩, List.filter_cons_of_neg (by simp [he])⟩

theorem nameFactory (w : World) (id : String) {handle : Handle} (h : handle.factory.IsTacit) :
    Silent w (w.nameFactory id handle) := by
  refine fun hw => ⟨⟨hw.definitions, ?_⟩, rfl⟩
  intro named hnamed
  rcases List.mem_cons.1 hnamed with rfl | hnamed
  · exact h
  · exact hw.factories named (List.mem_filter.1 hnamed).1

theorem of_eq {α : Type} {x : α × World} {a : α} (h : Silent w x.2) (heq : x = (a, w')) : Silent w w' := by
  rw [heq] at h
  exact h

end Silent

section Build

variable {build : Build} (hbuild : ∀ (program : Program) w, program.IsTacit → Silent w (build program w).2)

include hbuild

theorem silent_getBean (name : String) (w : World) : Silent w (getBean build name w).2 := by
  intro hw
  rcases getBean_cases build name w with
    ⟨i, -, h⟩ | ⟨-, ⟨-, h⟩ | ⟨bean, supplier, hdefinition, hcases⟩⟩
  · rw [h]
    exact Silent.refl w hw
  · rw [h]
    exact Silent.refl w hw
  have hsupplier := hw.definitions _ (List.mem_of_find?_eq_some hdefinition)
  have hentering : Silent w (w.entering name) := .aside rfl rfl rfl
  have hentered := hentering.trans (hbuild _ _ (hsupplier (w.container.calls name + 1)))
  rcases hcases with ⟨-, h⟩ | ⟨cause, w', hresult, h⟩ | ⟨v, w', hresult, h⟩ <;> rw [h]
  · exact Silent.refl w hw
  · have hleaving : Silent w' (w'.leaving name) := .aside rfl rfl rfl
    exact ((hentered.of_eq hresult).trans hleaving) hw
  · have hfinishing : Silent w' (w'.finishing bean.scope name v).2 := by
      refine .aside ?_ rfl rfl
      rw [finishing_container]
      cases bean.scope <;> rfl
    exact ((hentered.of_eq hresult).trans hfinishing) hw

theorem silent_getInstance {f : Factory} (hf : f.IsTacit) (w : World) :
    Silent w (getInstance build f w).2 := by
  induction f generalizing w with
  | singleton | perTarget => exact .refl w
  | simple cell counter name order constructor =>
      have hcounted : Silent w { w with serials := change w.serials counter (w.serials counter + 1) } :=
        .aside rfl rfl rfl
      have hmade := hcounted.trans (hbuild _ _ (hf (w.serials counter + 1)))
      simp only [getInstance]
      split
      · next hresult => exact hmade.of_eq hresult
      · next hresult => exact (hmade.of_eq hresult).trans (.aside rfl rfl rfl)
  | bean cell name order plain =>
      have hbean := silent_getBean hbuild name w
      simp only [getInstance]
      split <;> next hresult => exact hbean.of_eq hresult
  | lazy cell delegate ih =>
      have hdelegate := ih hf w
      simp only [getInstance]
      split
      · exact .refl w
      · split
        · next hresult => exact hdelegate.of_eq hresult
        · next hresult =>
            split
            · exact hdelegate.of_eq hresult
            · exact (hdelegate.of_eq hresult).trans (.aside rfl rfl rfl)

theorem silent_create (cell : Nat) {delegate : Factory} (hdelegate : delegate.IsTacit) (t : Target)
    (w : World) : Silent w (getInstanceFor.create build cell delegate t w).2 := by
  have hmade := silent_getInstance hbuild hdelegate w
  rw [getInstanceFor.create]
  split
  · next hresult => exact hmade.of_eq hresult
  · next hresult =>
      dsimp only
      split <;> exact (hmade.of_eq hresult).trans (.aside rfl rfl rfl)

theorem silent_getInstanceFor {f : Factory} (hf : f.IsTacit) (target : Option Target) (w : World) :
    Silent w (getInstanceFor build f target w).2 := by
  rw [getInstanceFor.eq_def]
  split
  · next cell delegate t =>
      have hdelegate : delegate.IsTacit := hf
      have hcreate := silent_create hbuild cell hdelegate t w
      split
      · split
        · exact .refl w
        · exact hcreate
      · exact hcreate
  · exact silent_getInstance hbuild hf w

end Build

theorem silent_managedFactory (bean : String) (plain : Bool) (w : World) :
    Silent w (managedFactory bean plain w).2 := by
  rw [managedFactory]
  split
  · exact .refl w
  · dsimp only
    split <;> exact .aside rfl rfl rfl

theorem isTacit_of_managedFactory {bean : String} {plain : Bool} {f : Factory}
    (h : managedFactory bean plain w = (.ok f, w')) : f.IsTacit := by
  rw [managedFactory] at h
  split at h
  · cases h
  · dsimp only at h
    split at h <;> cases h <;> exact trivial

theorem silent_addManaged (id bean : String) (plain managed : Bool) (w : World) :
    Silent w (match managedFactory bean plain w with
      | (.error e, w) => (Outcome.engine e, w)
      | (.ok f, w) => w.addFactory id f managed).2 := by
  have hmanaged := silent_managedFactory bean plain w
  split
  · next heq => exact hmanaged.of_eq heq
  · next heq => exact (hmanaged.of_eq heq).trans (.nameFactory _ id (isTacit_of_managedFactory heq))

theorem silent_withFactory {f : Handle → Outcome × World} (id : String)
    (h : ∀ handle, handle.factory.IsTacit → Silent w (f handle).2) : Silent w (w.withFactory id f).2 := by
  rw [withFactory]
  split
  · next handle hlookup => exact fun hw => h handle (hw.factories _ (mem_of_lookup hlookup)) hw
  · exact .refl w

theorem silent_perform {build : Build}
    (hbuild : ∀ (program : Program) w, program.IsTacit → Silent w (build program w).2) {operation : Operation}
    (h : operation.IsTacit) (w : World) : Silent w (w.perform build operation).2 := by
  cases operation with
  | define bean supplier =>
      rw [perform]
      split
      · exact .refl w
      · next c hdefine =>
          refine fun hw => ⟨⟨?_, hw.factories⟩, rfl⟩
          rw [Container.define_eq_ok hdefine]
          refine List.forall_mem_append.2 ⟨hw.definitions, ?_⟩
          exact List.forall_mem_singleton.2 h
  | register name v =>
      rw [perform]
      dsimp only
      split
      · exact .aside rfl rfl rfl
      · next hregister =>
          refine .aside ?_ rfl rfl
          rw [(Container.register_eq_ok hregister).2]
          rfl
  | bean name =>
      have hbean := silent_getBean hbuild name w
      rw [perform]
      split <;> next hresult => exact hbean.of_eq hresult
  | beanInfo | beanNames | containerLock => exact .refl w
  | destroy | target | drop => exact .aside rfl rfl rfl
  | newSingleton id name v order =>
      have hallocate : Silent w (w.allocate v).2 := .aside rfl rfl rfl
      exact hallocate.trans (.nameFactory _ id trivial)
  | newSimple id name order constructor =>
      have hcell : Silent w w.newCell.2 := .aside rfl rfl rfl
      exact hcell.trans (.nameFactory _ id h)
  | newBean id bean order plain =>
      have hcell : Silent w w.newCell.2 := .aside rfl rfl rfl
      exact hcell.trans (.nameFactory _ id trivial)
  | newPrototype id bean plain =>
      rw [perform]
      split
      · exact .refl w
      · exact silent_addManaged id bean plain false w
  | newManaged id bean plain => exact silent_addManaged id bean plain true w
  | newLazy id | newPerTarget id =>
      refine silent_withFactory _ fun handle hhandle => ?_
      have hcell : Silent w w.newCell.2 := .aside rfl rfl rfl
      exact hcell.trans (.nameFactory _ id hhandle)
  | get id => exact silent_withFactory id fun handle hhandle => silent_getInstance hbuild hhandle w
  | getFor id target =>
      refine silent_withFactory id fun handle hhandle => ?_
      split
      · exact silent_getInstanceFor hbuild hhandle none w
      · next t _ =>
          have hheld : Silent w { w with held := t :: w.held } := .aside rfl rfl rfl
          exact (hheld.trans (silent_getInstanceFor hbuild hhandle (some t) _)).trans (.aside rfl rfl rfl)
  | lock | info => exact silent_withFactory _ fun _ _ => .refl w
  | purge id =>
      refine silent_withFactory id fun handle _ => ?_
      split
      · exact .aside rfl rfl rfl
      · exact .refl w
  | «alias» name existing =>
      rw [perform]
      split
      · exact .refl w
      · exact .aside rfl rfl rfl

theorem silent_run {execute : Operation → World → Outcome × World}
    (h : ∀ (operation : Operation) w, operation.IsTacit → Silent w (execute operation w).2) :
    ∀ (program : Program) (w : World), program.IsTacit → Silent w (program.run execute w).2
  | .done _, w, _ => .refl w
  | .call operation next, w, ⟨hoperation, hnext⟩ =>
      (h operation w hoperation).trans (silent_run h (next _) _ (hnext _))
  | .report outcome rest, w, hrest => by
      have hreported : Silent w (w.report outcome) := .aside rfl rfl rfl
      exact hreported.trans (silent_run h rest _ hrest)
  | .record e rest, w, ⟨he, hrest⟩ => (Silent.record w he).trans (silent_run h rest _ hrest)

theorem silent_execute (depth : Nat) (operation : Operation) (w : World) (h : operation.IsTacit) :
    Silent w (execute depth operation w).2 := by
  induction depth generalizing operation w with
  | zero => exact .refl w
  | succ depth ih => exact silent_perform (silent_run ih) h w

theorem silent_build (program : Program) (w : World) (h : program.IsTacit) :
    Silent w (build program w).2 :=
  silent_run (silent_execute w.depth) program w h

end World

end Weaving
