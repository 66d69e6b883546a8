import Mathlib.Data.List.Nodup
import Weaving.Proofs.CallHistory
import Weaving.Proofs.NameLists

namespace Weaving.World

/-- A target that has a name or on which a call is made. -/
def Alive (w : World) (t : Target) : Prop := t ∈ w.held ∨ ∃ name, (name, t) ∈ w.targets

/-- An object and its address, as a target of the world or as one that a factory remembers. -/
inductive Located (w : World) : Nat → Nat → Prop
  | target {t : Target} (h : w.Alive t) : Located w t.id t.address
  | entry {cell : Nat} {e : Entry} (h : e ∈ w.entries cell) : Located w e.target e.address

/-- The cell of a per-target factory that has a name. -/
def HasCell (w : World) (cell : Nat) : Prop :=
  ∃ named ∈ w.factories, ∃ delegate, named.2.factory = .perTarget cell delegate

/-- Objects are told apart by their addresses, and no factory remembers two at one address. -/
structure Sound (w : World) : Prop where
  located_iff {id id' address address' : Nat} (h : w.Located id address) (h' : w.Located id' address') :
    id = id' ↔ address = address'
  located_lt {id address : Nat} (h : w.Located id address) : id < w.nextObject
  entries_eq_nil {cell : Nat} (h : w.nextCell ≤ cell) : w.entries cell = []
  cell_lt {cell : Nat} (h : w.HasCell cell) : cell < w.nextCell
  nodup (cell : Nat) : ((w.entries cell).map (·.address)).Nodup

/-- No target is added, and of the entries only those of dead targets may be dropped. -/
structure Narrows (w w' : World) : Prop where
  alive {t : Target} (h : w'.Alive t) : w.Alive t
  sublist (cell : Nat) : (w'.entries cell).Sublist (w.entries cell)
  kept {cell : Nat} {e : Entry} (h : e ∈ w.entries cell) (hlive : w'.isLive e.target = true) :
    e ∈ w'.entries cell
  hasCell {cell : Nat} (h : w'.HasCell cell) : w.HasCell cell ∨ cell < w'.nextCell
  nextCell_le : w.nextCell ≤ w'.nextCell
  nextObject_le : w.nextObject ≤ w'.nextObject

/-- Neither a target nor a factory comes or goes. -/
structure Quiet (w w' : World) : Prop where
  depth_eq : w'.depth = w.depth
  factories_eq : w'.factories = w.factories
  targets_eq : w'.targets = w.targets
  held_eq : w'.held = w.held
  entries_eq : w'.entries = w.entries
  nextCell_le : w.nextCell ≤ w'.nextCell
  nextObject_le : w.nextObject ≤ w'.nextObject

/-- No call on a target begins or ends. -/
structure Framed (w w' : World) : Prop where
  held_eq : w'.held = w.held
  depth_eq : w'.depth = w.depth
  nextCell_le : w.nextCell ≤ w'.nextCell

def withEntries (w : World) (cell : Nat) (entries : List Entry) : World :=
  { w with entries := change w.entries cell entries }

/-- A world in which a factory has an aspect for a target, and no entries of dead targets. -/
def remembering (w : World) (cell : Nat) (t : Target) (i : Instance) : World :=
  w.withEntries cell (⟨t.id, t.address, i⟩ :: w.liveEntries cell)

variable {u v w w' : World} {t : Target} {id cell : Nat}

theorem isLive_iff : w.isLive id = true ↔ ∃ t, w.Alive t ∧ t.id = id := by
  simp only [isLive, Bool.or_eq_true, List.any_eq_true, beq_iff_eq, Alive, Prod.exists]
  constructor
  · rintro (⟨name, t, ht, hid⟩ | ⟨t, ht, hid⟩)
    · exact ⟨t, .inr ⟨name, ht⟩, hid⟩
    · exact ⟨t, .inl ht, hid⟩
  · rintro ⟨t, ht | ⟨name, ht⟩, hid⟩
    · exact .inr ⟨t, ht, hid⟩
    · exact .inl ⟨name, t, ht, hid⟩

theorem Alive.isLive (h : w.Alive t) : w.isLive t.id = true := isLive_iff.2 ⟨t, h, rfl⟩

theorem alive_holding_self (w : World) (t : Target) : (w.holding t).Alive t := .inl List.mem_cons_self

theorem entries_withEntries_self (w : World) (cell : Nat) (entries : List Entry) :
    (w.withEntries cell entries).entries cell = entries := if_pos rfl

theorem entries_withEntries_of_ne {other : Nat} (h : other ≠ cell) (entries : List Entry) :
    (w.withEntries cell entries).entries other = w.entries other := if_neg h

theorem mem_liveEntries {e : Entry} :
    e ∈ w.liveEntries cell ↔ e ∈ w.entries cell ∧ w.isLive e.target = true := List.mem_filter

theorem Framed.refl (w : World) : Framed w w := ⟨rfl, rfl, Nat.le_refl _⟩

theorem Framed.trans (h : Framed u v) (h' : Framed v w) : Framed u w :=
  ⟨h'.held_eq.trans h.held_eq, h'.depth_eq.trans h.depth_eq, Nat.le_trans h.nextCell_le h'.nextCell_le⟩

namespace Quiet

theorem refl (w : World) : Quiet w w := ⟨rfl, rfl, rfl, rfl, rfl, Nat.le_refl _, Nat.le_refl _⟩

theorem of_container (w : World) (c : Container) : Quiet w { w with container := c } :=
  ⟨rfl, rfl, rfl, rfl, rfl, Nat.le_refl _, Nat.le_refl _⟩

theorem trans (h : Quiet u v) (h' : Quiet v w) : Quiet u w where
  depth_eq := h'.depth_eq.trans h.depth_eq
  factories_eq := h'.factories_eq.trans h.factories_eq
  targets_eq := h'.targets_eq.trans h.targets_eq
  held_eq := h'.held_eq.trans h.held_eq
  entries_eq := h'.entries_eq.trans h.entries_eq
  nextCell_le := Nat.le_trans h.nextCell_le h'.nextCell_le
  nextObject_le := Nat.le_trans h.nextObject_le h'.nextObject_le

theorem framed (h : Quiet w w') : Framed w w' := ⟨h.held_eq, h.depth_eq, h.nextCell_le⟩

theorem alive_iff (h : Quiet w w') : w'.Alive t ↔ w.Alive t := by
  rw [Alive, Alive, h.held_eq, h.targets_eq]

theorem narrows (h : Quiet w w') : Narrows w w' where
  alive := h.alive_iff.1
  sublist cell := by rw [h.entries_eq]
  kept he _ := by rwa [h.entries_eq]
  hasCell hcell := .inl (by rwa [HasCell, h.factories_eq] at hcell)
  nextCell_le := h.nextCell_le
  nextObject_le := h.nextObject_le

end Quiet

namespace Narrows

theorem refl (w : World) : Narrows w w := (Quiet.refl w).narrows

theorem isLive (h : Narrows w w') (hlive : w'.isLive id = true) : w.isLive id = true := by
  obtain ⟨t, ht, hid⟩ := isLive_iff.1 hlive
  exact isLive_iff.2 ⟨t, h.alive ht, hid⟩

theorem trans (h : Narrows u v) (h' : Narrows v w) : Narrows u w where
  alive ht := h.alive (h'.alive ht)
  sublist cell := (h'.sublist cell).trans (h.sublist cell)
  kept he hlive := h'.kept (h.kept he (h'.isLive hlive)) hlive
  hasCell hcell := by
    rcases h'.hasCell hcell with hcell | hlt
    · exact (h.hasCell hcell).imp_right fun hlt => Nat.lt_of_lt_of_le hlt h'.nextCell_le
    · exact .inr hlt
  nextCell_le := Nat.le_trans h.nextCell_le h'.nextCell_le
  nextObject_le := Nat.le_trans h.nextObject_le h'.nextObject_le

theorem located (h : Narrows w w') {id address : Nat} (hlocated : w'.Located id address) :
    w.Located id address := by
  cases hlocated with
  | target ht => exact .target (h.alive ht)
  | entry he => exact .entry ((h.sublist _).subset he)

/-- Fewer targets than before, with everything else as it was. -/
theorem of_alive {targets : List (String × Target)} {held : List Target}
    (h : ∀ t, Alive { w with targets := targets, held := held } t → w.Alive t) :
    Narrows w { w with targets := targets, held := held } where
  alive := h _
  sublist _ := List.Sublist.refl _
  kept he _ := he
  hasCell := .inl
  nextCell_le := Nat.le_refl _
  nextObject_le := Nat.le_refl _

theorem dropTarget (w : World) (name : String) : Narrows w (w.dropTarget name) :=
  of_alive fun _ ht => ht.imp_right fun ⟨other, hother⟩ => ⟨other, (List.mem_filter.1 hother).1⟩

theorem holding {name : String} (h : (name, t) ∈ w.targets) : Narrows w (w.holding t) := by
  refine of_alive fun t' ht => ?_
  rcases ht with ht | ht
  · rcases List.mem_cons.1 ht with rfl | ht
    · exact .inr ⟨name, h⟩
    · exact .inl ht
  · exact .inr ht

theorem release (w : World) (t : Target) : Narrows w { w with held := w.held.erase t } :=
  of_alive fun _ ht => ht.imp_left List.mem_of_mem_erase

theorem nameTarget (h : w.Alive t) (name : String) : Narrows w (w.nameTarget name t) := by
  refine of_alive fun t' ht => ?_
  rcases ht with ht | ⟨other, ht⟩
  · exact .inl ht
  · rcases List.mem_cons.1 ht with heq | ht
    · cases heq
      exact h
    · exact (dropTarget w name).alive (.inr ⟨other, ht⟩)

theorem purge (w : World) (cell : Nat) : Narrows w (w.withEntries cell (w.liveEntries cell)) where
  alive := fun ht => ht
  sublist other := by
    by_cases hcell : other = cell
    · subst hcell
      rw [entries_withEntries_self]
      exact List.filter_sublist
    · rw [entries_withEntries_of_ne hcell]
  kept {other e} he hlive := by
    by_cases hcell : other = cell
    · subst hcell
      rw [entries_withEntries_self]
      exact mem_liveEntries.2 ⟨he, hlive⟩
    · rwa [entries_withEntries_of_ne hcell]
  hasCell := .inl
  nextCell_le := Nat.le_refl _
  nextObject_le := Nat.le_refl _

theorem nameFactory (w : World) (id : String) (h : Handle)
    (hcell : ∀ cell delegate, h.factory = .perTarget cell delegate → cell < w.nextCell) :
    Narrows w (w.nameFactory id h) where
  alive := fun ht => ht
  sublist _ := List.Sublist.refl _
  kept he _ := he
  hasCell := by
    rintro cell ⟨named, hnamed, delegate, hfactory⟩
    rcases List.mem_cons.1 hnamed with rfl | hnamed
    · exact .inr (hcell cell delegate hfactory)
    · exact .inl ⟨named, (List.mem_filter.1 hnamed).1, delegate, hfactory⟩
  nextCell_le := Nat.le_refl _
  nextObject_le := Nat.le_refl _

end Narrows

namespace Sound

theorem empty (limit : Nat) (allocator : Allocator) :
    Sound { World.empty limit with allocator := allocator } := by
  have hnone : ∀ id address, ¬ Located { World.empty limit with allocator := allocator } id address := by
    rintro id address (⟨ht | ⟨name, ht⟩⟩ | he)
    · cases ht
    · cases ht
    · cases he
  refine ⟨fun h => absurd h (hnone _ _), fun h => absurd h (hnone _ _), fun _ => rfl, ?_, fun _ => List.nodup_nil⟩
  rintro cell ⟨named, hnamed, -⟩
  cases hnamed

theorem narrows (h : Sound w) (hnarrows : Narrows w w') : Sound w' where
  located_iff hid hid' := h.located_iff (hnarrows.located hid) (hnarrows.located hid')
  located_lt hid := Nat.lt_of_lt_of_le (h.located_lt (hnarrows.located hid)) hnarrows.nextObject_le
  entries_eq_nil {cell} hcell := by
    have hnil := hnarrows.sublist cell
    rw [h.entries_eq_nil (Nat.le_trans hnarrows.nextCell_le hcell)] at hnil
    exact List.sublist_nil.1 hnil
  cell_lt hcell := (hnarrows.hasCell hcell).elim
    (fun hcell => Nat.lt_of_lt_of_le (h.cell_lt hcell) hnarrows.nextCell_le) (fun hlt => hlt)
  nodup cell := (h.nodup cell).sublist ((hnarrows.sublist cell).map _)

/-- The addresses that are not free are those of the objects that the world knows. -/
theorem mem_addresses {id address : Nat} (h : Sound w) (hlocated : w.Located id address) :
    address ∈ w.addresses := by
  simp only [addresses, List.mem_append, List.mem_map, List.mem_flatMap, List.mem_range]
  cases hlocated with
  | target ht =>
      rcases ht with ht | ⟨name, ht⟩
      · exact .inl (.inr ⟨_, ht, rfl⟩)
      · exact .inl (.inl ⟨_, ht, rfl⟩)
  | @entry cell e he =>
      refine .inr ⟨cell, Nat.lt_of_not_le fun hle => ?_, e, he, rfl⟩
      rw [h.entries_eq_nil hle] at he
      cases he

section Allocate

variable (name : String) (value : Value)

theorem located_allocate {id address : Nat}
    (h : Located ((w.allocateTarget value).2.nameTarget name (w.allocateTarget value).1) id address) :
    w.Located id address ∨ id = w.nextObject ∧ address = w.allocator.place w.nextObject w.addresses := by
  cases h with
  | target ht =>
      rcases ht with ht | ⟨other, ht⟩
      · exact .inl (.target (.inl ht))
      · rcases List.mem_cons.1 ht with heq | ht
        · cases heq
          exact .inr ⟨rfl, rfl⟩
        · exact .inl (.target (.inr ⟨other, (List.mem_filter.1 ht).1⟩))
  | entry he => exact .inl (.entry he)

theorem allocate (h : Sound w) :
    Sound ((w.allocateTarget value).2.nameTarget name (w.allocateTarget value).1) where
  located_iff hid hid' := by
    rcases located_allocate name value hid with hid | ⟨rfl, rfl⟩ <;>
      rcases located_allocate name value hid' with hid' | ⟨rfl, rfl⟩
    · exact h.located_iff hid hid'
    · refine iff_of_false (Nat.ne_of_lt (h.located_lt hid)) ?_
      rintro rfl
      exact w.allocator.place_notMem _ _ (h.mem_addresses hid)
    · refine iff_of_false (Nat.ne_of_gt (h.located_lt hid')) ?_
      rintro rfl
      exact w.allocator.place_notMem _ _ (h.mem_addresses hid')
    · exact iff_of_true rfl rfl
  located_lt hid := by
    rcases located_allocate name value hid with hid | ⟨rfl, -⟩
    · exact Nat.lt_succ_of_lt (h.located_lt hid)
    · exact Nat.lt_succ_self _
  entries_eq_nil := h.entries_eq_nil
  cell_lt := h.cell_lt
  nodup := h.nodup

end Allocate

end Sound


section Entries

variable {entries : List Entry} {address : Nat} {e : Entry}

theorem entryAt?_eq_none : entryAt? entries address = none ↔ ∀ e ∈ entries, e.address ≠ address := by
  simp [entryAt?]

theorem entryAt?_eq_some (h : entryAt? entries address = some e) : e ∈ entries ∧ e.address = address :=
  ⟨List.mem_of_find?_eq_some h, by simpa using List.find?_some h⟩

theorem keptFor?_eq_some (h : w.keptFor? cell t = some e) : e ∈ w.entries cell ∧ e.address = t.address := by
  obtain ⟨hfound, -⟩ := Option.filter_eq_some_iff.1 h
  exact entryAt?_eq_some hfound

namespace Sound

theorem target_eq (h : Sound w) (ht : w.Alive t) (he : e ∈ w.entries cell) :
    e.target = t.id ↔ e.address = t.address := h.located_iff (.entry he) (.target ht)

theorem insert (h : Sound w) (ht : w.Alive t) (hcell : cell < w.nextCell)
    (hnew : entryAt? (w.liveEntries cell) t.address = none) (i : Instance) :
    Sound (w.remembering cell t i) := by
  have hlocated : ∀ {id address}, Located (w.remembering cell t i) id address → w.Located id address := by
    intro id address hid
    cases hid with
    | target ht' => exact .target ht'
    | @entry other e he =>
        by_cases hother : other = cell
        · subst hother
          rw [remembering, entries_withEntries_self] at he
          rcases List.mem_cons.1 he with rfl | he
          · exact .target ht
          · exact .entry (mem_liveEntries.1 he).1
        · rw [remembering, entries_withEntries_of_ne hother] at he
          exact .entry he
  refine ⟨fun hid hid' => h.located_iff (hlocated hid) (hlocated hid'), fun hid => h.located_lt (hlocated hid),
    fun {other} hother => ?_, h.cell_lt, fun other => ?_⟩
  · have hne : other ≠ cell := Nat.ne_of_gt (Nat.lt_of_lt_of_le hcell hother)
    rw [remembering, entries_withEntries_of_ne hne]
    exact h.entries_eq_nil hother
  · by_cases hother : other = cell
    · subst hother
      rw [remembering, entries_withEntries_self, List.map_cons, List.nodup_cons]
      refine ⟨fun hmem => ?_, (h.nodup other).sublist (List.filter_sublist.map _)⟩
      obtain ⟨e, he, haddress⟩ := List.mem_map.1 hmem
      exact entryAt?_eq_none.1 hnew e he haddress
    · rw [remembering, entries_withEntries_of_ne hother]
      exact h.nodup other

end Sound

end Entries

section Build

variable (build : Build)

theorem quiet_getBean (name : String) (w : World) :
    Quiet (resumed build (w.supplier? name) w) (getBean build name w).2 := by
  cases hprogram : w.supplier? name with
  | none =>
      rw [getBean_of_supplier?_none hprogram]
      exact .refl w
  | some start =>
      obtain ⟨program, u⟩ := start
      obtain ⟨hcached, hnew, rfl, bean, supplier, hdefinition, rfl⟩ := supplier?_eq_some hprogram
      cases hbuild : build (supplier (w.container.calls name + 1)) (w.entering name) with
      | mk result u =>
          simp only [resumed, hbuild]
          cases result with
          | error cause =>
              rw [getBean_of_error hcached hdefinition hnew hbuild]
              exact ⟨rfl, rfl, rfl, rfl, rfl, Nat.le_refl _, Nat.le_refl _⟩
          | ok v =>
              rw [getBean_of_ok hcached hdefinition hnew hbuild]
              exact ⟨rfl, rfl, rfl, rfl, rfl, Nat.le_refl _, Nat.le_succ _⟩

theorem quiet_getInstance (f : Factory) (w : World) :
    Quiet (resumed build (constructor? f w) w) (getInstance build f w).2 := by
  induction f with
  | singleton | perTarget => exact .refl w
  | simple cell counter name order constructor =>
      simp only [getInstance, constructor?, resumed]
      split <;> next hbuild =>
        rw [hbuild]
        exact ⟨rfl, rfl, rfl, rfl, rfl, Nat.le_refl _, by simp [allocate]⟩
  | bean cell name order plain =>
      have hbean := quiet_getBean build name w
      simp only [getInstance, constructor?]
      split <;> next heq =>
        rw [heq] at hbean
        exact hbean
  | lazy cell delegate ih =>
      simp only [getInstance, constructor?]
      cases hstored : w.stored cell with
      | some i => exact .refl w
      | none =>
          simp only [Option.isSome_none, Bool.false_eq_true, if_false]
          split <;> next heq =>
            rw [heq] at ih
            first
              | exact ih
              | split
                · exact ih
                · exact ih.trans ⟨rfl, rfl, rfl, rfl, rfl, Nat.le_refl _, Nat.le_refl _⟩

end Build


section Started

variable {program : Program} {f : Factory} {operation : Operation}

theorem quiet_of_supplier? {name : String} (h : w.supplier? name = some (program, u)) : Quiet w u := by
  obtain ⟨-, -, rfl, -⟩ := supplier?_eq_some h
  exact ⟨rfl, rfl, rfl, rfl, rfl, Nat.le_refl _, Nat.le_refl _⟩

theorem quiet_of_constructor? (h : constructor? f w = some (program, u)) : Quiet w u := by
  induction f with
  | singleton | perTarget => cases h
  | simple cell counter name order constructor =>
      cases h
      exact ⟨rfl, rfl, rfl, rfl, rfl, Nat.le_refl _, Nat.le_refl _⟩
  | bean cell name order plain => exact quiet_of_supplier? h
  | lazy cell delegate ih =>
      rw [constructor?] at h
      split at h
      · cases h
      · exact ih h

theorem quiet_of_constructorFor? {target : Option Target}
    (h : constructorFor? f target w = some (program, u)) : Quiet w u := by
  rw [constructorFor?.eq_def] at h
  split at h
  · split at h
    · cases h
    · exact quiet_of_constructor? h
  · exact quiet_of_constructor? h

theorem narrows_of_started? (h : w.started? operation = some (program, u)) : Narrows w u := by
  cases operation with
  | bean name => exact (quiet_of_supplier? h).narrows
  | get id =>
      obtain ⟨handle, -, hprogram⟩ := Option.bind_eq_some_iff.1 h
      exact (quiet_of_constructor? hprogram).narrows
  | getFor id target =>
      obtain ⟨handle, -, hprogram⟩ := Option.bind_eq_some_iff.1 h
      cases ht : target.bind (w.targets.lookup ·) with
      | none =>
          rw [ht] at hprogram
          exact (quiet_of_constructorFor? hprogram).narrows
      | some t =>
          rw [ht] at hprogram
          obtain ⟨name, -, hlookup⟩ := Option.bind_eq_some_iff.1 ht
          exact (Narrows.holding (mem_of_lookup hlookup)).trans (quiet_of_constructorFor? hprogram).narrows
  | _ => cases h

end Started


/-- The per-target factory and the target in a call that asks for the aspect of a target. -/
def askedFor? : Operation → World → Option (Nat × Factory × Target)
  | .getFor id target, w =>
    match w.factories.lookup id, target.bind (w.targets.lookup ·) with
    | some ⟨.perTarget cell delegate, _⟩, some t => some (cell, delegate, t)
    | _, _ => none
  | _, _ => none

section Operations

variable {operation : Operation}

theorem framed_resumed {build : Build} {start : Option (Program × World)}
    (hquiet : ∀ program u, start = some (program, u) → Quiet w u)
    (hframed : ∀ program u, start = some (program, u) → Framed u (build program u).2) :
    Framed w (resumed build start w) := by
  cases start with
  | none => exact .refl w
  | some start => exact (hquiet _ _ rfl).framed.trans (hframed _ _ rfl)

theorem narrows_resumed (build : Build) (start : Option (Program × World)) (h : Narrows w w') :
    Narrows (resumed build start w) (resumed build start w') := by
  cases start with
  | none => exact h
  | some start => exact .refl _

theorem Framed.release (h : Framed (w.holding t) v) : Framed w { v with held := v.held.erase t } := by
  refine ⟨?_, h.depth_eq, h.nextCell_le⟩
  dsimp only
  rw [h.held_eq]
  exact List.erase_cons_head t w.held

/-- What is done around a program that is started adds nothing to what the program has left. -/
structure Passes (build : Build) (start : Option (Program × World)) (w w' : World) : Prop where
  narrows : Narrows (resumed build start w) w'
  framed (h : ∀ program u, start = some (program, u) → Framed u (build program u).2) : Framed w w'

theorem Passes.of_none {build : Build} (h : Passes build none w w') : Narrows w w' ∧ Framed w w' :=
  ⟨h.narrows, h.framed fun _ _ hnone => by cases hnone⟩

theorem Passes.of_run {build : Build} {program : Program} {result : Except String Value}
    (h : Passes build (some (program, u)) w w') (hrun : build program u = (result, v)) (hframed : Framed u v) :
    Narrows v w' ∧ Framed w w' := by
  obtain rfl : (build program u).2 = v := congrArg Prod.snd hrun
  refine ⟨h.narrows, h.framed fun program' u' heq => ?_⟩
  cases heq
  exact hframed

theorem passes_self (build : Build) (w : World) : Passes build none w w := ⟨.refl w, fun _ => .refl w⟩

theorem passes_getBean (build : Build) (name : String) (w : World) :
    Passes build (w.supplier? name) w (getBean build name w).2 where
  narrows := (quiet_getBean build name w).narrows
  framed h := (framed_resumed (fun _ _ => quiet_of_supplier?) h).trans (quiet_getBean build name w).framed

theorem passes_getInstance (build : Build) (f : Factory) (w : World) :
    Passes build (constructor? f w) w (getInstance build f w).2 where
  narrows := (quiet_getInstance build f w).narrows
  framed h := (framed_resumed (fun _ _ => quiet_of_constructor?) h).trans (quiet_getInstance build f w).framed

/-- A target that is held while an instance is made is let go again. -/
theorem passes_getInstance_holding {name : String} (build : Build) (f : Factory) (ht : (name, t) ∈ w.targets) :
    Passes build (constructor? f (w.holding t)) w
      { (getInstance build f (w.holding t)).2 with
        held := (getInstance build f (w.holding t)).2.held.erase t } where
  narrows := ((narrows_resumed _ _ (.holding ht)).trans (passes_getInstance build f (w.holding t)).narrows).trans
    (.release _ t)
  framed h := ((passes_getInstance build f (w.holding t)).framed h).release

section Aside

variable {f : Factory} {target : Option Target}
  (hf : target = none ∨ ∀ cell delegate, f ≠ .perTarget cell delegate)

include hf

theorem constructorFor?_eq : constructorFor? f target w = constructor? f w := by
  rw [constructorFor?.eq_def]
  split
  · rcases hf with hf | hf
    · cases hf
    · exact absurd rfl (hf _ _)
  · rfl

theorem getInstanceFor_eq (build : Build) : getInstanceFor build f target w = getInstance build f w := by
  rw [getInstanceFor.eq_def]
  split
  · rcases hf with hf | hf
    · cases hf
    · exact absurd rfl (hf _ _)
  · rfl

end Aside

theorem quiet_newCell (w : World) : Quiet w w.newCell.2 :=
  ⟨rfl, rfl, rfl, rfl, rfl, Nat.le_succ _, Nat.le_refl _⟩

theorem quiet_managedFactory (bean : String) (plain : Bool) (w : World) :
    Quiet w (managedFactory bean plain w).2 := by
  rw [managedFactory]
  split
  · exact .refl w
  · dsimp only
    split
    · exact ⟨rfl, rfl, rfl, rfl, rfl, Nat.le_add_right _ 2, Nat.le_refl _⟩
    · exact ⟨rfl, rfl, rfl, rfl, rfl, Nat.le_succ _, Nat.le_refl _⟩

theorem managedFactory_ne_perTarget {bean : String} {plain : Bool} {f delegate : Factory}
    (h : (managedFactory bean plain w).1 = .ok f) : f ≠ .perTarget cell delegate := by
  rintro rfl
  rw [managedFactory] at h
  split at h
  · cases h
  · dsimp only at h
    split at h <;> cases h

theorem passes_addManaged (id bean : String) (plain managed : Bool) (w : World) :
    let answer := match managedFactory bean plain w with
      | (.error e, w) => (Outcome.engine e, w)
      | (.ok f, w) => w.addFactory id f managed
    Narrows w answer.2 ∧ Framed w answer.2 := by
  have hquiet := quiet_managedFactory bean plain w
  have hfactory : ∀ f, (managedFactory bean plain w).1 = .ok f → ∀ cell delegate,
      f ≠ .perTarget cell delegate := fun f hf cell delegate => managedFactory_ne_perTarget hf
  dsimp only
  split
  · next heq =>
      rw [heq] at hquiet
      exact ⟨hquiet.narrows, hquiet.framed⟩
  · next heq =>
      rw [heq] at hquiet hfactory
      exact ⟨hquiet.narrows.trans (.nameFactory _ _ _ fun _ _ h => absurd h (hfactory _ rfl _ _)),
        hquiet.held_eq, hquiet.depth_eq, hquiet.nextCell_le⟩

theorem passes_getFor {id : String} {target : Option String} (depth : Nat)
    (hasked : askedFor? (.getFor id target) w = none) :
    Passes (Program.run (execute depth)) (w.started? (.getFor id target)) w
      (execute (depth + 1) (.getFor id target) w).2 := by
  cases hlookup : w.factories.lookup id with
  | none =>
      simp only [started?, execute, perform, withFactory, hlookup]
      exact passes_self _ w
  | some handle =>
      cases ht : target.bind (w.targets.lookup ·) with
      | none =>
          simp only [started?, execute, perform, withFactory, hlookup, ht, Option.bind_some,
            constructorFor?_eq (.inl rfl), getInstanceFor_eq (.inl rfl)]
          exact passes_getInstance _ handle.factory w
      | some t =>
          have hf : ∀ cell delegate, handle.factory ≠ .perTarget cell delegate := by
            intro cell delegate hfactory
            obtain ⟨f, managed⟩ := handle
            obtain rfl : f = .perTarget cell delegate := hfactory
            simp [askedFor?, hlookup, ht] at hasked
          obtain ⟨name, -, hname⟩ := Option.bind_eq_some_iff.1 ht
          simp only [started?, execute, perform, withFactory, hlookup, ht, Option.bind_some,
            constructorFor?_eq (.inr hf), getInstanceFor_eq (.inr hf)]
          exact passes_getInstance_holding _ handle.factory (mem_of_lookup hname)

/-- Apart from new targets and answers for targets, operations add nothing to what a program that they
start has left. -/
theorem passes_execute (depth : Nat) (hasked : askedFor? operation w = none)
    (htarget : ∀ name value, operation ≠ .target name value) :
    Passes (Program.run (execute depth)) (w.started? operation) w (execute (depth + 1) operation w).2 := by
  cases operation with
  | define bean supplier =>
      rw [execute, perform]
      split
      · exact passes_self _ w
      · exact ⟨(Quiet.of_container w _).narrows, fun _ => ⟨rfl, rfl, Nat.le_refl _⟩⟩
  | register name v =>
      have hquiet : Quiet w (w.allocate v).2 :=
        ⟨rfl, rfl, rfl, rfl, rfl, Nat.le_refl _, Nat.le_succ _⟩
      rw [execute, perform]
      dsimp only
      split
      · exact ⟨hquiet.narrows, fun _ => hquiet.framed⟩
      · exact ⟨(hquiet.trans (.of_container _ _)).narrows, fun _ => ⟨rfl, rfl, Nat.le_refl _⟩⟩
  | bean name =>
      have hpasses := passes_getBean (Program.run (execute depth)) name w
      rw [execute, perform]
      split <;> next heq =>
        rw [heq] at hpasses
        exact hpasses
  | beanInfo | beanNames | containerLock => exact passes_self _ w
  | destroy => exact ⟨(Quiet.of_container w _).narrows, fun _ => ⟨rfl, rfl, Nat.le_refl _⟩⟩
  | newSingleton id name v order =>
      have hquiet : Quiet w (w.allocate v).2 :=
        ⟨rfl, rfl, rfl, rfl, rfl, Nat.le_refl _, Nat.le_succ _⟩
      exact ⟨hquiet.narrows.trans (.nameFactory _ _ _ nofun), fun _ => ⟨rfl, rfl, Nat.le_refl _⟩⟩
  | newSimple | newBean => exact ⟨(quiet_newCell w).narrows.trans (.nameFactory _ _ _ nofun),
        fun _ => ⟨rfl, rfl, Nat.le_succ _⟩⟩
  | newPrototype id bean plain =>
      rw [execute, perform]
      split
      · exact passes_self _ w
      · obtain ⟨hnarrows, hframed⟩ := passes_addManaged id bean plain false w
        exact ⟨hnarrows, fun _ => hframed⟩
  | newManaged id bean plain =>
      obtain ⟨hnarrows, hframed⟩ := passes_addManaged id bean plain true w
      exact ⟨hnarrows, fun _ => hframed⟩
  | newLazy id delegate =>
      rw [execute, perform, withFactory]
      split
      · exact ⟨(quiet_newCell w).narrows.trans (.nameFactory _ _ _ nofun),
          fun _ => ⟨rfl, rfl, Nat.le_succ _⟩⟩
      · exact passes_self _ w
  | newPerTarget id delegate =>
      rw [execute, perform, withFactory]
      split
      · refine ⟨(quiet_newCell w).narrows.trans (.nameFactory _ _ _ fun cell delegate h => ?_),
          fun _ => ⟨rfl, rfl, Nat.le_succ _⟩⟩
        cases h
        exact Nat.lt_succ_self _
      · exact passes_self _ w
  | get id =>
      cases hlookup : w.factories.lookup id with
      | none =>
          simp only [started?, execute, perform, withFactory, hlookup]
          exact passes_self _ w
      | some handle =>
          simp only [started?, execute, perform, withFactory, hlookup, Option.bind_some]
          exact passes_getInstance _ handle.factory w
  | getFor id target => exact passes_getFor depth hasked
  | lock id | info id =>
      rw [execute, perform, withFactory]
      split <;> exact passes_self _ w
  | purge id =>
      rw [execute, perform, withFactory]
      split
      · split
        · exact ⟨.purge w _, fun _ => ⟨rfl, rfl, Nat.le_refl _⟩⟩
        · exact passes_self _ w
      · exact passes_self _ w
  | target name v => exact absurd rfl (htarget name v)
  | «alias» name existing =>
      rw [execute, perform]
      split
      · exact passes_self _ w
      · next hlookup =>
          exact ⟨.nameTarget (.inr ⟨existing, mem_of_lookup hlookup⟩) name, fun _ => ⟨rfl, rfl, Nat.le_refl _⟩⟩
  | drop name => exact ⟨.dropTarget w name, fun _ => ⟨rfl, rfl, Nat.le_refl _⟩⟩

end Operations

section Asked

variable {operation : Operation} {delegate : Factory}

theorem askedFor?_eq_some (h : askedFor? operation w = some (cell, delegate, t)) :
    ∃ id target managed, operation = .getFor id target ∧
      w.factories.lookup id = some ⟨.perTarget cell delegate, managed⟩ ∧
      target.bind (w.targets.lookup ·) = some t := by
  cases operation with
  | getFor id target =>
      rw [askedFor?] at h
      split at h
      · next managed _ hlookup ht =>
          cases h
          exact ⟨id, target, managed, rfl, hlookup, ht⟩
      · cases h
  | _ => cases h

variable (h : askedFor? operation w = some (cell, delegate, t))

include h

theorem hasCell_of_asked : w.HasCell cell := by
  obtain ⟨id, target, managed, rfl, hlookup, -⟩ := askedFor?_eq_some h
  exact ⟨_, mem_of_lookup hlookup, delegate, rfl⟩

theorem narrows_holding_of_asked : Narrows w (w.holding t) := by
  obtain ⟨id, target, managed, rfl, -, ht⟩ := askedFor?_eq_some h
  obtain ⟨name, -, hname⟩ := Option.bind_eq_some_iff.1 ht
  exact .holding (mem_of_lookup hname)

theorem execute_of_asked (depth : Nat) :
    execute (depth + 1) operation w =
      let (r, w) := getInstanceFor (Program.run (execute depth)) (.perTarget cell delegate) (some t) (w.holding t)
      (outcomeOf r, { w with held := w.held.erase t }) := by
  obtain ⟨id, target, managed, rfl, hlookup, ht⟩ := askedFor?_eq_some h
  simp only [execute, perform, withFactory, hlookup, ht]
  rfl

theorem started?_of_asked :
    w.started? operation =
      if ((w.holding t).keptFor? cell t).isSome then none else constructor? delegate (w.holding t) := by
  obtain ⟨id, target, managed, rfl, hlookup, ht⟩ := askedFor?_eq_some h
  simp only [started?, hlookup, ht, Option.bind_some, constructorFor?]

end Asked

theorem getInstanceFor_perTarget_cases (build : Build) (cell : Nat) (delegate : Factory) (t : Target)
    (w : World) :
    let answer := getInstanceFor build (.perTarget cell delegate) (some t) w
    (∃ e, w.keptFor? cell t = some e ∧ answer = (.ok e.aspect, w)) ∨
      w.keptFor? cell t = none ∧ ∃ w',
        ((∃ error, getInstance build delegate w = (.error error, w') ∧ answer = (.error error, w')) ∨
          ∃ i, getInstance build delegate w = (.ok i, w') ∧
            ((∃ e, entryAt? (w'.liveEntries cell) t.address = some e ∧
                answer = (.ok e.aspect, w'.withEntries cell (w'.liveEntries cell))) ∨
              entryAt? (w'.liveEntries cell) t.address = none ∧ answer = (.ok i, w'.remembering cell t i))) := by
  have hcreate : w.keptFor? cell t = none →
      getInstanceFor build (.perTarget cell delegate) (some t) w =
        getInstanceFor.create build cell delegate t w := by
    intro hnone
    rw [getInstanceFor]
    cases hfound : entryAt? (w.entries cell) t.address with
    | none => rfl
    | some e =>
        have hdead : w.isLive e.target = false := by simpa [keptFor?, hfound, Option.filter] using hnone
        simp [hdead]
  cases hkept : w.keptFor? cell t with
  | some e =>
      obtain ⟨hfound, hlive⟩ := Option.filter_eq_some_iff.1 hkept
      exact .inl ⟨e, rfl, by simp [getInstanceFor, hfound, hlive]⟩
  | none =>
      refine .inr ⟨rfl, ?_⟩
      rw [hcreate hkept, getInstanceFor.create]
      cases hdelegate : getInstance build delegate w with
      | mk result w' =>
          refine ⟨w', ?_⟩
          cases result with
          | error error => exact .inl ⟨error, rfl, rfl⟩
          | ok i =>
              refine .inr ⟨i, rfl, ?_⟩
              cases hfound : entryAt? (w'.liveEntries cell) t.address with
              | some e => exact .inl ⟨e, rfl, by simp only [hfound]; rfl⟩
              | none => exact .inr ⟨rfl, by simp only [hfound]; rfl⟩

end Weaving.World
