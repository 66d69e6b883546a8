import Mathlib.Data.Set.Card
import Weaving.Proofs.TargetEntries

namespace Weaving

def Factory.isSimple : Factory → Bool
  | .simple _ _ _ _ _ => true
  | _ => false

namespace Call

open World

/-- A call that answers with the aspect of a target. -/
def Answers (c : Call) (cell target : Nat) (i : Instance) : Prop :=
  ∃ delegate t, askedFor? c.operation c.before = some (cell, delegate, t) ∧ t.id = target ∧
    c.outcome = .instance i

/-- A call in which the delegate of a per-target factory is asked for an instance for a target. -/
def Delegates (c : Call) (cell : Nat) (t : Target) (result : Except EngineError Instance) : Prop :=
  ∃ delegate w, askedFor? c.operation c.before = some (cell, delegate, t) ∧ 0 < c.depth ∧
    (c.before.holding t).keptFor? cell t = none ∧
    getInstance (Program.run (execute (c.depth - 1))) delegate (c.before.holding t) = (result, w)

theorem Answers.unique {c : Call} {cell a b : Nat} {i j : Instance} (h : c.Answers cell a i)
    (h' : c.Answers cell b j) : a = b ∧ i = j := by
  obtain ⟨delegate, t, hasked, rfl, houtcome⟩ := h
  obtain ⟨delegate', t', hasked', rfl, houtcome'⟩ := h'
  cases hasked.symm.trans hasked'
  cases houtcome.symm.trans houtcome'
  exact ⟨rfl, rfl⟩

theorem Delegates.unique {c : Call} {cell : Nat} {t t' : Target} {result result' : Except EngineError Instance}
    (h : c.Delegates cell t result) (h' : c.Delegates cell t' result') : t = t' := by
  obtain ⟨delegate, w, hasked, -⟩ := h
  obtain ⟨delegate', w', hasked', -⟩ := h'
  cases hasked.symm.trans hasked'
  rfl

end Call

namespace World

def Answered (cell : Nat) (l : List Call) (target : Nat) (i : Instance) : Prop :=
  ∃ c ∈ l, c.Answers cell target i

/-- The delegate of a factory makes a new instance each time. -/
def NewEachTime (cell : Nat) (l : List Call) : Prop :=
  l.Pairwise fun c d => ∀ t t' i j, c.Delegates cell t (.ok i) → d.Delegates cell t' (.ok j) → i.id ≠ j.id

/-- What a per-target factory has answered it has made once and remembers while the target lives. -/
structure Recalls (cell : Nat) (l : List Call) (w : World) : Prop where
  answered_lt {a : Nat} {i : Instance} (h : Answered cell l a i) : a < w.nextObject
  entry_of_answer {a : Nat} {i : Instance} (h : Answered cell l a i) (hlive : w.isLive a = true) :
    ∃ e ∈ w.entries cell, e.target = a
  answer_of_entry {e : Entry} (h : e ∈ w.entries cell) : Answered cell l e.target e.aspect
  made {a : Nat} {i : Instance} (h : Answered cell l a i) :
    ∃ c ∈ l, ∃ t, c.Delegates cell t (.ok i) ∧ t.id = a
  same {a : Nat} {i j : Instance} (h : Answered cell l a i) (h' : Answered cell l a j) : i = j

variable {u w w' : World} {t : Target} {cell : Nat} {l : List Call} {c : Call} {a : Nat} {i : Instance}

theorem Answered.concat (h : Answered cell l a i) (c : Call) : Answered cell (l ++ [c]) a i := by
  obtain ⟨c', hc', hanswers⟩ := h
  exact ⟨c', List.mem_append_left _ hc', hanswers⟩

theorem answered_concat_iff :
    Answered cell (l ++ [c]) a i ↔ Answered cell l a i ∨ c.Answers cell a i := by
  simp [Answered, or_and_right, exists_or]

namespace Recalls

theorem start (hentries : w.entries cell = []) : Recalls cell [] w where
  answered_lt := by rintro a i ⟨c, hc, -⟩; cases hc
  entry_of_answer := by rintro a i ⟨c, hc, -⟩; cases hc
  answer_of_entry he := by rw [hentries] at he; cases he
  made := by rintro a i ⟨c, hc, -⟩; cases hc
  same := by rintro a i j ⟨c, hc, -⟩; cases hc

/-- Dead targets do not come back to life, and the entries of living ones stay. -/
theorem keeps (h : Recalls cell l w) (hnext : w.nextObject ≤ w'.nextObject)
    (hlive : ∀ a < w.nextObject, w'.isLive a = true → w.isLive a = true)
    (hold : ∀ e ∈ w'.entries cell, e ∈ w.entries cell)
    (hkept : ∀ e ∈ w.entries cell, w'.isLive e.target = true → e ∈ w'.entries cell) :
    Recalls cell l w' where
  answered_lt ha := Nat.lt_of_lt_of_le (h.answered_lt ha) hnext
  entry_of_answer ha halive := by
    obtain ⟨e, he, rfl⟩ := h.entry_of_answer ha (hlive _ (h.answered_lt ha) halive)
    exact ⟨e, hkept e he halive, rfl⟩
  answer_of_entry he := h.answer_of_entry (hold _ he)
  made := h.made
  same := h.same

theorem narrows (h : Recalls cell l w) (hnarrows : Narrows w w') : Recalls cell l w' :=
  h.keeps hnarrows.nextObject_le (fun _ _ => hnarrows.isLive) (fun _ he => (hnarrows.sublist cell).subset he)
    fun _ he => hnarrows.kept he

theorem concat (h : Recalls cell l w) (hc : ∀ a i, c.Answers cell a i → Answered cell l a i) :
    Recalls cell (l ++ [c]) w := by
  have hl : ∀ {a i}, Answered cell (l ++ [c]) a i → Answered cell l a i := fun ha =>
    (answered_concat_iff.1 ha).elim id (hc _ _)
  refine ⟨fun ha => h.answered_lt (hl ha), fun ha => h.entry_of_answer (hl ha),
    fun he => (h.answer_of_entry he).concat c, fun ha => ?_, fun ha ha' => h.same (hl ha) (hl ha')⟩
  obtain ⟨c', hc', hmade⟩ := h.made (hl ha)
  exact ⟨c', List.mem_append_left _ hc', hmade⟩

theorem concat_first (h : Recalls cell l w) (hlt : t.id < w.nextObject)
    (hfirst : ∀ i, ¬ Answered cell l t.id i) (hanswers : c.Answers cell t.id i)
    (hmade : c.Delegates cell t (.ok i)) :
    Recalls cell (l ++ [c]) (w.remembering cell t i) where
  answered_lt ha := by
    rcases answered_concat_iff.1 ha with ha | ha
    · exact h.answered_lt ha
    · obtain ⟨rfl, -⟩ := hanswers.unique ha
      exact hlt
  entry_of_answer ha hlive := by
    rw [remembering, entries_withEntries_self]
    rcases answered_concat_iff.1 ha with ha | ha
    · obtain ⟨e, he, rfl⟩ := h.entry_of_answer ha hlive
      exact ⟨e, List.mem_cons_of_mem _ (mem_liveEntries.2 ⟨he, hlive⟩), rfl⟩
    · exact ⟨_, List.mem_cons_self, (hanswers.unique ha).1⟩
  answer_of_entry he := by
    rw [remembering, entries_withEntries_self] at he
    rcases List.mem_cons.1 he with rfl | he
    · exact answered_concat_iff.2 (.inr hanswers)
    · exact (h.answer_of_entry (mem_liveEntries.1 he).1).concat c
  made ha := by
    rcases answered_concat_iff.1 ha with ha | ha
    · obtain ⟨c', hc', hmade'⟩ := h.made ha
      exact ⟨c', List.mem_append_left _ hc', hmade'⟩
    · obtain ⟨rfl, rfl⟩ := hanswers.unique ha
      exact ⟨c, List.mem_append_right _ List.mem_cons_self, t, hmade, rfl⟩
  same ha ha' := by
    rcases answered_concat_iff.1 ha with ha | ha <;> rcases answered_concat_iff.1 ha' with ha' | ha'
    · exact h.same ha ha'
    · obtain ⟨rfl, -⟩ := hanswers.unique ha'
      exact absurd ha (hfirst _)
    · obtain ⟨rfl, -⟩ := hanswers.unique ha
      exact absurd ha' (hfirst _)
    · exact (ha.unique ha').2

end Recalls

/-- A sound world in which a per-target factory recalls what it has answered. -/
def Remembers (cell : Nat) (l : List Call) (w : World) : Prop := Sound w ∧ Recalls cell l w

theorem Remembers.narrows (h : Remembers cell l w) (hnarrows : Narrows w w') : Remembers cell l w' :=
  ⟨h.1.narrows hnarrows, h.2.narrows hnarrows⟩

section Asked

variable {operation : Operation} {depth cell' : Nat} {delegate : Factory}
  {result : Except EngineError Instance}
  (hasked : askedFor? operation w = some (cell', delegate, t))

include hasked

/-- What a factory remembers of a target is what it has answered for it. -/
theorem Recalls.concat_asked (h : Recalls cell l u) (hsound : Sound u) (ht : u.Alive t)
    (houtcome : Call.outcome ⟨depth + 1, operation, w⟩ = outcomeOf result)
    (hkept : ∀ i, result = .ok i → ∃ e ∈ u.entries cell', e.address = t.address ∧ e.aspect = i) :
    Recalls cell (l ++ [⟨depth + 1, operation, w⟩]) u := by
  refine h.concat fun a i hanswers => ?_
  obtain ⟨delegate', t', hasked', rfl, houtcome'⟩ := hanswers
  cases hasked.symm.trans hasked'
  cases result with
  | error e => cases houtcome.symm.trans houtcome'
  | ok j =>
      cases houtcome.symm.trans houtcome'
      obtain ⟨e, he, haddress, rfl⟩ := hkept _ rfl
      have htarget : e.target = t.id := (hsound.target_eq ht he).2 haddress
      exact htarget ▸ h.answer_of_entry he

/-- What a delegate makes is remembered unless a call inside of it has had an answer first. -/
theorem Recalls.concat_made (h : Recalls cell l u) (hsound : Sound u) (ht : u.Alive t)
    (hnew : entryAt? (u.liveEntries cell') t.address = none)
    (hnone : (w.holding t).keptFor? cell' t = none)
    (hdelegate : getInstance (Program.run (execute depth)) delegate (w.holding t) = (.ok i, u))
    (houtcome : Call.outcome ⟨depth + 1, operation, w⟩ = .instance i) :
    Recalls cell (l ++ [⟨depth + 1, operation, w⟩]) (u.remembering cell' t i) := by
  by_cases hsame : cell' = cell
  · subst hsame
    refine h.concat_first (hsound.located_lt (.target ht)) (fun j hj => ?_)
      ⟨delegate, t, hasked, rfl, houtcome⟩ ⟨delegate, u, hasked, Nat.succ_pos _, hnone, hdelegate⟩
    obtain ⟨e, he, htarget⟩ := h.entry_of_answer hj ht.isLive
    exact entryAt?_eq_none.1 hnew e (mem_liveEntries.2 ⟨he, htarget ▸ ht.isLive⟩)
      ((hsound.target_eq ht he).1 htarget)
  · have hentries : (u.remembering cell' t i).entries cell = u.entries cell :=
      entries_withEntries_of_ne (Ne.symm hsame) _
    have hkept : Recalls cell l (u.remembering cell' t i) :=
      h.keeps (Nat.le_refl _) (fun _ _ ha => ha) (fun e he => hentries ▸ he) fun e he _ => hentries.symm ▸ he
    refine hkept.concat fun a j hanswers => ?_
    obtain ⟨delegate', t', hasked', -⟩ := hanswers
    cases hasked.symm.trans hasked'
    exact absurd rfl hsame

theorem remembers_of_answer {v : World} (hanswer : getInstanceFor (Program.run (execute depth))
      (.perTarget cell' delegate) (some t) (w.holding t) = (result, v)) (hframed : Framed (w.holding t) v)
    (h : Call.outcome ⟨depth + 1, operation, w⟩ = outcomeOf result →
      Remembers cell (l ++ [⟨depth + 1, operation, w⟩]) v) :
    let c : Call := ⟨depth + 1, operation, w⟩
    Remembers cell (l ++ [c]) c.after ∧ Framed w c.after := by
  intro c
  have hexecute := execute_of_asked hasked depth
  rw [hanswer] at hexecute
  have hafter : c.after = { v with held := v.held.erase t } := congrArg Prod.snd hexecute
  rw [hafter]
  exact ⟨(h (congrArg Prod.fst hexecute)).narrows (.release v t), hframed.release⟩

/-- A delegate changes nothing but what the program that it starts does. -/
theorem remembers_delegate (hnone : (w.holding t).keptFor? cell' t = none) (hcell : cell' < u.nextCell)
    (h : Remembers cell l u) (hframed : Framed (w.holding t) u)
    (hu : u = resumed (Program.run (execute depth)) (w.started? operation) (w.holding t))
    (hdelegate : getInstance (Program.run (execute depth)) delegate (w.holding t) = (result, w')) :
    Remembers cell l w' ∧ Framed (w.holding t) w' ∧ w'.Alive t ∧ cell' < w'.nextCell := by
  have hstarted : w.started? operation = constructor? delegate (w.holding t) := by
    rw [started?_of_asked hasked, hnone]
    rfl
  have hquiet := quiet_getInstance (Program.run (execute depth)) delegate (w.holding t)
  rw [← hstarted, ← hu, hdelegate] at hquiet
  have ht : u.Alive t := .inl (by rw [hframed.held_eq]; exact List.mem_cons_self)
  exact ⟨h.narrows hquiet.narrows, hframed.trans hquiet.framed, hquiet.alive_iff.2 ht,
    Nat.lt_of_lt_of_le hcell hquiet.nextCell_le⟩

/-- A call for the aspect of a target, of which the program has left the world `u`. -/
theorem remembers_asked (hcell : cell' < u.nextCell) (h : Remembers cell l u)
    (hframed : Framed (w.holding t) u)
    (hu : u = resumed (Program.run (execute depth)) (w.started? operation) (w.holding t)) :
    let c : Call := ⟨depth + 1, operation, w⟩
    Remembers cell (l ++ [c]) c.after ∧ Framed w c.after := by
  rcases getInstanceFor_perTarget_cases (Program.run (execute depth)) cell' delegate t (w.holding t) with
    ⟨e, hkept, heq⟩ | ⟨hnone, w', ⟨error, hdelegate, heq⟩ | ⟨i, hdelegate, ⟨e, hfound, heq⟩ | ⟨hfound, heq⟩⟩⟩
  · obtain rfl : u = w.holding t := by rw [hu, started?_of_asked hasked, hkept]; rfl
    refine remembers_of_answer hasked heq hframed fun houtcome => ⟨h.1, ?_⟩
    refine h.2.concat_asked hasked h.1 (alive_holding_self w t) houtcome fun i hi => ?_
    cases hi
    exact ⟨e, (keptFor?_eq_some hkept).1, (keptFor?_eq_some hkept).2, rfl⟩
  · obtain ⟨⟨hsound', h'⟩, hframed', ht', -⟩ := remembers_delegate hasked hnone hcell h hframed hu hdelegate
    refine remembers_of_answer hasked heq hframed' fun houtcome => ⟨hsound', ?_⟩
    refine h'.concat_asked hasked hsound' ht' houtcome fun i hi => ?_
    cases hi
  · -- a call inside of this one has had an answer for the target
    obtain ⟨⟨hsound', h'⟩, hframed', ht', -⟩ := remembers_delegate hasked hnone hcell h hframed hu hdelegate
    have hpurged := Narrows.purge w' cell'
    refine remembers_of_answer hasked heq ⟨hframed'.held_eq, hframed'.depth_eq, hframed'.nextCell_le⟩
      fun houtcome => ⟨hsound'.narrows hpurged, ?_⟩
    refine (h'.narrows hpurged).concat_asked hasked (hsound'.narrows hpurged) ht' houtcome fun i hi => ?_
    cases hi
    obtain ⟨he, haddress⟩ := entryAt?_eq_some hfound
    exact ⟨e, by rwa [entries_withEntries_self], haddress, rfl⟩
  · obtain ⟨⟨hsound', h'⟩, hframed', ht', hcell'⟩ := remembers_delegate hasked hnone hcell h hframed hu hdelegate
    refine remembers_of_answer hasked heq ⟨hframed'.held_eq, hframed'.depth_eq, hframed'.nextCell_le⟩
      fun houtcome => ⟨hsound'.insert ht' hcell' hfound i, ?_⟩
    exact h'.concat_made hasked hsound' ht' hfound hnone hdelegate houtcome

end Asked

theorem Remembers.concat_other (h : Remembers cell l w) (hasked : askedFor? c.operation c.before = none) :
    Remembers cell (l ++ [c]) w := by
  refine ⟨h.1, h.2.concat fun a i hanswers => ?_⟩
  obtain ⟨delegate, t, hasked', -⟩ := hanswers
  cases hasked.symm.trans hasked'

theorem Remembers.concat_target {name : String} {value : Value} (h : Remembers cell l w) (depth : Nat) :
    Remembers cell (l ++ [⟨depth + 1, .target name value, w⟩])
      ((w.allocateTarget value).2.nameTarget name (w.allocateTarget value).1) := by
  refine Remembers.concat_other ⟨h.1.allocate name value, h.2.keeps (Nat.le_succ _) (fun a ha hlive => ?_)
    (fun _ he => he) fun _ he _ => he⟩ rfl
  obtain ⟨t, ht, rfl⟩ := isLive_iff.1 hlive
  rcases ht with ht | ⟨other, ht⟩
  · exact isLive_iff.2 ⟨t, .inl ht, rfl⟩
  · rcases List.mem_cons.1 ht with heq | ht
    · cases heq
      exact absurd ha (Nat.lt_irrefl _)
    · exact isLive_iff.2 ⟨t, .inr ⟨other, (List.mem_filter.1 ht).1⟩, rfl⟩

theorem quiet_of_started? {operation : Operation} {delegate : Factory} {program : Program}
    (hasked : askedFor? operation w = some (cell, delegate, t))
    (h : w.started? operation = some (program, u)) : Quiet (w.holding t) u := by
  rw [started?_of_asked hasked] at h
  split at h
  · cases h
  · exact quiet_of_constructor? h

theorem carried_remembers (cell : Nat) : Carried (fun _ => True) (fun _ => Remembers cell) Framed where
  refl := Framed.refl
  trans := Framed.trans
  noted reports trace h :=
    have hquiet := ⟨rfl, rfl, rfl, rfl, rfl, Nat.le_refl _, Nat.le_refl _⟩
    ⟨h.narrows (Quiet.narrows hquiet), Quiet.framed hquiet⟩
  quiet := by
    rintro ⟨depth, operation, w⟩ l - h hprogram
    cases depth with
    | zero =>
        refine ⟨⟨h.1, h.2.concat fun a i hanswers => ?_⟩, .refl w⟩
        obtain ⟨delegate, t, -, -, houtcome⟩ := hanswers
        cases houtcome
    | succ depth =>
        have hstarted : w.started? operation = none := hprogram
        cases hasked : askedFor? operation w with
        | some asked =>
            obtain ⟨cell', delegate, t⟩ := asked
            have hholding : Remembers cell l (w.holding t) := h.narrows (narrows_holding_of_asked hasked)
            have hcell : cell' < (w.holding t).nextCell := h.1.cell_lt (hasCell_of_asked hasked)
            exact remembers_asked hasked hcell hholding (.refl _) (by rw [hstarted]; rfl)
        | none =>
            by_cases htarget : ∃ name value, operation = .target name value
            · obtain ⟨name, value, rfl⟩ := htarget
              exact ⟨h.concat_target depth, rfl, rfl, Nat.le_refl _⟩
            · have hpasses := passes_execute depth hasked fun name value heq => htarget ⟨name, value, heq⟩
              rw [hstarted] at hpasses
              exact ⟨(h.narrows hpasses.of_none.1).concat_other hasked, hpasses.of_none.2⟩
  starts _ h hprogram :=
    ⟨Program.keeps_of_forall (fun _ => trivial) _, h.narrows (narrows_of_started? hprogram)⟩
  ends {depth operation w u u' program l l' result} _ h hprogram hrun h' hframed := by
    cases hasked : askedFor? operation w with
    | some asked =>
        obtain ⟨cell', delegate, t⟩ := asked
        have hstarted := quiet_of_started? hasked hprogram
        have hcell := h.1.cell_lt (hasCell_of_asked hasked)
        refine remembers_asked hasked ?_ h' (hstarted.framed.trans hframed) (by rw [hprogram, resumed, hrun])
        exact Nat.lt_of_lt_of_le hcell (Nat.le_trans hstarted.nextCell_le hframed.nextCell_le)
    | none =>
        have hpasses := passes_execute depth hasked (by rintro name value rfl; cases hprogram)
        rw [hprogram] at hpasses
        obtain ⟨hnarrows, hframed'⟩ := hpasses.of_run hrun hframed
        exact ⟨(h'.narrows hnarrows).concat_other hasked, hframed'⟩

theorem remembers_history (cell : Nat) (operations : List Operation) (h : Remembers cell [] w) :
    Remembers cell (history operations w) (operations.foldl after w) ∧
      ∀ l c, l ++ [c] <+: history operations w → Remembers cell (l ++ [c]) c.after := by
  have hcarried := (carried_remembers cell).always
  have hall := history_induction (fun l w => Remembers cell l w ∧
    ∀ l' c, l' ++ [c] <+: l → ∃ depth : Nat, Remembers cell (l' ++ [c]) c.after) operations
    (fun operation _ l w h => ?_) (l := []) ⟨h, by simp⟩
  · exact ⟨hall.1, fun l c hbegins => (hall.2 l c hbegins).elim fun _ hc => hc⟩
  · have hcleared : Narrows w { w with reports := [] } :=
      Quiet.narrows ⟨rfl, rfl, rfl, rfl, rfl, Nat.le_refl _, Nat.le_refl _⟩
    exact (hcarried.calls w.depth operation l _ trivial ⟨h.1.narrows hcleared, h.2⟩).1

theorem Remembers.nodup_targets (h : Remembers cell l w) : ((w.liveEntries cell).map (·.target)).Nodup := by
  have haddresses := (h.1.nodup cell).sublist (List.filter_sublist.map _ : ((w.liveEntries cell).map _).Sublist _)
  rw [List.Nodup, List.pairwise_map] at haddresses ⊢
  refine haddresses.imp_of_mem fun he he' hne heq => hne ?_
  exact (h.1.located_iff (.entry (mem_liveEntries.1 he).1) (.entry (mem_liveEntries.1 he').1)).1 heq

/-- The living targets that have had an answer are those with an entry. -/
theorem Remembers.ncard_answered (h : Remembers cell l w) :
    {a | w.isLive a = true ∧ ∃ i, Answered cell l a i}.ncard = (w.liveEntries cell).length := by
  have hset : {a | w.isLive a = true ∧ ∃ i, Answered cell l a i} =
      ((w.liveEntries cell).map (·.target)).toFinset := by
    ext a
    simp only [Set.mem_ofPred_eq, List.coe_toFinset, List.mem_map, mem_liveEntries]
    constructor
    · rintro ⟨hlive, i, ha⟩
      obtain ⟨e, he, rfl⟩ := h.2.entry_of_answer ha hlive
      exact ⟨e, ⟨he, hlive⟩, rfl⟩
    · rintro ⟨e, ⟨he, hlive⟩, rfl⟩
      exact ⟨hlive, e.aspect, h.2.answer_of_entry he⟩
  rw [hset, Set.ncard_coe_finset, List.toFinset_card_of_nodup h.nodup_targets, List.length_map]

theorem Remembers.target_eq {b : Nat} {j : Instance} (h : Remembers cell l w) (hnew : NewEachTime cell l)
    (ha : Answered cell l a i) (hb : Answered cell l b j) (hid : i.id = j.id) : a = b := by
  obtain ⟨c, hc, t, hmade, rfl⟩ := h.2.made ha
  obtain ⟨d, hd, t', hmade', rfl⟩ := h.2.made hb
  by_cases hcd : c = d
  · exact congrArg Target.id (hmade.unique (hcd ▸ hmade'))
  · have hsymm : Std.Symm fun c d : Call =>
        ∀ t t' i j, c.Delegates cell t (.ok i) → d.Delegates cell t' (.ok j) → i.id ≠ j.id :=
      ⟨fun c d hcd t t' i j hd hc => (hcd t' t j i hc hd).symm⟩
    exact absurd hid (hnew.forall hc hd hcd _ _ _ _ hmade hmade')

theorem entries_resumed_holding (build : Build) (start : Option (Program × World)) (w : World) (t : Target) :
    (resumed build start (w.holding t)).entries = (resumed build start w).entries := by
  cases start <;> rfl

/-- A call whose delegate fails leaves the entries as it finds them when it goes on. -/
theorem entries_of_failure {e : EngineError} (h : c.Delegates cell t (.error e)) :
    c.outcome = .engine e ∧ c.after.entries = c.resumed.entries := by
  obtain ⟨depth, operation, w⟩ := c
  obtain ⟨delegate, w', hasked, hdepth, hnone, hdelegate⟩ := h
  obtain ⟨depth, rfl⟩ := Nat.exists_eq_add_one.2 hdepth
  have hexecute := execute_of_asked hasked depth
  have hstarted := started?_of_asked hasked
  have hquiet := quiet_getInstance (Program.run (execute depth)) delegate (w.holding t)
  rw [Nat.add_sub_cancel] at hdelegate
  rw [hnone] at hstarted
  rw [hdelegate] at hquiet
  have hanswer : getInstanceFor (Program.run (execute depth)) (.perTarget cell delegate) (some t)
      (w.holding t) = (.error e, w') := by
    rcases getInstanceFor_perTarget_cases (Program.run (execute depth)) cell delegate t (w.holding t) with
      ⟨e', hkept, -⟩ | ⟨-, v, ⟨error, heq, hanswer⟩ | ⟨i, heq, -⟩⟩
    · cases hnone.symm.trans hkept
    · cases hdelegate.symm.trans heq
      exact hanswer
    · cases hdelegate.symm.trans heq
  rw [hanswer] at hexecute
  refine ⟨congrArg Prod.fst hexecute, ?_⟩
  rw [Call.after, hexecute, Call.resumed, Call.program?, hstarted, ← entries_resumed_holding _ _ w t]
  exact hquiet.entries_eq

theorem eq_of_purge {id : String} {delegate : Factory} (hdepth : 0 < c.depth)
    (hpurge : c.operation = .purge id)
    (hfactory : c.before.factories.lookup id = some ⟨.perTarget cell delegate, false⟩) :
    c.outcome = .count (some ((c.before.entries cell).length - (c.before.liveEntries cell).length)) ∧
      c.after = c.before.withEntries cell (c.before.liveEntries cell) := by
  obtain ⟨depth, operation, w⟩ := c
  obtain ⟨depth, rfl⟩ := Nat.exists_eq_add_one.2 hdepth
  obtain rfl : operation = .purge id := hpurge
  simp only [Call.outcome, Call.after, execute, perform, withFactory, hfactory]
  exact ⟨rfl, rfl⟩

section Simple

theorem nextObject_resumed_le (c : Call) : c.resumed.nextObject ≤ c.after.nextObject := by
  obtain ⟨depth, operation, w⟩ := c
  cases depth with
  | zero => exact Nat.le_refl _
  | succ depth =>
      cases hasked : askedFor? operation w with
      | some asked =>
          obtain ⟨cell, delegate, t⟩ := asked
          have hholding := narrows_resumed (Program.run (execute depth)) (w.started? operation)
            (narrows_holding_of_asked hasked)
          have hquiet := quiet_getInstance (Program.run (execute depth)) delegate (w.holding t)
          have hstarted := started?_of_asked hasked
          refine Nat.le_trans hholding.nextObject_le ?_
          rw [Call.after, execute_of_asked hasked depth]
          rcases getInstanceFor_perTarget_cases (Program.run (execute depth)) cell delegate t (w.holding t) with
            ⟨e, hkept, heq⟩ | ⟨hnone, w', hcases⟩
          · rw [heq, hstarted, hkept]
            exact Nat.le_refl _
          · rw [hstarted, hnone]
            rcases hcases with ⟨error, hdelegate, heq⟩ | ⟨i, hdelegate, ⟨e, -, heq⟩ | ⟨-, heq⟩⟩ <;>
              rw [hdelegate] at hquiet <;> rw [heq] <;> exact hquiet.nextObject_le
      | none =>
          by_cases htarget : ∃ name value, operation = .target name value
          · obtain ⟨name, value, rfl⟩ := htarget
            exact Nat.le_succ _
          · exact (passes_execute depth hasked fun name value heq => htarget ⟨name, value, heq⟩).1.nextObject_le

/-- A call goes on in a world that is no older than those behind the calls before it. -/
structure Ages (l : List Call) (w : World) : Prop where
  le {c : Call} (h : c ∈ l) : c.after.nextObject ≤ w.nextObject
  ordered : l.Pairwise fun c d => c.after.nextObject ≤ d.resumed.nextObject

theorem Ages.concat (h : Ages l c.resumed) : Ages (l ++ [c]) c.after where
  le {d} hd := by
    rcases List.mem_append.1 hd with hd | hd
    · exact Nat.le_trans (h.le hd) (nextObject_resumed_le c)
    · rw [List.mem_singleton.1 hd]
  ordered := by
    refine List.pairwise_append.2 ⟨h.ordered, List.pairwise_singleton _ _, fun d hd c' hc' => ?_⟩
    rw [List.mem_singleton.1 hc']
    exact h.le hd

theorem carried_ages : Carried (fun _ => True) (fun _ => Ages) fun _ _ => True where
  refl _ := trivial
  trans _ _ := trivial
  noted _ _ h := ⟨⟨h.le, h.ordered⟩, trivial⟩
  quiet {c l} _ h hprogram := by
    refine ⟨Ages.concat ?_, trivial⟩
    rwa [Call.resumed_of_none hprogram]
  starts _ h hprogram :=
    ⟨Program.keeps_of_forall (fun _ => trivial) _,
      fun hc => Nat.le_trans (h.le hc) (narrows_of_started? hprogram).nextObject_le, h.ordered⟩
  ends {depth operation w _ _ _ _ _ _} _ _ hprogram hrun h' _ := by
    refine ⟨Ages.concat (c := ⟨depth + 1, operation, w⟩) ?_, trivial⟩
    rwa [Call.resumed_of_run hprogram hrun]

theorem ages_history (operations : List Operation) (w : World) :
    Ages (history operations w) (operations.foldl after w) :=
  history_induction Ages operations (l := [])
    (fun operation _ l w h => (carried_ages.calls w.depth operation l { w with reports := [] } trivial
      ⟨h.le, h.ordered⟩).1) ⟨nofun, List.Pairwise.nil⟩

/-- The instance of a constructor is as old as the world in which it is made. -/
theorem id_of_simple {delegate : Factory} (hasked : askedFor? c.operation c.before = some (cell, delegate, t))
    (hsimple : delegate.isSimple = true) (h : c.Delegates cell t (.ok i)) :
    c.resumed.nextObject ≤ i.id ∧ i.id < c.after.nextObject := by
  obtain ⟨depth, operation, w⟩ := c
  obtain ⟨delegate', w', hasked', hdepth, hnone, hdelegate⟩ := h
  cases hasked.symm.trans hasked'
  obtain ⟨depth, rfl⟩ := Nat.exists_eq_add_one.2 hdepth
  have hid : (Call.resumed ⟨depth + 1, operation, w⟩).nextObject = i.id ∧ w'.nextObject = i.id + 1 := by
    cases delegate with
    | simple state counter name order constructor =>
        rw [Call.resumed, Call.program?, started?_of_asked hasked, hnone]
        simp only [getInstance, Nat.add_sub_cancel] at hdelegate
        simp only [Option.isSome_none, Bool.false_eq_true, if_false, constructor?, resumed, Nat.add_sub_cancel]
        split at hdelegate <;> cases hdelegate
        next hbuild =>
          rw [hbuild]
          exact ⟨rfl, rfl⟩
    | _ => cases hsimple
  have hafter : (Call.after ⟨depth + 1, operation, w⟩).nextObject = w'.nextObject := by
    rw [Call.after, execute_of_asked hasked depth]
    rcases getInstanceFor_perTarget_cases (Program.run (execute depth)) cell delegate t (w.holding t) with
      ⟨e, hkept, -⟩ | ⟨-, v, ⟨error, heq, -⟩ | ⟨j, heq, ⟨e, -, hanswer⟩ | ⟨-, hanswer⟩⟩⟩
    · cases hnone.symm.trans hkept
    all_goals cases hdelegate.symm.trans heq
    all_goals
      rw [hanswer]
      rfl
  omega

theorem newEachTime_of_simple {operations : List Operation}
    (hsimple : ∀ c ∈ history operations w, ∀ delegate t,
      askedFor? c.operation c.before = some (cell, delegate, t) → delegate.isSimple = true) :
    NewEachTime cell (history operations w) := by
  refine (ages_history operations w).ordered.imp_of_mem fun {c d} hc hd hcd t t' i j hmade hmade' => ?_
  obtain ⟨delegate, -, hasked, -⟩ := id hmade
  obtain ⟨delegate', -, hasked', -⟩ := id hmade'
  obtain ⟨-, hlt⟩ := id_of_simple hasked (hsimple c hc delegate t hasked) hmade
  obtain ⟨hle, -⟩ := id_of_simple hasked' (hsimple d hd delegate' t' hasked') hmade'
  omega

end Simple

/-- A per-target factory gives each target that it is asked for one aspect, which it shares with no other
target, as long as its delegate makes a new instance each time. It counts the living targets that have had
an answer. Where its delegate fails it changes nothing, and a purge takes the entries of dead targets only. -/
theorem one_aspect_per_target (limit : Nat) (allocator : Allocator) (operations : List Operation) (cell : Nat) :
    let log := history operations { empty limit with allocator := allocator }
    (∀ a i j, Answered cell log a i → Answered cell log a j → i = j) ∧
    (NewEachTime cell log → ∀ a b i j, Answered cell log a i → Answered cell log b j → i.id = j.id → a = b) ∧
    (∀ l c, l ++ [c] <+: log → ∀ delegate, c.after.details? ⟨.perTarget cell delegate, false⟩ =
      some (.perTarget {a | c.after.isLive a = true ∧ ∃ i, Answered cell (l ++ [c]) a i}.ncard)) ∧
    ∀ c ∈ log,
      (∀ t e, c.Delegates cell t (.error e) → c.outcome = .engine e ∧ c.after.entries = c.resumed.entries) ∧
      ∀ id delegate, 0 < c.depth → c.operation = .purge id →
        c.before.factories.lookup id = some ⟨.perTarget cell delegate, false⟩ →
        (∀ e, e ∈ c.after.entries cell ↔ e ∈ c.before.entries cell ∧ c.before.isLive e.target = true) ∧
        (∀ other ≠ cell, c.after.entries other = c.before.entries other) ∧
        ∃ n, c.outcome = .count (some n) ∧ n + (c.after.entries cell).length = (c.before.entries cell).length := by
  intro log
  obtain ⟨hall, halways⟩ := remembers_history cell operations
    (w := { empty limit with allocator := allocator }) ⟨.empty limit allocator, .start rfl⟩
  refine ⟨fun a i j => hall.2.same, fun hnew a b i j => hall.target_eq hnew, fun l c hbegins delegate => ?_,
    fun c _ => ⟨fun t e => entries_of_failure, fun id delegate hdepth hpurge hfactory => ?_⟩⟩
  · rw [(halways l c hbegins).ncard_answered]
    rfl
  · obtain ⟨houtcome, hafter⟩ := eq_of_purge hdepth hpurge hfactory
    rw [hafter, entries_withEntries_self]
    refine ⟨fun e => mem_liveEntries, fun other hother => entries_withEntries_of_ne hother _, _, houtcome, ?_⟩
    exact Nat.sub_add_cancel (List.length_filter_le _ _)

/-- The first call of a constructor asks for the aspect that is being made. -/
def reentrant : Nat → Program
  | 1 => .call (.getFor "each" (some "first")) fun _ => .done (.ok (.text "late"))
  | _ => .done (.ok (.text "audit"))

/-- A target takes the place of one that has died and been purged. -/
def succession : List Operation :=
  [.newSimple "audit" "audit" 0 reentrant, .newPerTarget "each" "audit", .target "first" (.text "a"),
    .getFor "each" (some "first"), .drop "first", .purge "each", .target "second" (.text "b"),
    .getFor "each" (some "second")]

theorem successor_gets_new_aspect :
    let log := history succession (empty 3)
    NewEachTime 1 log ∧
    ∃ c d, c ∈ log ∧ d ∈ log ∧
      (∃ delegate, askedFor? c.operation c.before = some (1, delegate, ⟨0, 1, .text "a"⟩)) ∧
      (∃ delegate, askedFor? d.operation d.before = some (1, delegate, ⟨3, 1, .text "b"⟩)) ∧
      c.outcome = .instance ⟨1, .text "audit"⟩ ∧ d.outcome = .instance ⟨4, .text "audit"⟩ ∧
      ∀ i j, Answered 1 log 0 i → Answered 1 log 3 j → i = ⟨1, .text "audit"⟩ ∧ i.id ≠ j.id := by
  intro log
  have hcheck : (log.all fun c => (askedFor? c.operation c.before).all fun asked => asked.2.1.isSimple) = true :=
    rfl
  have hnew : NewEachTime 1 log := newEachTime_of_simple fun c hc delegate t hasked => by
    simpa [hasked] using List.all_eq_true.1 hcheck c hc
  obtain ⟨hsame, hapart, -⟩ := one_aspect_per_target 3 .upward succession 1
  refine ⟨hnew, log[3], log[8], List.getElem_mem _, List.getElem_mem _, ⟨_, rfl⟩, ⟨_, rfl⟩, rfl, rfl,
    fun i j hi hj => ⟨?_, fun hid => ?_⟩⟩
  · exact hsame 0 i _ hi ⟨log[3], List.getElem_mem _, _, _, rfl, rfl, rfl⟩
  · exact absurd (hapart hnew 0 3 i j hi hj hid) (by decide)

end World

end Weaving
