import Weaving.Proofs.SettingPaths

namespace Weaving.Environment

variable {s : Source} {added sources others : List Source} {key : String} {d : Datum}

/-- Sources from the greatest priority to the least. Those of one priority stand as they were added. -/
structure ByPriority (added sources : List Source) : Prop where
  descending : sources.Pairwise fun s t => t.priority ≤ s.priority
  ties : ∀ p, sources.filter (·.priority == p) = added.filter (·.priority == p)

theorem filter_priority_cons {p : Int} (h : s.priority = p) (sources : List Source) :
    (s :: sources).filter (·.priority == p) = s :: sources.filter (·.priority == p) :=
  List.filter_cons_of_pos (by simpa using h)

theorem priority_le_head {t : Source} (h : (s :: sources).Pairwise fun s t => t.priority ≤ s.priority)
    (ht : t ∈ s :: sources) : t.priority ≤ s.priority := by
  rcases List.mem_cons.1 ht with rfl | ht
  · exact le_rfl
  · exact List.rel_of_pairwise_cons h ht

theorem descending_insertSource (h : sources.Pairwise fun s t => t.priority ≤ s.priority) (s : Source) :
    (insertSource s sources).Pairwise fun s t => t.priority ≤ s.priority := by
  induction sources with
  | nil => exact List.pairwise_singleton _ s
  | cons t rest ih =>
      obtain ⟨hfirst, hrest⟩ := List.pairwise_cons.1 h
      rw [insertSource]
      split
      · next hlt =>
          exact List.pairwise_cons.2 ⟨fun u hu => (priority_le_head h hu).trans hlt.le, h⟩
      · next hle =>
          refine List.pairwise_cons.2 ⟨fun u hu => ?_, ih hrest⟩
          rcases mem_insertSource.1 hu with rfl | hu
          · exact not_lt.1 hle
          · exact hfirst u hu

/-- A source goes behind those of its priority: those that it goes before have a lesser one. -/
theorem filter_insertSource (h : sources.Pairwise fun s t => t.priority ≤ s.priority) (s : Source) (p : Int) :
    (insertSource s sources).filter (·.priority == p) = (sources ++ [s]).filter (·.priority == p) := by
  induction sources with
  | nil => rfl
  | cons t rest ih =>
      rw [insertSource]
      split
      · next hlt =>
          by_cases hp : s.priority = p
          · have hnone : (t :: rest).filter (·.priority == p) = [] := by
              refine List.filter_eq_nil_iff.2 fun u hu => ?_
              have hle : u.priority ≤ t.priority := priority_le_head h hu
              simp only [beq_iff_eq]
              omega
            rw [List.filter_append, hnone, List.filter_cons, hnone, List.nil_append, List.filter_cons,
              List.filter_nil]
          · have hskip : [s].filter (·.priority == p) = [] := by simp [hp]
            rw [List.filter_append, hskip, List.append_nil, ← List.singleton_append, List.filter_append, hskip,
              List.nil_append]
      · rw [List.filter_cons, ih h.of_cons, List.cons_append, List.filter_cons]

theorem ByPriority.insertSource (h : ByPriority added sources) (s : Source) :
    ByPriority (added ++ [s]) (insertSource s sources) where
  descending := descending_insertSource h.descending s
  ties p := by
    rw [filter_insertSource h.descending, List.filter_append, List.filter_append, h.ties]

theorem byPriority_added (added : List Source) : ByPriority added (added.foldl add empty).sources := by
  induction added using List.reverseRecOn with
  | nil => exact ⟨List.Pairwise.nil, fun _ => rfl⟩
  | append_singleton added s ih =>
      rw [List.foldl_concat]
      exact ih.insertSource s

theorem ByPriority.perm (h : ByPriority added sources) : sources.Perm added := by
  classical
  refine List.perm_iff_count.2 fun s => ?_
  have hcount (l : List Source) : (l.filter (·.priority == s.priority)).count s = l.count s :=
    List.count_filter (beq_self_eq_true s.priority)
  rw [← hcount, h.ties, hcount]

/-- The priorities and the order among equal ones leave no choice. -/
theorem ByPriority.unique (h : ByPriority added sources) (h' : ByPriority added others) : sources = others := by
  induction sources generalizing added others with
  | nil => exact (h.perm.trans h'.perm.symm).nil_eq
  | cons s rest ih =>
      have hperm := h.perm.trans h'.perm.symm
      obtain ⟨t, rest', rfl⟩ := List.exists_cons_of_ne_nil (l := others) fun hnil =>
        List.cons_ne_nil s rest (hnil ▸ hperm).eq_nil
      have hle := priority_le_head h.descending (hperm.symm.subset List.mem_cons_self)
      have hge := priority_le_head h'.descending (hperm.subset List.mem_cons_self)
      have hties p := (h.ties p).trans (h'.ties p).symm
      have hsame := hties s.priority
      rw [filter_priority_cons rfl, filter_priority_cons (le_antisymm hle hge)] at hsame
      obtain rfl := (List.cons.inj hsame).1
      refine congrArg (s :: ·) (ih ⟨h.descending.of_cons, fun p => rfl⟩ ⟨h'.descending.of_cons, fun p => ?_⟩)
      have hp := hties p
      rw [List.filter_cons, List.filter_cons] at hp
      split at hp
      · exact (List.cons.inj hp).2.symm
      · exact hp.symm

theorem byPriority_mergeSort (added : List Source) :
    ByPriority added (added.mergeSort fun s t => t.priority ≤ s.priority) := by
  have htrans (a b c : Source) (hab : decide (b.priority ≤ a.priority) = true)
      (hbc : decide (c.priority ≤ b.priority) = true) : decide (c.priority ≤ a.priority) = true := by
    simp only [decide_eq_true_eq] at hab hbc ⊢
    exact hbc.trans hab
  have htotal (a b : Source) :
      (decide (b.priority ≤ a.priority) || decide (a.priority ≤ b.priority)) = true := by
    simpa using le_total b.priority a.priority
  refine ⟨?_, fun p => ?_⟩
  · simpa only [decide_eq_true_eq] using List.pairwise_mergeSort htrans htotal added
  · -- sources of one priority are in order already, and the sort is stable
    have hordered : (added.filter (·.priority == p)).Pairwise
        fun s t => decide (t.priority ≤ s.priority) = true := by
      refine List.pairwise_of_forall_mem_list fun a ha b hb => ?_
      have hpa := List.of_mem_filter ha
      have hpb := List.of_mem_filter hb
      simp only [beq_iff_eq] at hpa hpb
      simp [hpa, hpb]
    have hsub := (List.sublist_mergeSort htrans htotal hordered List.filter_sublist).filter (·.priority == p)
    rw [List.filter_filter, List.filter_congr fun _ _ => Bool.and_self _] at hsub
    exact (hsub.eq_of_length ((List.mergeSort_perm _ _).filter _).length_eq.symm).symm

/-- The added source that counts for a key: it has the key, and any other that has it is of less
priority or, at the same priority, was added later. -/
def Counts (added : List Source) (key : String) (i : Nat) (s : Source) : Prop :=
  added[i]? = some s ∧ (s.get? key).isSome = true ∧
    ∀ j t, added[j]? = some t → (t.get? key).isSome = true →
      t.priority < s.priority ∨ t.priority = s.priority ∧ i ≤ j

theorem Counts.unique {i j : Nat} {t : Source} (h : Counts added key i s) (h' : Counts added key j t) :
    i = j ∧ s = t := by
  have hij := h.2.2 j t h'.1 h'.2.1
  have hji := h'.2.2 i s h.1 h.2.1
  obtain rfl : i = j := by omega
  exact ⟨rfl, Option.some.inj (h.1.symm.trans h'.1)⟩

/-- The first of the sorted sources that has a key counts for it. Behind it the priorities are not
greater, and those of its own priority come in the order in which they were added. -/
theorem ByPriority.exists_counts (h : ByPriority added sources) (hd : sources.findSome? (·.get? key) = some d) :
    ∃ i s, Counts added key i s ∧ s.get? key = some d := by
  obtain ⟨front, s, back, rfl, hs, hfront⟩ := List.findSome?_eq_some_iff.1 hd
  have hfind : (added.filter (·.priority == s.priority)).find? (fun t => (t.get? key).isSome) = some s := by
    have hnone : (front.filter (·.priority == s.priority)).find? (fun t => (t.get? key).isSome) = none := by
      refine List.find?_eq_none.2 fun t ht => ?_
      simp [hfront t (List.mem_of_mem_filter ht)]
    rw [← h.ties, List.filter_append, List.find?_append, hnone, filter_priority_cons rfl,
      List.find?_cons_of_pos (by simp [hs]), Option.none_or]
  rw [List.find?_filter] at hfind
  obtain ⟨-, i, hi, rfl, hbefore⟩ := List.find?_eq_some_iff_getElem.1 hfind
  refine ⟨i, added[i], ⟨List.getElem?_eq_getElem hi, by simp [hs], fun j t hj ht => ?_⟩, hs⟩
  obtain ⟨hlength, rfl⟩ := List.getElem?_eq_some_iff.1 hj
  have hle : added[j].priority ≤ added[i].priority := by
    rcases List.mem_append.1 (h.perm.symm.subset (List.getElem_mem hlength)) with hmem | hmem
    · simp [hfront _ hmem] at ht
    · exact priority_le_head (List.pairwise_append.1 h.descending).2.1 hmem
  refine hle.lt_or_eq.imp_right fun heq => ⟨heq, not_lt.1 fun hlt => ?_⟩
  have hnot := hbefore j hlt
  simp [heq, ht] at hnot

/-- Whatever sources are added: they are kept from the greatest priority to the least, those of one
priority as they were added, so that each addition sorts the list stably with the new source at its end.
A key has the value of the source that counts for it among all that were added, and none if no source
has the key. -/
theorem sources_looked_up_by_priority (added : List Source) :
    let e := added.foldl add empty
    e.sources.Perm added ∧ ByPriority added e.sources ∧
    (∀ s, (e.add s).sources = (e.sources ++ [s]).mergeSort fun s t => t.priority ≤ s.priority) ∧
    ∀ key, (∀ d, e.get? key = some d ↔ ∃ i s, Counts added key i s ∧ s.get? key = some d) ∧
      (e.get? key = none ↔ ∀ s ∈ added, s.get? key = none) := by
  intro e
  have he : ByPriority added e.sources := byPriority_added added
  refine ⟨he.perm, he, fun s => ?_, fun key => ⟨fun d => ⟨he.exists_counts, ?_⟩, ?_⟩⟩
  · exact (ByPriority.insertSource ⟨he.descending, fun _ => rfl⟩ s).unique (byPriority_mergeSort _)
  · rintro ⟨i, s, hs, hd⟩
    have hmem : s ∈ e.sources := he.perm.symm.subset (List.mem_of_getElem? hs.1)
    have hsome : (e.get? key).isSome = true := List.findSome?_isSome_iff.2 ⟨s, hmem, hs.2.1⟩
    obtain ⟨d', hd'⟩ := Option.isSome_iff_exists.1 hsome
    obtain ⟨j, t, ht, htd⟩ := he.exists_counts hd'
    obtain ⟨-, rfl⟩ := hs.unique ht
    rw [hd', ← htd, hd]
  · rw [get?, List.findSome?_eq_none_iff]
    exact forall_congr' fun s => imp_congr_left he.perm.mem_iff

end Weaving.Environment
