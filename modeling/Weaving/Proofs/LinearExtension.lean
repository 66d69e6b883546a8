import Mathlib.Logic.Relation
import Weaving.Proofs.PrecedenceOrder

namespace Weaving

theorem Rank.precedes_self (a : Rank) : a.precedes a = false := by
  rw [Bool.eq_false_iff, ne_eq, Rank.precedes_iff]
  rintro (hlt | ⟨-, hd⟩)
  · exact lt_irrefl _ hlt
  · simp [Rank.DeclaredFirst] at hd

theorem Rank.Encloses.precedes {a b c : Rank} (h : a.Encloses b c) :
    a.precedes c = true ∧ c.precedes b = true ∧ b.precedes a = true := by
  obtain ⟨hab, hbc, hfirst, hlast, ha, hb, hc⟩ := h
  refine ⟨?_, ?_, ?_⟩
  · rw [Rank.precedes_of_siblings (hab.trans hbc)]
    simp only [Rank.DeclaredFirst, ha, hc, Bool.or_self, Bool.false_eq_true, if_false]
    omega
  · rw [Rank.precedes_of_siblings hbc.symm]
    simpa [Rank.DeclaredFirst, hb] using hlast
  · rw [Rank.precedes_of_siblings hab.symm]
    simpa [Rank.DeclaredFirst, hb] using hfirst

section Sorting

variable {α : Type} {rank : α → Rank} {items : List α}

/-- One of the items goes strictly before another. -/
def StepsBefore (rank : α → Rank) (items : List α) (a b : α) : Prop :=
  a ∈ items ∧ b ∈ items ∧ (rank a).precedes (rank b) = true

/-- Some items go before each other in a circle. -/
def Circular (rank : α → Rank) (items : List α) : Prop :=
  ∃ a, Relation.TransGen (StepsBefore rank items) a a

theorem circular_of_interleaved (h : Interleaved rank items) : Circular rank items := by
  obtain ⟨a, ha, b, hb, c, hc, henc⟩ := h
  obtain ⟨hac, hcb, hba⟩ := henc.precedes
  have hpath : Relation.TransGen (StepsBefore rank items) a b :=
    .tail (.single ⟨ha, hc, hac⟩) ⟨hc, hb, hcb⟩
  exact ⟨a, hpath.tail ⟨hb, ha, hba⟩⟩

/-- The items that stand on circles wait for each other. -/
theorem exists_jammed_of_circular (h : Circular rank items) :
    ∃ circle, circle.Sublist items ∧ circle ≠ [] ∧ Jammed rank circle := by
  classical
  obtain ⟨a, ha⟩ := h
  let circle := items.filter fun b => Relation.TransGen (StepsBefore rank items) b b
  have hmem {b : α} (hb : Relation.TransGen (StepsBefore rank items) b b) : b ∈ circle := by
    obtain ⟨c, -, hstep⟩ := Relation.TransGen.tail'_iff.1 hb
    exact List.mem_filter.2 ⟨hstep.2.1, by simpa using hb⟩
  refine ⟨circle, List.filter_sublist, List.ne_nil_of_mem (hmem ha), fun b hb => ?_⟩
  have hcircle : Relation.TransGen (StepsBefore rank items) b b := by
    simpa using (List.mem_filter.1 hb).2
  -- the last item on the way round goes before `b` and stands on the same circle
  obtain ⟨c, hreach, hstep⟩ := Relation.TransGen.tail'_iff.1 hcircle
  rw [isFree_eq_false_iff]
  exact ⟨c, hmem (.head' hstep hreach), hstep.2.2⟩

theorem interleaved_of_circular (h : Circular rank items) : Interleaved rank items := by
  by_contra hnot
  obtain ⟨circle, hsub, hne, hjam⟩ := exists_jammed_of_circular h
  have hcircle : ¬ Interleaved rank circle := fun hc => hnot (hc.mono hsub.subset)
  obtain ⟨a, ha, hfree⟩ := exists_isFree hne hcircle
  exact absurd hfree (by simp [hjam a ha])

theorem isFree_head {a : α} {rest : List α} (h : ByPrecedence rank (a :: rest)) :
    isFree rank (a :: rest) a = true := by
  rw [isFree_iff]
  intro b hb
  rcases List.mem_cons.1 hb with rfl | hb
  · exact Rank.precedes_self _
  · exact List.rel_of_pairwise_cons h hb

theorem ByPrecedence.not_circular (h : ByPrecedence rank items) : ¬ Circular rank items := by
  intro hcircular
  obtain ⟨circle, hsub, hne, hjam⟩ := exists_jammed_of_circular hcircular
  have hcircle : ByPrecedence rank circle := List.Pairwise.sublist hsub h
  obtain ⟨a, rest, rfl⟩ := List.exists_cons_of_ne_nil hne
  have hfree := isFree_head hcircle
  exact absurd hfree (by simp [hjam a List.mem_cons_self])

theorem Circular.perm {others : List α} (hperm : items.Perm others) (h : Circular rank items) :
    Circular rank others := by
  obtain ⟨a, ha⟩ := h
  refine ⟨a, Relation.TransGen.mono (fun b c hstep => ?_) a a ha⟩
  exact ⟨hperm.subset hstep.1, hperm.subset hstep.2.1, hstep.2.2⟩

theorem ByPrecedence.sortByPrecedence_eq (h : ByPrecedence rank items) :
    sortByPrecedence rank items = items := by
  induction items with
  | nil => simp [sortByPrecedence]
  | cons a rest ih =>
      have hpick : Pick rank (a :: rest) a rest :=
        .free [] a rest (by simp) (isFree_head h)
      rw [hpick.sortByPrecedence_eq, ih (List.Pairwise.of_cons h)]

/-- Precedence is circular exactly if some aspect encloses an after kind. Otherwise the sort puts no
item behind one that it precedes, and it leaves a list alone in which none stands so already. -/
theorem sortByPrecedence_extends_precedence (rank : α → Rank) (items : List α) :
    (Circular rank items ↔ Interleaved rank items) ∧
      (sortByPrecedence rank items).Perm items ∧
      (ByPrecedence rank (sortByPrecedence rank items) ↔ ¬ Interleaved rank items) ∧
      (ByPrecedence rank items → sortByPrecedence rank items = items) := by
  have hperm : (sortByPrecedence rank items).Perm items := sortByPrecedence_perm items
  refine ⟨⟨interleaved_of_circular, circular_of_interleaved⟩, hperm, ⟨?_, ?_⟩, ?_⟩
  · intro hsorted hinterleaved
    have hcircular := (circular_of_interleaved hinterleaved).perm hperm.symm
    exact hsorted.not_circular hcircular
  · exact sortByPrecedence_byPrecedence
  · exact ByPrecedence.sortByPrecedence_eq

end Sorting

end Weaving
