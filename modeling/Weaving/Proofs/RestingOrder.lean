import Weaving.Proofs.PrecedenceOrder

namespace Weaving

section Sorting

variable {α : Type} {rank : α → Rank} {items others rest : List α} {a : α}

theorem isFree_perm (h : items.Perm others) (a : α) : isFree rank items a = isFree rank others a :=
  h.all_eq

theorem Jammed.perm (h : items.Perm others) (hjam : Jammed rank items) : Jammed rank others := by
  intro a ha
  rw [← isFree_perm h]
  exact hjam a (h.symm.subset ha)

/-- From each item on, the item is free or the list is jammed. -/
def AtRest (rank : α → Rank) (items : List α) : Prop :=
  ∀ a rest, a :: rest <:+ items → isFree rank (a :: rest) a = true ∨ Jammed rank (a :: rest)

theorem atRest_cons : AtRest rank (a :: rest) ↔
    (isFree rank (a :: rest) a = true ∨ Jammed rank (a :: rest)) ∧ AtRest rank rest := by
  constructor
  · intro h
    exact ⟨h a rest List.suffix_rfl, fun b behind hb => h b behind (hb.trans (List.suffix_cons a rest))⟩
  · rintro ⟨hfirst, hrest⟩ b behind hb
    rcases List.suffix_cons_iff.1 hb with heq | hb
    · obtain ⟨rfl, rfl⟩ := List.cons.inj heq
      exact hfirst
    · exact hrest b behind hb

theorem Pick.isFree_or_jammed (h : Pick rank items a rest) :
    isFree rank items a = true ∨ Jammed rank items := by
  cases h with
  | free before a behind _ hfree => exact .inl hfree
  | jam a rest hjam => exact .inr hjam

theorem Pick.head (h : isFree rank (a :: rest) a = true ∨ Jammed rank (a :: rest)) :
    Pick rank (a :: rest) a rest :=
  h.elim (.free [] a rest fun _ hb => absurd hb List.not_mem_nil) (.jam a rest)

/-- What a step takes was free among the items that were left, or these were jammed. Both depend on
which items are left and not on their order, so the item still is where the sort has put it. -/
theorem atRest_sortByPrecedence (items : List α) : AtRest rank (sortByPrecedence rank items) := by
  induction items using pick_induction rank with
  | nil =>
      intro a rest h
      rw [sortByPrecedence] at h
      exact absurd (List.suffix_nil.1 h) (List.cons_ne_nil a rest)
  | pick items a rest hpick ih =>
      have hperm : items.Perm (a :: sortByPrecedence rank rest) :=
        hpick.perm.trans ((sortByPrecedence_perm rest).symm.cons a)
      rw [hpick.sortByPrecedence_eq, atRest_cons, ← isFree_perm hperm]
      exact ⟨hpick.isFree_or_jammed.imp_right (Jammed.perm hperm), ih⟩

theorem AtRest.sortByPrecedence_eq (h : AtRest rank items) : sortByPrecedence rank items = items := by
  induction items with
  | nil => rw [sortByPrecedence]
  | cons a rest ih =>
      obtain ⟨hfirst, hrest⟩ := atRest_cons.1 h
      rw [(Pick.head hfirst).sortByPrecedence_eq, ih hrest]

/-- The sort loses and adds nothing, and a second sort moves nothing, also where items go before each
other in a circle. The lists that it leaves alone are those at rest. -/
theorem sortByPrecedence_idempotent (rank : α → Rank) (items : List α) :
    (sortByPrecedence rank items).Perm items ∧
      sortByPrecedence rank (sortByPrecedence rank items) = sortByPrecedence rank items ∧
      (sortByPrecedence rank items = items ↔ AtRest rank items) := by
  have hrest : AtRest rank (sortByPrecedence rank items) := atRest_sortByPrecedence items
  refine ⟨sortByPrecedence_perm items, hrest.sortByPrecedence_eq, fun heq => ?_, AtRest.sortByPrecedence_eq⟩
  rwa [heq] at hrest

end Sorting

end Weaving
