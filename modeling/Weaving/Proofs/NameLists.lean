import Mathlib.Data.List.Induction
import Mathlib.Data.List.Sort
import Weaving.Lookup

namespace Weaving

section EraseDups

variable {α : Type} {r : α → α → Bool}

theorem loop_eraseDupsBy_concat (xs kept : List α) (y : α) :
    List.eraseDupsBy.loop r (xs ++ [y]) kept =
      if (List.eraseDupsBy.loop r xs kept).any (r y) then List.eraseDupsBy.loop r xs kept
      else List.eraseDupsBy.loop r xs kept ++ [y] := by
  induction xs generalizing kept with
  | nil =>
      simp only [List.nil_append, List.eraseDupsBy.loop, List.any_reverse]
      cases kept.any (r y) with
      | true => rfl
      | false => exact List.reverse_cons
  | cons x rest ih =>
      simp only [List.cons_append, List.eraseDupsBy.loop]
      by_cases h : kept.any (r x)
      · simp only [h]
        exact ih kept
      · simp only [h]
        exact ih (x :: kept)

/-- The last element stays unless one like it has stayed before. -/
theorem eraseDupsBy_concat (xs : List α) (y : α) :
    (xs ++ [y]).eraseDupsBy r =
      if (xs.eraseDupsBy r).any (r y) then xs.eraseDupsBy r else xs.eraseDupsBy r ++ [y] :=
  loop_eraseDupsBy_concat xs [] y

theorem eraseDups_concat [DecidableEq α] (xs : List α) (y : α) :
    (xs ++ [y]).eraseDups = if y ∈ xs then xs.eraseDups else xs.eraseDups ++ [y] := by
  have hmem : ((xs.eraseDupsBy (· == ·)).any (y == ·)) = decide (y ∈ xs) := by
    rw [Bool.eq_iff_iff, decide_eq_true_eq, ← List.mem_eraseDups, List.any_eq_true]
    simp [List.eraseDups]
  rw [List.eraseDups, eraseDupsBy_concat, hmem]
  by_cases hy : y ∈ xs <;> simp [hy, List.eraseDups]

/-- What is found in a list and freed of repetitions stands in the order of the first places in the
list where it is found. -/
theorem pairwise_idxOf_eraseDups {β : Type} [DecidableEq α] [DecidableEq β] {find : β → Option α}
    {place : α → β} (h : ∀ b a, find b = some a → place a = b) (l : List β) :
    (l.filterMap find).eraseDups.Pairwise fun a b => l.idxOf (place a) < l.idxOf (place b) := by
  induction l using List.reverseRecOn with
  | nil => exact .nil
  | append_singleton l b ih =>
      have hfound : ∀ a ∈ (l.filterMap find).eraseDups, place a ∈ l := by
        intro a ha
        obtain ⟨c, hc, hca⟩ := List.mem_filterMap.1 (List.mem_eraseDups.1 ha)
        rwa [h c a hca]
      have hfront : (l.filterMap find).eraseDups.Pairwise
          fun a c => (l ++ [b]).idxOf (place a) < (l ++ [b]).idxOf (place c) := by
        refine ih.imp_of_mem fun {a c} ha hc hlt => ?_
        rwa [List.idxOf_append_of_mem (hfound a ha), List.idxOf_append_of_mem (hfound c hc)]
      rw [List.filterMap_append]
      cases hb : find b with
      | none => simpa [hb] using hfront
      | some y =>
          have hlast : [b].filterMap find = [y] := by simp [hb]
          rw [hlast, eraseDups_concat]
          split
          · exact hfront
          · next hnew =>
              obtain rfl := h b y hb
              have hnotin : place y ∉ l := fun hmem => hnew (List.mem_filterMap.2 ⟨place y, hmem, hb⟩)
              refine List.pairwise_append.2 ⟨hfront, List.pairwise_singleton _ y, fun a ha c hc => ?_⟩
              obtain rfl := List.mem_singleton.1 hc
              rw [List.idxOf_append_of_mem (hfound a ha), List.idxOf_append_of_notMem hnotin]
              exact Nat.lt_add_right _ (List.idxOf_lt_length_of_mem (hfound a ha))

theorem nodup_eraseDups [DecidableEq α] (l : List α) : l.eraseDups.Nodup := by
  have hplace : ∀ b a : α, some b = some a → id a = b := fun _ _ heq => (Option.some.inj heq).symm
  have hfirst := pairwise_idxOf_eraseDups hplace l
  rw [List.filterMap_some] at hfirst
  refine hfirst.imp fun {a b} hlt heq => ?_
  rw [heq] at hlt
  exact Nat.lt_irrefl _ hlt

end EraseDups

/-- Sorted names stand in their order, each once. -/
theorem pairwise_lt_sorted_eraseDups (names : List String) :
    (names.eraseDups.mergeSort (· ≤ ·)).Pairwise (· < ·) := by
  have hsorted : (names.eraseDups.mergeSort (· ≤ ·)).Pairwise (· ≤ ·) :=
    List.pairwise_mergeSort' (· ≤ ·) names.eraseDups
  have hnodup : (names.eraseDups.mergeSort (· ≤ ·)).Pairwise (· ≠ ·) :=
    (List.mergeSort_perm names.eraseDups _).nodup_iff.2 (nodup_eraseDups names)
  refine hsorted.imp₂ (fun a b hle hne => ?_) hnodup
  exact String.not_le.1 fun hge => hne (String.le_antisymm hle hge)

end Weaving
