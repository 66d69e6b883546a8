namespace Weaving

variable {α β : Type} [BEq α] [LawfulBEq α] {l : List (α × β)} {a : α} {b : β}

theorem mem_of_lookup (h : l.lookup a = some b) : (a, b) ∈ l := by
  obtain ⟨l₁, l₂, rfl, -⟩ := List.lookup_eq_some_iff.1 h
  exact List.mem_append_right _ List.mem_cons_self

theorem lookup_eq_some_iff_mem (h : (l.map Prod.fst).Nodup) : l.lookup a = some b ↔ (a, b) ∈ l := by
  refine ⟨mem_of_lookup, fun hmem => ?_⟩
  induction l with
  | nil => cases hmem
  | cons e rest ih =>
      obtain ⟨c, d⟩ := e
      rw [List.map_cons, List.nodup_cons] at h
      rcases List.mem_cons.1 hmem with heq | hrest
      · cases heq
        exact List.lookup_cons_self
      · have hne : (a == c) = false := by
          rw [beq_eq_false_iff_ne]
          rintro rfl
          exact h.1 (List.mem_map.2 ⟨(a, b), hrest, rfl⟩)
        rw [List.lookup_cons, hne]
        exact ih h.2 hrest

/-- Entries under another key do not matter. -/
theorem lookup_filter_ne {key other : α} (l : List (α × β)) (h : other ≠ key) :
    (l.filter fun e => e.1 != key).lookup other = l.lookup other := by
  induction l with
  | nil => rfl
  | cons e rest ih =>
      obtain ⟨c, d⟩ := e
      by_cases hkey : c = key
      · have hne : (other == c) = false := by simp [hkey, h]
        rw [List.filter_cons_of_neg (by simp [hkey]), List.lookup_cons, hne, ih]
      · rw [List.filter_cons_of_pos (by simp [hkey]), List.lookup_cons, List.lookup_cons, ih]

end Weaving
