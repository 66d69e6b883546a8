import Mathlib.Data.List.Induction
import Mathlib.Data.String.Basic
import Weaving.Proofs.NameLists
import Weaving.Table

namespace Weaving

namespace Table

variable {α : Type} {key other : String} {a b : α}

theorem lookup_cons_of_ne (h : other ≠ key) (a : α) (t : Table α) :
    List.lookup other ((key, a) :: t) = t.lookup other := by
  rw [List.lookup_cons, beq_false_of_ne h]

theorem get?_insert_self (t : Table α) (key : String) (a : α) : (t.insert key a).get? key = some a := by
  induction t with
  | nil => simp [insert, get?]
  | cons e rest ih =>
      obtain ⟨k, c⟩ := e
      rw [insert]
      split
      · simp [get?]
      · next hne =>
          split
          · simp [get?]
          · exact (lookup_cons_of_ne hne c _).trans ih

theorem get?_insert_of_ne (h : other ≠ key) (t : Table α) (a : α) :
    (t.insert key a).get? other = t.get? other := by
  induction t with
  | nil => exact lookup_cons_of_ne h a []
  | cons e rest ih =>
      obtain ⟨k, c⟩ := e
      rw [insert]
      split
      · next heq =>
          obtain rfl : key = k := heq
          exact (lookup_cons_of_ne h a rest).trans (lookup_cons_of_ne h c rest).symm
      · split
        · exact lookup_cons_of_ne h a _
        · rw [get?, List.lookup_cons, get?, List.lookup_cons]
          split
          · rfl
          · exact ih

theorem isSome_get?_iff {t : Table α} : (t.get? key).isSome = true ↔ key ∈ t.keys := by
  constructor
  · intro h
    obtain ⟨a, ha⟩ := Option.isSome_iff_exists.1 h
    exact List.mem_map.2 ⟨(key, a), mem_of_lookup ha, rfl⟩
  · intro h
    obtain ⟨e, he, rfl⟩ := List.mem_map.1 h
    refine Option.isSome_iff_ne_none.2 fun hnone => ?_
    simpa using List.lookup_eq_none_iff.1 hnone e he

theorem insert_insert (t : Table α) (key : String) (a b : α) :
    (t.insert key a).insert key b = t.insert key b := by
  induction t with
  | nil => simp [insert]
  | cons e rest ih =>
      obtain ⟨k, c⟩ := e
      by_cases heq : key = k
      · simp [insert, heq]
      · by_cases hlt : key < k <;> simp [insert, heq, hlt, ih]

/-- Of two keys the smaller one comes first, whichever is put in first. -/
theorem insert_comm_of_lt (h : key < other) (t : Table α) (a b : α) :
    (t.insert key a).insert other b = (t.insert other b).insert key a := by
  induction t with
  | nil => simp [insert, h, h.ne, h.ne', h.not_gt]
  | cons e rest ih =>
      obtain ⟨k, c⟩ := e
      rcases lt_trichotomy key k with hk | rfl | hk
      · rcases lt_trichotomy other k with ho | rfl | ho
        · simp [insert, h, h.ne, h.ne', h.not_gt, hk, hk.ne, ho, ho.ne]
        · simp [insert, h, h.ne, h.ne', h.not_gt]
        · simp [insert, h.ne', h.not_gt, hk, hk.ne, ho.ne', ho.not_gt]
      · simp [insert, h.ne', h.not_gt]
      · have ho := hk.trans h
        simp [insert, hk.ne', hk.not_gt, ho.ne', ho.not_gt, ih]

theorem insert_comm (h : key ≠ other) (t : Table α) (a b : α) :
    (t.insert key a).insert other b = (t.insert other b).insert key a := by
  rcases lt_or_gt_of_ne h with hlt | hlt
  · exact insert_comm_of_lt hlt t a b
  · exact (insert_comm_of_lt hlt t b a).symm

theorem mem_insert {e : String × α} {t : Table α} (h : e ∈ t.insert key a) : e = (key, a) ∨ e ∈ t := by
  induction t with
  | nil => exact .inl (List.mem_singleton.1 h)
  | cons f rest ih =>
      rw [insert] at h
      split at h
      · exact (List.mem_cons.1 h).imp_right (List.mem_cons_of_mem _)
      · split at h
        · exact List.mem_cons.1 h
        · rcases List.mem_cons.1 h with rfl | h
          · exact .inr List.mem_cons_self
          · exact (ih h).imp_right (List.mem_cons_of_mem _)

theorem pairwise_insert {t : Table α} (h : t.Pairwise (·.1 < ·.1)) : (t.insert key a).Pairwise (·.1 < ·.1) := by
  induction t with
  | nil => exact List.pairwise_singleton _ _
  | cons e rest ih =>
      obtain ⟨k, c⟩ := e
      obtain ⟨hk, hrest⟩ := List.pairwise_cons.1 h
      rw [insert]
      split
      · next heq =>
          obtain rfl : key = k := heq
          exact List.pairwise_cons.2 ⟨hk, hrest⟩
      · next hne =>
          split
          · next hlt =>
              refine List.pairwise_cons.2 ⟨fun f hf => ?_, h⟩
              rcases List.mem_cons.1 hf with rfl | hf
              · exact hlt
              · exact hlt.trans (hk f hf)
          · next hnot =>
              refine List.pairwise_cons.2 ⟨fun f hf => ?_, ih hrest⟩
              rcases mem_insert hf with rfl | hf
              · exact lt_of_le_of_ne (not_lt.1 hnot) (Ne.symm hne)
              · exact hk f hf

theorem pairwise_foldl_insert (entries : List (String × α)) {t : Table α} (h : t.Pairwise (·.1 < ·.1)) :
    (entries.foldl (fun t e => t.insert e.1 e.2) t).Pairwise (·.1 < ·.1) := by
  induction entries generalizing t with
  | nil => exact h
  | cons e rest ih => exact ih (pairwise_insert h)

theorem pairwise_ofList (entries : List (String × α)) : (ofList entries).Pairwise (·.1 < ·.1) :=
  pairwise_foldl_insert entries List.Pairwise.nil

theorem nodup_keys {t : Table α} (h : t.Pairwise (·.1 < ·.1)) : t.keys.Nodup :=
  List.pairwise_map.2 (h.imp fun hlt => hlt.ne)

theorem nodup_keys_ofList (entries : List (String × α)) : (ofList entries).keys.Nodup :=
  nodup_keys (pairwise_ofList entries)

theorem perm_insert_cons {t : Table α} (h : key ∉ t.keys) : (t.insert key a).Perm ((key, a) :: t) := by
  induction t with
  | nil => exact List.Perm.refl _
  | cons e rest ih =>
      obtain ⟨hne, hrest⟩ := not_or.1 (List.mem_cons.not.1 h)
      rw [insert, if_neg hne]
      split
      · exact List.Perm.refl _
      · exact ((ih hrest).cons e).trans (List.Perm.swap _ _ rest)

theorem ofList_concat (entries : List (String × α)) (e : String × α) :
    ofList (entries ++ [e]) = (ofList entries).insert e.1 e.2 := List.foldl_concat _ _ _ _

theorem mem_ofList {entries : List (String × α)} {e : String × α} (h : e ∈ ofList entries) : e ∈ entries := by
  induction entries using List.reverseRecOn with
  | nil => cases h
  | append_singleton entries e' ih =>
      rw [ofList_concat] at h
      rcases mem_insert h with rfl | h
      · exact List.mem_append_right _ (List.mem_singleton_self _)
      · exact List.mem_append_left _ (ih h)

theorem insert_of_greatest {t : Table α} (h : ∀ e ∈ t, e.1 < key) (a : α) : t.insert key a = t ++ [(key, a)] := by
  induction t with
  | nil => rfl
  | cons e rest ih =>
      obtain ⟨hlt, hrest⟩ := List.forall_mem_cons.1 h
      rw [insert, if_neg hlt.ne', if_neg hlt.not_gt, ih hrest, List.cons_append]

/-- Sorted entries are a table already. -/
theorem ofList_eq_self {t : Table α} (h : t.Pairwise (·.1 < ·.1)) : ofList t = t := by
  induction t using List.reverseRecOn with
  | nil => rfl
  | append_singleton t e ih =>
      obtain ⟨ht, -, hlt⟩ := List.pairwise_append.1 h
      rw [ofList_concat, ih ht, insert_of_greatest fun e' he' => hlt e' he' e (List.mem_singleton_self e)]

theorem perm_ofList {entries : List (String × α)} (h : (entries.map Prod.fst).Nodup) :
    (ofList entries).Perm entries := by
  induction entries using List.reverseRecOn with
  | nil => exact List.Perm.refl _
  | append_singleton entries e ih =>
      rw [List.map_append, List.nodup_append] at h
      obtain ⟨hentries, -, hapart⟩ := h
      have hnew : e.1 ∉ (ofList entries).keys := by
        intro hmem
        exact hapart e.1 (((ih hentries).map Prod.fst).subset hmem) e.1 (List.mem_singleton_self _) rfl
      rw [ofList_concat]
      refine (perm_insert_cons hnew).trans (((ih hentries).cons e).trans ?_)
      exact (List.perm_append_singleton e entries).symm

end Table

end Weaving
