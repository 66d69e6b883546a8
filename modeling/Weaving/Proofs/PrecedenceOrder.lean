import Mathlib.Data.Set.Finite.Lemmas
import Mathlib.Order.Defs.LinearOrder
import Weaving.Advice.Precedence

namespace Weaving

namespace Rank

def aspect? (r : Rank) : Option String := r.place.map Prod.fst

def position (r : Rank) : Nat := (r.place.map fun p => p.2.1).getD 0

def isAfter (r : Rank) : Bool := (r.place.map fun p => p.2.2.isAfter).getD false

/-- Places in one aspect at one order. -/
def Siblings (a b : Rank) : Prop := a.order = b.order ∧ a.aspect? = b.aspect? ∧ a.aspect? ≠ none

instance (a b : Rank) : Decidable (a.Siblings b) :=
  inferInstanceAs (Decidable (a.order = b.order ∧ a.aspect? = b.aspect? ∧ a.aspect? ≠ none))

theorem Siblings.symm {a b : Rank} (h : a.Siblings b) : b.Siblings a :=
  ⟨h.1.symm, h.2.1.symm, h.2.1 ▸ h.2.2⟩

theorem Siblings.trans {a b c : Rank} (h : a.Siblings b) (h' : b.Siblings c) : a.Siblings c :=
  ⟨h.1.trans h'.1, h.2.1.trans h'.2.1, h.2.2⟩

/-- Of two places in one aspect, the one that is declared earlier goes first, or the one that
is declared later if an after kind is among the two. -/
def DeclaredFirst (a b : Rank) : Prop :=
  if a.isAfter || b.isAfter then b.position < a.position else a.position < b.position

theorem precedes_of_order_lt {a b : Rank} (h : a.order < b.order) : a.precedes b = true := by
  simp [precedes, compare, compare_lt_iff_lt.2 h]

theorem precedes_of_siblings {a b : Rank} (h : a.Siblings b) :
    a.precedes b = true ↔ a.DeclaredFirst b := by
  obtain ⟨order, place⟩ := a
  obtain ⟨_, place'⟩ := b
  obtain ⟨ho, ha, hn⟩ := h
  obtain rfl : order = _ := ho
  obtain _ | ⟨aspect, i, kind⟩ := place
  · exact absurd rfl hn
  · obtain _ | ⟨aspect', j, kind'⟩ := place'
    · simp [aspect?] at ha
    · obtain rfl : aspect = aspect' := by simpa [aspect?] using ha
      change _ ↔ if kind.isAfter || kind'.isAfter then j < i else i < j
      simp only [precedes, compare, compare_eq_iff_eq.2, ne_eq, not_true_eq_false, if_false,
        beq_iff_eq]
      split <;> simp_all [compare_lt_iff_lt]

theorem siblings_of_precedes {a b : Rank} (h : a.precedes b = true) (ho : a.order = b.order) :
    a.Siblings b := by
  refine ⟨ho, ?_⟩
  obtain ⟨order, place⟩ := a
  obtain ⟨_, place'⟩ := b
  obtain rfl : order = _ := ho
  rcases place with _ | ⟨aspect, i, kind⟩
  · simp [precedes, compare] at h
  · rcases place' with _ | ⟨aspect', j, kind'⟩
    · simp [precedes, compare] at h
    · by_cases ha : aspect = aspect'
      · simp [aspect?, ha]
      · simp [precedes, compare, ha] at h

/-- What it takes to go first. -/
theorem precedes_iff {a b : Rank} :
    a.precedes b = true ↔ a.order < b.order ∨ a.Siblings b ∧ a.DeclaredFirst b := by
  constructor
  · intro h
    rcases lt_trichotomy a.order b.order with hlt | heq | hgt
    · exact .inl hlt
    · have hs := siblings_of_precedes h heq
      exact .inr ⟨hs, (precedes_of_siblings hs).1 h⟩
    · simp [precedes, compare, compare_gt_iff_gt.2 hgt] at h
  · rintro (hlt | ⟨hs, hd⟩)
    · exact precedes_of_order_lt hlt
    · exact (precedes_of_siblings hs).2 hd

theorem order_le_of_precedes {a b : Rank} (h : a.precedes b = true) : a.order ≤ b.order :=
  (precedes_iff.1 h).elim le_of_lt fun e => e.1.1.le

/-- One aspect declares an after kind between two other kinds, all at one order. Each of the
three then goes before another. -/
def Encloses (a b c : Rank) : Prop :=
  a.Siblings b ∧ b.Siblings c ∧ a.position < b.position ∧ b.position < c.position ∧
    a.isAfter = false ∧ b.isAfter = true ∧ c.isAfter = false

instance (a b c : Rank) : Decidable (a.Encloses b c) :=
  inferInstanceAs (Decidable (a.Siblings b ∧ b.Siblings c ∧ a.position < b.position ∧
    b.position < c.position ∧ a.isAfter = false ∧ b.isAfter = true ∧ c.isAfter = false))

end Rank

section Sorting

variable {α : Type} (rank : α → Rank)

theorem isFree_iff {items : List α} {a : α} :
    isFree rank items a = true ↔ ∀ b ∈ items, (rank b).precedes (rank a) = false := by
  simp [isFree]

theorem isFree_eq_false_iff {items : List α} {a : α} :
    isFree rank items a = false ↔ ∃ b ∈ items, (rank b).precedes (rank a) = true := by
  simp [isFree]

theorem order_le_of_isFree {items : List α} {a b : α} (h : isFree rank items a = true)
    (hb : b ∈ items) : (rank a).order ≤ (rank b).order := by
  by_contra hlt
  have := (isFree_iff rank).1 h b hb
  rw [Rank.precedes_of_order_lt (not_le.1 hlt)] at this
  exact Bool.noConfusion this

/-- Each item is preceded by another. -/
def Jammed (items : List α) : Prop := ∀ a ∈ items, isFree rank items a = false

/-- One step of the sort: the first free item is taken out, or the first item at all if the
list is jammed. -/
inductive Pick : List α → α → List α → Prop
  | free (before : List α) (a : α) (behind : List α)
      (hbefore : ∀ b ∈ before, isFree rank (before ++ a :: behind) b = false)
      (hfree : isFree rank (before ++ a :: behind) a = true) :
      Pick (before ++ a :: behind) a (before ++ behind)
  | jam (a : α) (rest : List α) (h : Jammed rank (a :: rest)) : Pick (a :: rest) a rest

theorem takeFirst_picks (a : α) (rest : List α) :
    Pick rank (a :: rest) (takeFirst rank a rest).1 (takeFirst rank a rest).2 := by
  unfold takeFirst
  split
  · next i h =>
      obtain ⟨hi, hfree, hbefore⟩ := List.findIdx?_eq_some_iff_getElem.1 h
      have hsplit : a :: rest = (a :: rest).take i ++ (a :: rest)[i] :: (a :: rest).drop (i + 1) := by
        rw [← List.drop_eq_getElem_cons hi, List.take_append_drop]
      have hp := @Pick.free _ rank ((a :: rest).take i) (a :: rest)[i] ((a :: rest).drop (i + 1))
      rw [← hsplit] at hp
      simp only [List.getElem?_eq_getElem hi, Option.getD_some, List.eraseIdx_eq_take_drop_succ]
      refine hp ?_ hfree
      intro b hb
      obtain ⟨j, hj, rfl⟩ := List.mem_take_iff_getElem.1 hb
      exact Bool.eq_false_iff.2 (hbefore j (lt_of_lt_of_le hj (min_le_left _ _)))
  · next h => exact .jam a rest fun b hb => by simpa using List.findIdx?_eq_none_iff.1 h b hb

variable {rank} {items rest : List α} {a : α}

theorem Pick.takeFirst_eq {b : α} {others : List α} (h : Pick rank (b :: others) a rest) :
    takeFirst rank b others = (a, rest) := by
  generalize hitems : b :: others = items at h
  cases h with
  | free before a behind hbefore hfree =>
      have hindex : (before ++ a :: behind).findIdx? (isFree rank (before ++ a :: behind)) =
          some before.length := by
        rw [List.findIdx?_append, List.findIdx?_eq_none_iff.2 hbefore]
        simp [List.findIdx?_cons, hfree]
      simp [takeFirst, hitems, hindex, List.eraseIdx_append_of_length_le]
  | jam a rest hjam =>
      obtain ⟨rfl, rfl⟩ := List.cons.inj hitems
      simp [takeFirst, List.findIdx?_eq_none_iff.2 hjam]

theorem Pick.perm (h : Pick rank items a rest) : items.Perm (a :: rest) := by
  cases h with
  | free before a behind => exact List.perm_middle
  | jam a rest => exact .refl _

theorem Pick.sortByPrecedence_eq (h : Pick rank items a rest) :
    sortByPrecedence rank items = a :: sortByPrecedence rank rest := by
  cases items with
  | nil => exact absurd h.perm.length_eq (by simp)
  | cons b others => rw [sortByPrecedence, h.takeFirst_eq]

/-- A list is empty, or it has a first step behind which the same holds of what is left. -/
theorem pick_induction (rank : α → Rank) {motive : List α → Prop} (nil : motive [])
    (pick : ∀ items a rest, Pick rank items a rest → motive rest → motive items)
    (items : List α) : motive items := by
  induction items using sortByPrecedence.induct rank with
  | case1 => exact nil
  | case2 a rest next ih => exact pick _ _ _ (takeFirst_picks rank a rest) ih

theorem sortByPrecedence_perm (items : List α) : (sortByPrecedence rank items).Perm items := by
  induction items using pick_induction rank with
  | nil => simp [sortByPrecedence]
  | pick items a rest h ih =>
      rw [h.sortByPrecedence_eq]
      exact (ih.cons a).trans h.perm.symm

/-- What is left before each step of the sort, the whole list first. -/
def remainders (rank : α → Rank) : List α → List (List α)
  | [] => []
  | a :: rest => (a :: rest) :: remainders rank (takeFirst rank a rest).2
termination_by items => items.length
decreasing_by
  simp only [takeFirst_length, List.length_cons]
  omega

theorem Pick.remainders_eq (h : Pick rank items a rest) :
    remainders rank items = items :: remainders rank rest := by
  cases items with
  | nil => exact absurd h.perm.length_eq (by simp)
  | cons b others => rw [remainders, h.takeFirst_eq]

/-- A step takes an item of the least order value, unless the list is jammed behind an item
of a greater one. -/
theorem Pick.order_le_iff (h : Pick rank items a rest) :
    (∀ b ∈ rest, (rank a).order ≤ (rank b).order) ↔
      ∀ c others, c :: others = items → Jammed rank items →
        ∀ b ∈ others, (rank c).order ≤ (rank b).order := by
  cases h with
  | free before a behind hbefore hfree =>
      refine iff_of_true (fun b hb => order_le_of_isFree rank hfree ?_) ?_
      · exact (List.sublist_cons_self a behind).append_left before |>.subset hb
      · intro c others _ hjam
        exact absurd hfree (by simp [hjam a (by simp)])
  | jam a rest hjam =>
      refine ⟨fun hle c others hc _ => ?_, fun hle => hle a rest rfl hjam⟩
      obtain ⟨rfl, rfl⟩ := List.cons.inj hc
      exact hle

/-- The order values of the sorted list never decrease exactly if every jammed list that
the sort comes to begins with an item of the least order value in it. -/
theorem sortByPrecedence_ordered_iff (rank : α → Rank) (items : List α) :
    ((sortByPrecedence rank items).map fun a => (rank a).order).Pairwise (· ≤ ·) ↔
      ∀ a rest, a :: rest ∈ remainders rank items → Jammed rank (a :: rest) →
        ∀ b ∈ rest, (rank a).order ≤ (rank b).order := by
  induction items using pick_induction rank with
  | nil => simp [sortByPrecedence, remainders]
  | pick items a rest h ih =>
      rw [h.sortByPrecedence_eq, h.remainders_eq, List.map_cons, List.pairwise_cons, ih]
      simp only [List.mem_map, forall_exists_index, and_imp, forall_apply_eq_imp_iff₂,
        (sortByPrecedence_perm rest).mem_iff, h.order_le_iff, List.mem_cons]
      constructor
      · rintro ⟨hfirst, hlater⟩ c others (hc | hc) hjam
        · exact hfirst c others hc (hc ▸ hjam)
        · exact hlater c others hc hjam
      · intro hall
        exact ⟨fun c others hc hjam => hall c others (.inl hc) (hc ▸ hjam),
          fun c others hc hjam => hall c others (.inr hc) hjam⟩

/-- Advice of one aspect that goes in a circle lets advice of a greater order go first. -/
theorem sortByPrecedence_disordered :
    ¬ ((sortByPrecedence id [Rank.mk 5 (some ("Late", 0, .before)),
      ⟨1, some ("Log", 0, .before)⟩, ⟨1, some ("Log", 1, .after)⟩,
      ⟨1, some ("Log", 2, .before)⟩]).map Rank.order).Pairwise (· ≤ ·) := by
  decide +kernel

variable (rank) in
/-- Some aspect encloses an after kind among the items. -/
def Interleaved (items : List α) : Prop :=
  ∃ a ∈ items, ∃ b ∈ items, ∃ c ∈ items, (rank a).Encloses (rank b) (rank c)

instance : Decidable (Interleaved rank items) :=
  inferInstanceAs (Decidable
    (∃ a ∈ items, ∃ b ∈ items, ∃ c ∈ items, (rank a).Encloses (rank b) (rank c)))

theorem Interleaved.mono {others : List α} (hsub : items ⊆ others) (h : Interleaved rank items) :
    Interleaved rank others := by
  obtain ⟨a, ha, b, hb, c, hc, henc⟩ := h
  exact ⟨a, hsub ha, b, hsub hb, c, hsub hc, henc⟩

/-- An item of the least order waits for nothing but items of its aspect. -/
theorem isFree_of_least (hleast : ∀ b ∈ items, (rank a).order ≤ (rank b).order)
    (h : ∀ b ∈ items, (rank b).Siblings (rank a) → ¬ (rank b).DeclaredFirst (rank a)) :
    isFree rank items a = true := by
  rw [isFree_iff]
  intro b hb
  rw [Bool.eq_false_iff, ne_eq, Rank.precedes_iff]
  rintro (hlt | ⟨hs, hd⟩)
  · exact absurd (hleast b hb) hlt.not_ge
  · exact h b hb hs hd

/-- A list in which no aspect encloses an after kind has a free item. Among the items of the
least order, look at one aspect: its last item is free if it is of an after kind, and
otherwise its first item of another kind is. -/
theorem exists_isFree (hne : items ≠ []) (h : ¬ Interleaved rank items) :
    ∃ a ∈ items, isFree rank items a = true := by
  have hfin (s : Set α) (hs : s ⊆ {a | a ∈ items}) : s.Finite := items.finite_toSet.subset hs
  obtain ⟨a, ha, hleast⟩ := Set.exists_min_image {a | a ∈ items} (fun a => (rank a).order)
    (hfin _ subset_rfl) (List.exists_mem_of_ne_nil items hne)
  by_cases hplace : (rank a).aspect? = none
  · exact ⟨a, ha, isFree_of_least hleast fun b _ hs => absurd hplace hs.symm.2.2⟩
  let group : Set α := {b | b ∈ items ∧ (rank b).Siblings (rank a)}
  have hgroup : a ∈ group := ⟨ha, rfl, rfl, hplace⟩
  have hfree (c : α) (hc : c ∈ group) (hfirst : ∀ b ∈ group, ¬ (rank b).DeclaredFirst (rank c)) :
      ∃ a ∈ items, isFree rank items a = true := by
    refine ⟨c, hc.1, isFree_of_least (fun b hb => ?_) fun b hb hs => hfirst b ⟨hb, hs.trans hc.2⟩⟩
    rw [hc.2.1]
    exact hleast b hb
  obtain ⟨z, hz, hlast⟩ := Set.exists_max_image group (fun b => (rank b).position)
    (hfin _ fun b hb => hb.1) ⟨a, hgroup⟩
  by_cases hafter : ∃ y ∈ group, (rank y).position = (rank z).position ∧ (rank y).isAfter = true
  · obtain ⟨y, hy, hpos, hay⟩ := hafter
    refine hfree y hy fun b hb hd => ?_
    simp only [Rank.DeclaredFirst, hay, Bool.or_true, if_true] at hd
    exact absurd (hlast b hb) (by omega)
  · have hother : z ∈ {b | b ∈ group ∧ (rank b).isAfter = false} :=
      ⟨hz, Bool.eq_false_iff.2 fun haz => hafter ⟨z, hz, rfl, haz⟩⟩
    obtain ⟨y, hy, hfirst⟩ := Set.exists_min_image {b | b ∈ group ∧ (rank b).isAfter = false}
      (fun b => (rank b).position) (hfin _ fun b hb => hb.1.1) ⟨z, hother⟩
    refine hfree y hy.1 fun b hb hd => ?_
    cases hab : (rank b).isAfter with
    | false =>
        simp only [Rank.DeclaredFirst, hab, hy.2, Bool.or_self, Bool.false_eq_true, if_false] at hd
        exact absurd (hfirst b ⟨hb, hab⟩) (by omega)
    | true =>
        simp only [Rank.DeclaredFirst, hab, Bool.true_or, if_true] at hd
        have hle : (rank b).position ≤ (rank z).position := hlast b hb
        have hne : (rank b).position ≠ (rank z).position := fun e => hafter ⟨b, hb, e, hab⟩
        exact h ⟨y, hy.1.1, b, hb.1, z, hz.1, hy.1.2.trans hb.2.symm, hb.2.trans hz.2.symm, hd,
          by omega, hy.2, hab, hother.2⟩

variable (rank) in
/-- No item stands behind one that it precedes. -/
def ByPrecedence (items : List α) : Prop :=
  items.Pairwise fun a b => (rank b).precedes (rank a) = false

/-- Without an enclosed after kind the sort takes free items only. -/
theorem sortByPrecedence_byPrecedence (h : ¬ Interleaved rank items) :
    ByPrecedence rank (sortByPrecedence rank items) := by
  induction items using pick_induction rank with
  | nil => simp [sortByPrecedence, ByPrecedence]
  | pick items a rest hpick ih =>
      have hrest : rest ⊆ items := fun b hb => hpick.perm.symm.subset (List.mem_cons_of_mem a hb)
      rw [ByPrecedence, hpick.sortByPrecedence_eq, List.pairwise_cons]
      refine ⟨fun b hb => ?_, ih fun hr => h (hr.mono hrest)⟩
      have hfree : isFree rank items a = true := by
        cases hpick with
        | free before a behind _ hfree => exact hfree
        | jam a rest hjam =>
            obtain ⟨c, hc, hfree⟩ := exists_isFree (List.cons_ne_nil a rest) h
            exact absurd hfree (by simp [hjam c hc])
      exact (isFree_iff rank).1 hfree b (hrest ((sortByPrecedence_perm rest).subset hb))

end Sorting

end Weaving
