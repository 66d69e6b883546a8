import Mathlib.Data.List.Perm.Basic
import Weaving.Matching.ClassFilter

namespace Weaving

section Pairing

variable {α : Type} {r : α → α → Bool} {S : α → Prop} {l m : List α}

/-- Whether the elements of two lists can be paired off: each takes the first that is left and that
is related to it. -/
def pairsOff (r : α → α → Bool) : List α → List α → Bool
  | [], m => m.isEmpty
  | a :: l, m => m.any (r a) && pairsOff r l (m.eraseP (r a))

theorem exists_of_pairsOff_cons {a : α} (h : pairsOff r (a :: l) m = true) :
    ∃ b before behind, m = before ++ b :: behind ∧ r a b = true ∧
      pairsOff r l (before ++ behind) = true := by
  obtain ⟨hany, hrest⟩ := Bool.and_eq_true_iff.1 h
  obtain ⟨b, hb, hab⟩ := List.any_eq_true.1 hany
  obtain ⟨c, before, behind, -, hac, rfl, herase⟩ := List.exists_of_eraseP hb hab
  exact ⟨c, before, behind, rfl, hac, herase ▸ hrest⟩

/-- What related elements have in common can be told of paired lists, up to the order. -/
theorem map_perm_of_pairsOff {β : Type} {φ : α → β} (h : pairsOff r l m = true)
    (hφ : ∀ a ∈ l, ∀ b ∈ m, r a b = true → φ a = φ b) : (l.map φ).Perm (m.map φ) := by
  induction l generalizing m with
  | nil => rw [List.isEmpty_iff.1 h]
  | cons a l ih =>
      obtain ⟨b, before, behind, rfl, hab, hrest⟩ := exists_of_pairsOff_cons h
      have hperm : (l.map φ).Perm ((before ++ behind).map φ) := by
        apply ih hrest
        intro c hc d hd
        exact hφ c (List.mem_cons_of_mem a hc) d (List.perm_middle.symm.subset (List.mem_cons_of_mem b hd))
      rw [List.map_cons, hφ a List.mem_cons_self b (by simp) hab]
      exact (hperm.cons _).trans (List.perm_middle.symm.map φ)

/-- Among the given elements the relation is an equivalence. -/
structure EquivalentOn (r : α → α → Bool) (S : α → Prop) : Prop where
  refl : ∀ a, S a → r a a = true
  symm : ∀ a b, S a → S b → r a b = true → r b a = true
  trans : ∀ a b c, S a → S b → S c → r a b = true → r b c = true → r a c = true

theorem EquivalentOn.congr (h : EquivalentOn r S) {a b c : α} (ha : S a) (hb : S b) (hc : S c)
    (hbc : r b c = true) : r a b = r a c := by
  rw [Bool.eq_iff_iff]
  exact ⟨fun hab => h.trans a b c ha hb hc hab hbc,
    fun hac => h.trans a c b ha hc hb hac (h.symm b c hb hc hbc)⟩

/-- Taking the first that is left does not go wrong if the relation is an equivalence: two lists can
be paired off if each class has as many elements in both. -/
theorem pairsOff_iff_countP (h : EquivalentOn r S) (hl : ∀ a ∈ l, S a) (hm : ∀ a ∈ m, S a) :
    pairsOff r l m = true ↔ ∀ a, S a → l.countP (r a) = m.countP (r a) := by
  constructor
  · intro hpairs a ha
    have hperm : (l.map (r a)).Perm (m.map (r a)) :=
      map_perm_of_pairsOff hpairs fun b hb c hc hbc => h.congr ha (hl b hb) (hm c hc) hbc
    have hcount := hperm.countP_eq id
    rwa [List.countP_map, List.countP_map] at hcount
  · intro hcount
    induction l generalizing m with
    | nil =>
        cases m with
        | nil => rfl
        | cons b m =>
            have hb := hm b List.mem_cons_self
            have hnone := hcount b hb
            rw [List.countP_nil, List.countP_cons_of_pos (h.refl b hb)] at hnone
            cases hnone
    | cons a l ih =>
        rw [List.forall_mem_cons] at hl
        have hpos : 0 < m.countP (r a) := by
          rw [← hcount a hl.1, List.countP_cons_of_pos (h.refl a hl.1)]
          exact Nat.succ_pos _
        obtain ⟨b, hb, hab⟩ := List.countP_pos_iff.1 hpos
        obtain ⟨c, before, behind, -, hac, rfl, herase⟩ := List.exists_of_eraseP hb hab
        obtain ⟨hc, hrest⟩ := List.forall_mem_cons.1 fun d hd => hm d (List.perm_middle.symm.subset hd)
        simp only [pairsOff, Bool.and_eq_true]
        refine ⟨List.any_eq_true.2 ⟨b, hb, hab⟩, ?_⟩
        rw [herase]
        refine ih hl.2 hrest fun d hd => ?_
        have hd' := hcount d hd
        rw [List.perm_middle.countP_eq, List.countP_cons, List.countP_cons, h.congr hd hl.1 hc hac] at hd'
        omega

end Pairing

namespace ClassFilter

theorem sameOperands_eq_pairsOff (fs gs : List ClassFilter) : sameOperands fs gs = pairsOff same fs gs := by
  induction fs generalizing gs with
  | nil => rfl
  | cons f fs ih => rw [sameOperands, pairsOff, ih]

/-- Two conditions that count as equal. -/
inductive Alike : ClassFilter → ClassFilter → Prop
  | all : Alike all all
  | exact (name : String) : Alike (exact name) (exact name)
  | assignable (name : String) : Alike (assignable name) (assignable name)
  | pattern (p : NamePattern) : Alike (pattern p) (pattern p)
  | custom (key : String) (accepts accepts' : TypeInfo → Bool) :
      Alike (custom key accepts) (custom key accepts')
  | union {fs gs : List ClassFilter} (h : pairsOff same fs gs = true) : Alike (union fs) (union gs)
  | inter {fs gs : List ClassFilter} (h : pairsOff same fs gs = true) : Alike (inter fs) (inter gs)
  | not {f g : ClassFilter} (h : f.same g = true) : Alike (not f) (not g)

variable {f g : ClassFilter} {fs gs : List ClassFilter}

theorem same_iff_alike : f.same g = true ↔ Alike f g := by
  constructor
  · intro h
    cases f <;> cases g <;> simp only [same, beq_iff_eq, sameOperands_eq_pairsOff, Bool.false_eq_true] at h
    case all => exact .all
    case exact => exact h ▸ .exact _
    case assignable => exact h ▸ .assignable _
    case pattern => exact h ▸ .pattern _
    case custom => exact h ▸ .custom _ _ _
    case union => exact .union h
    case inter => exact .inter h
    case not => exact .not h
  · intro h
    cases h <;> simp_all [same, sameOperands_eq_pairsOff]

section Operands

variable {n : Nat} (h : EquivalentOn same fun f => sizeOf f < n)

include h

theorem pairsOff_refl (hfs : ∀ f ∈ fs, sizeOf f < n) : pairsOff same fs fs = true :=
  (pairsOff_iff_countP h hfs hfs).2 fun _ _ => rfl

theorem pairsOff_symm (hfs : ∀ f ∈ fs, sizeOf f < n) (hgs : ∀ g ∈ gs, sizeOf g < n)
    (hpairs : pairsOff same fs gs = true) : pairsOff same gs fs = true := by
  rw [pairsOff_iff_countP h hfs hgs] at hpairs
  exact (pairsOff_iff_countP h hgs hfs).2 fun f hf => (hpairs f hf).symm

theorem pairsOff_trans {hs : List ClassFilter} (hfs : ∀ f ∈ fs, sizeOf f < n)
    (hgs : ∀ g ∈ gs, sizeOf g < n) (hhs : ∀ e ∈ hs, sizeOf e < n)
    (hpairs : pairsOff same fs gs = true) (hpairs' : pairsOff same gs hs = true) :
    pairsOff same fs hs = true := by
  rw [pairsOff_iff_countP h hfs hgs] at hpairs
  rw [pairsOff_iff_countP h hgs hhs] at hpairs'
  exact (pairsOff_iff_countP h hfs hhs).2 fun f hf => (hpairs f hf).trans (hpairs' f hf)

end Operands

theorem sizeOf_operand_union {n : Nat} (h : sizeOf (union fs) < n + 1) : ∀ f ∈ fs, sizeOf f < n := by
  intro f hf
  have hlt := List.sizeOf_lt_of_mem hf
  rw [union.sizeOf_spec] at h
  omega

theorem sizeOf_operand_inter {n : Nat} (h : sizeOf (inter fs) < n + 1) : ∀ f ∈ fs, sizeOf f < n := by
  intro f hf
  have hlt := List.sizeOf_lt_of_mem hf
  rw [inter.sizeOf_spec] at h
  omega

theorem sizeOf_inner {n : Nat} (h : sizeOf (not f) < n + 1) : sizeOf f < n := by
  rw [not.sizeOf_spec] at h
  omega

/-- Operands can be paired off only because their equality is an equivalence, and equality is one
only because operands can be paired off, so the two go up together with the size. -/
theorem equivalentOn_same (n : Nat) : EquivalentOn same fun f => sizeOf f < n := by
  induction n with
  | zero => exact ⟨fun _ h => absurd h (Nat.not_lt_zero _), fun _ _ h => absurd h (Nat.not_lt_zero _),
      fun _ _ _ h => absurd h (Nat.not_lt_zero _)⟩
  | succ n ih =>
      constructor
      · intro f hf
        rw [same_iff_alike]
        cases f with
        | all => exact .all
        | exact name => exact .exact name
        | assignable name => exact .assignable name
        | pattern p => exact .pattern p
        | custom key accepts => exact .custom key accepts accepts
        | union fs => exact .union (pairsOff_refl ih (sizeOf_operand_union hf))
        | inter fs => exact .inter (pairsOff_refl ih (sizeOf_operand_inter hf))
        | not f => exact .not (ih.refl f (sizeOf_inner hf))
      · intro f g hf hg h
        rw [same_iff_alike] at h ⊢
        cases h with
        | all => exact .all
        | exact name => exact .exact name
        | assignable name => exact .assignable name
        | pattern p => exact .pattern p
        | custom key accepts accepts' => exact .custom key accepts' accepts
        | union h => exact .union (pairsOff_symm ih (sizeOf_operand_union hf) (sizeOf_operand_union hg) h)
        | inter h => exact .inter (pairsOff_symm ih (sizeOf_operand_inter hf) (sizeOf_operand_inter hg) h)
        | not h => exact .not (ih.symm _ _ (sizeOf_inner hf) (sizeOf_inner hg) h)
      · intro e f g he hf hg h h'
        rw [same_iff_alike] at h h' ⊢
        cases h with
        | all | exact | assignable | pattern => exact h'
        | custom key accepts =>
            cases h' with
            | custom => exact .custom key accepts _
        | union h =>
            cases h' with
            | union h' => exact .union (pairsOff_trans ih (sizeOf_operand_union he) (sizeOf_operand_union hf)
                (sizeOf_operand_union hg) h h')
        | inter h =>
            cases h' with
            | inter h' => exact .inter (pairsOff_trans ih (sizeOf_operand_inter he) (sizeOf_operand_inter hf)
                (sizeOf_operand_inter hg) h h')
        | not h =>
            cases h' with
            | not h' => exact .not (ih.trans _ _ _ (sizeOf_inner he) (sizeOf_inner hf) (sizeOf_inner hg) h h')

theorem equivalentOn_all : EquivalentOn same fun _ => True := by
  have hsize (e f g : ClassFilter) : EquivalentOn same fun x => sizeOf x < sizeOf e + sizeOf f + sizeOf g + 1 :=
    equivalentOn_same _
  constructor
  · intro f _
    exact (hsize f f f).refl f (by omega)
  · intro f g _ _
    exact (hsize f g g).symm f g (by omega) (by omega)
  · intro e f g _ _ _
    exact (hsize e f g).trans e f g (by omega) (by omega) (by omega)

instance : EquivBEq ClassFilter where
  rfl := equivalentOn_all.refl _ trivial
  symm := equivalentOn_all.symm _ _ trivial trivial
  trans := equivalentOn_all.trans _ _ _ trivial trivial trivial

theorem pairsOff_of_perm (h : fs.Perm gs) : pairsOff same fs gs = true :=
  (pairsOff_iff_countP equivalentOn_all (fun _ _ => trivial) fun _ _ => trivial).2 fun f _ => h.countP_eq f.same

theorem union_beq_of_perm (h : fs.Perm gs) : (union fs == union gs) = true :=
  same_iff_alike.2 (.union (pairsOff_of_perm h))

theorem inter_beq_of_perm (h : fs.Perm gs) : (inter fs == inter gs) = true :=
  same_iff_alike.2 (.inter (pairsOff_of_perm h))

/-- A property of all conditions: a condition has it if its operands have it. -/
@[elab_as_elim]
theorem operand_induction {motive : ClassFilter → Prop} (all : motive all)
    (exact : ∀ name, motive (exact name))
    (assignable : ∀ name, motive (assignable name)) (pattern : ∀ p, motive (pattern p))
    (custom : ∀ key accepts, motive (custom key accepts))
    (union : ∀ fs, (∀ f ∈ fs, motive f) → motive (union fs))
    (inter : ∀ fs, (∀ f ∈ fs, motive f) → motive (inter fs))
    (not : ∀ f, motive f → motive (not f)) (f : ClassFilter) : motive f :=
  @ClassFilter.rec motive (fun fs => ∀ f ∈ fs, motive f) all exact assignable pattern custom union inter not
    (fun _ h => absurd h List.not_mem_nil) (fun _ _ hf hfs => List.forall_mem_cons.2 ⟨hf, hfs⟩) f

theorem digestSum_eq_foldr (fs : List ClassFilter) : digestSum fs = (fs.map digest).foldr (· + ·) 0 := by
  induction fs with
  | nil => rfl
  | cons f fs ih => rw [digestSum, ih, List.map_cons, List.foldr_cons]

theorem unorderedDigest_eq_of_pairsOff (h : pairsOff same fs gs = true)
    (hfs : ∀ f ∈ fs, ∀ g ∈ gs, f.same g = true → f.digest = g.digest) :
    unorderedDigest fs.length (digestSum fs) = unorderedDigest gs.length (digestSum gs) := by
  have hperm := map_perm_of_pairsOff h hfs
  have hlength : fs.length = gs.length := by simpa using hperm.length_eq
  rw [digestSum_eq_foldr, digestSum_eq_foldr, hperm.foldr_eq 0, hlength]

theorem digest_eq_of_same (h : f.same g = true) : f.digest = g.digest := by
  induction f using operand_induction generalizing g with
  | all | exact | assignable | pattern | custom =>
      rw [same_iff_alike] at h
      cases h
      rfl
  | union fs ih =>
      rw [same_iff_alike] at h
      cases h with
      | union h => rw [digest, digest, unorderedDigest_eq_of_pairsOff h fun f hf g _ => ih f hf]
  | inter fs ih =>
      rw [same_iff_alike] at h
      cases h with
      | inter h => rw [digest, digest, unorderedDigest_eq_of_pairsOff h fun f hf g _ => ih f hf]
  | not f ih =>
      rw [same_iff_alike] at h
      cases h with
      | not h => rw [digest, digest, ih h]

instance : LawfulHashable ClassFilter where
  hash_eq _ _ := digest_eq_of_same

end ClassFilter

end Weaving
