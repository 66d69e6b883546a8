import Weaving.Matching.Pointcut
import Weaving.Proofs.FilterEquality

namespace Weaving

instance equivBEq_option {α : Type} [BEq α] [EquivBEq α] : EquivBEq (Option α) where
  rfl {a} := by
    cases a with
    | none => rfl
    | some a => exact BEq.rfl (a := a)
  symm {a b} h := by
    cases a <;> cases b
    case none.none => rfl
    case some.some a b => exact BEq.symm (a := a) h
    all_goals cases h
  trans {a b c} h h' := by
    cases a <;> cases b <;> cases c
    case none.none.none => rfl
    case some.some.some a b c => exact BEq.trans (a := a) h h'
    case none.none.some | some.some.none => cases h'
    all_goals cases h

instance lawfulHashable_option {α : Type} [BEq α] [Hashable α] [LawfulHashable α] :
    LawfulHashable (Option α) where
  hash_eq a b h := by
    cases a <;> cases b
    case none.none => rfl
    case some.some a b => exact congrArg (mixHash · 13) (hash_eq (a := a) h)
    all_goals cases h

namespace MethodMatcher

/-- Two matchers that count as equal, with the sides of a union or an intersection in the same
order or crossed. A side of a union goes with its filter. -/
inductive Alike : MethodMatcher → MethodMatcher → Prop
  | all : Alike all all
  | static (key : String) (check check' : Method → TypeInfo → Bool) :
      Alike (static key check) (static key check')
  | dynamic {d e : DynamicMatcher} (h : d.key = e.key) : Alike (dynamic d) (dynamic e)
  | ofClass {f g : ClassFilter} (h : (f == g) = true) : Alike (ofClass f) (ofClass g)
  | union {l r l' r' : MethodMatcher} {f g f' g' : Option ClassFilter} (hl : Alike l l')
      (hf : (f == f') = true) (hr : Alike r r') (hg : (g == g') = true) :
      Alike (union l f r g) (union l' f' r' g')
  | unionCrossed {l r l' r' : MethodMatcher} {f g f' g' : Option ClassFilter} (hl : Alike l r')
      (hf : (f == g') = true) (hr : Alike r l') (hg : (g == f') = true) :
      Alike (union l f r g) (union l' f' r' g')
  | inter {l r l' r' : MethodMatcher} (hl : Alike l l') (hr : Alike r r') :
      Alike (inter l r) (inter l' r')
  | interCrossed {l r l' r' : MethodMatcher} (hl : Alike l r') (hr : Alike r l') :
      Alike (inter l r) (inter l' r')
  | not {m n : MethodMatcher} (h : Alike m n) : Alike (not m) (not n)

variable {m n k : MethodMatcher}

theorem alike_of_same (h : m.same n = true) : Alike m n := by
  induction m generalizing n <;> cases n <;>
    simp only [same, beq_iff_eq, Bool.or_eq_true, Bool.and_eq_true, Bool.false_eq_true] at h
  case all.all => exact .all
  case static.static => exact h ▸ .static _ _ _
  case dynamic.dynamic => exact .dynamic h
  case ofClass.ofClass => exact .ofClass h
  case union.union l f r g ihl ihr l' f' r' g' =>
    split at h
    · next hfirst =>
        obtain ⟨hr, hg⟩ := Bool.and_eq_true_iff.1 h
        exact .union (ihl hfirst.1) hfirst.2 (ihr hr) hg
    · simp only [Bool.and_eq_true] at h
      exact .unionCrossed (ihl h.1.1) h.1.2 (ihr h.2.1) h.2.2
  case inter.inter l r ihl ihr l' r' =>
    rcases h with ⟨hl, hr⟩ | ⟨hl, hr⟩
    · exact .inter (ihl hl) (ihr hr)
    · exact .interCrossed (ihl hl) (ihr hr)
  case not.not m ih m' => exact .not (ih h)

theorem Alike.refl (m : MethodMatcher) : Alike m m := by
  induction m with
  | all => exact .all
  | static key check => exact .static key check check
  | dynamic leaf => exact .dynamic rfl
  | ofClass filter => exact .ofClass BEq.rfl
  | union l f r g ihl ihr => exact .union ihl BEq.rfl ihr BEq.rfl
  | inter l r ihl ihr => exact .inter ihl ihr
  | not m ih => exact .not ih

theorem Alike.symm (h : Alike m n) : Alike n m := by
  induction h with
  | all => exact .all
  | static key check check' => exact .static key check' check
  | dynamic h => exact .dynamic h.symm
  | ofClass h => exact .ofClass (BEq.symm h)
  | union _ hf _ hg ihl ihr => exact .union ihl (BEq.symm hf) ihr (BEq.symm hg)
  | unionCrossed _ hf _ hg ihl ihr => exact .unionCrossed ihr (BEq.symm hg) ihl (BEq.symm hf)
  | inter _ _ ihl ihr => exact .inter ihl ihr
  | interCrossed _ _ ihl ihr => exact .interCrossed ihr ihl
  | not _ ih => exact .not ih

theorem Alike.trans (h : Alike m n) (h' : Alike n k) : Alike m k := by
  -- Sides that are crossed twice are back in their order.
  induction h generalizing k with
  | all => exact h'
  | static key check =>
      cases h' with
      | static => exact .static key check _
  | dynamic h =>
      cases h' with
      | dynamic h' => exact .dynamic (h.trans h')
  | ofClass h =>
      cases h' with
      | ofClass h' => exact .ofClass (BEq.trans h h')
  | union _ hf _ hg ihl ihr =>
      cases h' with
      | union hl hf' hr hg' => exact .union (ihl hl) (BEq.trans hf hf') (ihr hr) (BEq.trans hg hg')
      | unionCrossed hl hf' hr hg' =>
          exact .unionCrossed (ihl hl) (BEq.trans hf hf') (ihr hr) (BEq.trans hg hg')
  | unionCrossed _ hf _ hg ihl ihr =>
      cases h' with
      | union hl hf' hr hg' => exact .unionCrossed (ihl hr) (BEq.trans hf hg') (ihr hl) (BEq.trans hg hf')
      | unionCrossed hl hf' hr hg' =>
          exact .union (ihl hr) (BEq.trans hf hg') (ihr hl) (BEq.trans hg hf')
  | inter _ _ ihl ihr =>
      cases h' with
      | inter hl hr => exact .inter (ihl hl) (ihr hr)
      | interCrossed hl hr => exact .interCrossed (ihl hl) (ihr hr)
  | interCrossed _ _ ihl ihr =>
      cases h' with
      | inter hl hr => exact .interCrossed (ihl hr) (ihr hl)
      | interCrossed hl hr => exact .inter (ihl hr) (ihr hl)
  | not _ ih =>
      cases h' with
      | not h' => exact .not (ih h')

/-- The first side of a union may take a side that the second one has to leave alone. Then all four
sides are alike. -/
theorem Alike.same_eq (h : Alike m n) : m.same n = true := by
  induction m generalizing n with
  | all | static | dynamic | ofClass =>
      cases h
      simp_all [same]
  | union l f r g ihl ihr =>
      cases h with
      | @union _ _ l' r' _ _ f' g' hl hf hr hg => simp [same, ihl hl, hf, ihr hr, hg]
      | @unionCrossed _ _ l' r' _ _ f' g' hl hf hr hg =>
          rw [same]
          split
          · next hfirst =>
              obtain ⟨hll, hff⟩ := Bool.and_eq_true_iff.1 hfirst
              have hrr : Alike r r' := (hr.trans (alike_of_same hll).symm).trans hl
              have hgg : (g == g') = true := BEq.trans (BEq.trans hg (BEq.symm hff)) hf
              rw [ihr hrr, hgg]
              rfl
          · simp [ihl hl, hf, ihr hr, hg]
  | inter l r ihl ihr =>
      cases h with
      | inter hl hr => simp [same, ihl hl, ihr hr]
      | interCrossed hl hr => simp [same, ihl hl, ihr hr]
  | not m ih =>
      cases h with
      | not h => exact ih h

theorem beq_iff_alike : (m == n) = true ↔ Alike m n := ⟨alike_of_same, Alike.same_eq⟩

/-- The sides of unions are compared as operands are: they have to pair off. -/
theorem same_union_eq_pairsOff (l r l' r' : MethodMatcher) (f g f' g' : Option ClassFilter) :
    (union l f r g).same (union l' f' r' g') =
      pairsOff (fun side other => side.1.same other.1 && side.2 == other.2) [(l, f), (r, g)] [(l', f'), (r', g')] := by
  cases hfirst : l.same l' && f == f' with
  | true =>
      cases hsecond : r.same r' && g == g' <;> simp [same, pairsOff, hfirst, hsecond]
  | false =>
      cases hcrossed : l.same r' && f == g' <;> cases hsecond : r.same l' && g == f' <;>
        simp [same, pairsOff, hfirst, hcrossed, hsecond]

instance : EquivBEq MethodMatcher where
  rfl := beq_iff_alike.2 (.refl _)
  symm h := beq_iff_alike.2 (beq_iff_alike.1 h).symm
  trans h h' := beq_iff_alike.2 ((beq_iff_alike.1 h).trans (beq_iff_alike.1 h'))

theorem Alike.digest_eq (h : Alike m n) : m.digest = n.digest := by
  induction h with
  | all | static => rfl
  | dynamic h => rw [digest, digest, h]
  | ofClass h => rw [digest, digest, hash_eq h]
  | union _ hf _ hg ihl ihr => rw [digest, digest, ihl, hash_eq hf, ihr, hash_eq hg]
  | unionCrossed _ hf _ hg ihl ihr => rw [digest, digest, ihl, hash_eq hf, ihr, hash_eq hg, UInt64.add_comm]
  | inter _ _ ihl ihr => rw [digest, digest, ihl, ihr]
  | interCrossed _ _ ihl ihr => rw [digest, digest, ihl, ihr, UInt64.add_comm]
  | not _ ih => rw [digest, digest, ih]

instance : LawfulHashable MethodMatcher where
  hash_eq _ _ h := (beq_iff_alike.1 h).digest_eq

theorem union_beq_crossed (l r : MethodMatcher) (f g : Option ClassFilter) :
    (union l f r g == union r g l f) = true :=
  beq_iff_alike.2 (.unionCrossed (.refl l) BEq.rfl (.refl r) BEq.rfl)

theorem inter_beq_crossed (l r : MethodMatcher) : (inter l r == inter r l) = true :=
  beq_iff_alike.2 (.interCrossed (.refl l) (.refl r))

end MethodMatcher

namespace Pointcut

theorem beq_iff {p q : Pointcut} :
    (p == q) = true ↔ (p.classFilter == q.classFilter) = true ∧ (p.matcher == q.matcher) = true := by
  obtain ⟨f, m⟩ := p
  obtain ⟨g, n⟩ := q
  exact Bool.and_eq_true_iff

instance : EquivBEq Pointcut where
  rfl := beq_iff.2 ⟨BEq.rfl, BEq.rfl⟩
  symm h := beq_iff.2 ⟨BEq.symm (beq_iff.1 h).1, BEq.symm (beq_iff.1 h).2⟩
  trans h h' := beq_iff.2
    ⟨BEq.trans (beq_iff.1 h).1 (beq_iff.1 h').1, BEq.trans (beq_iff.1 h).2 (beq_iff.1 h').2⟩

instance : LawfulHashable Pointcut where
  hash_eq p q h := by
    obtain ⟨f, m⟩ := p
    obtain ⟨g, n⟩ := q
    obtain ⟨hfilter, hmatcher⟩ := beq_iff.1 h
    change mixHash (mixHash 0 (hash f)) (hash m) = mixHash (mixHash 0 (hash g)) (hash n)
    rw [hash_eq hfilter, hash_eq hmatcher]

theorem union_beq_crossed (p q : Pointcut) : (p.union q == q.union p) = true :=
  beq_iff.2 ⟨ClassFilter.union_beq_of_perm (.swap _ _ _), MethodMatcher.union_beq_crossed _ _ _ _⟩

theorem inter_beq_crossed (p q : Pointcut) : (p.inter q == q.inter p) = true :=
  beq_iff.2 ⟨ClassFilter.inter_beq_of_perm (.swap _ _ _), MethodMatcher.inter_beq_crossed _ _⟩

end Pointcut

/-- Equality of class filters, of matchers and of pointcuts is an equivalence, and what is equal has
one digest. Operands may be put into any order. -/
theorem equality_lawful_in_any_order :
    (EquivBEq ClassFilter ∧ LawfulHashable ClassFilter) ∧
      (EquivBEq MethodMatcher ∧ LawfulHashable MethodMatcher) ∧
      (EquivBEq Pointcut ∧ LawfulHashable Pointcut) ∧
      (∀ fs gs : List ClassFilter, fs.Perm gs → (ClassFilter.union fs == .union gs) = true ∧
        (ClassFilter.inter fs == .inter gs) = true) ∧
      (∀ (l r : MethodMatcher) (f g : Option ClassFilter),
        (MethodMatcher.union l f r g == .union r g l f) = true ∧
          (MethodMatcher.inter l r == .inter r l) = true) ∧
      ∀ p q : Pointcut, (p.union q == q.union p) = true ∧ (p.inter q == q.inter p) = true := by
  refine ⟨⟨inferInstance, inferInstance⟩, ⟨inferInstance, inferInstance⟩, ⟨inferInstance, inferInstance⟩,
    ?_, ?_, ?_⟩
  · intro fs gs h
    exact ⟨ClassFilter.union_beq_of_perm h, ClassFilter.inter_beq_of_perm h⟩
  · intro l r f g
    exact ⟨l.union_beq_crossed r f g, l.inter_beq_crossed r⟩
  · intro p q
    exact ⟨p.union_beq_crossed q, p.inter_beq_crossed q⟩

/-- Three conditions, one of them composed, in two orders. -/
theorem services_equal_in_two_orders :
    let quiet : ClassFilter := .not (.inter [.assignable "Service", .custom "loud" fun _ => true])
    let filters : List ClassFilter := [.exact "Orders", quiet, .pattern ⟨"*Dao"⟩]
    let turned : List ClassFilter := [.pattern ⟨"*Dao"⟩, .exact "Orders", quiet]
    filters.Perm turned ∧ (ClassFilter.union filters == .union turned) = true ∧
      hash (ClassFilter.union filters) = hash (ClassFilter.union turned) := by
  intro quiet filters turned
  have hperm : filters.Perm turned := @List.perm_append_comm _ [_, _] [_]
  obtain ⟨⟨-, hhash⟩, -, -, horder, -⟩ := equality_lawful_in_any_order
  have heq := (horder filters turned hperm).1
  exact ⟨hperm, heq, hhash.hash_eq _ _ heq⟩

end Weaving
