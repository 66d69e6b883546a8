import Mathlib.Data.List.Forall2
import Mathlib.Data.List.TakeDrop
import Mathlib.Data.List.TakeWhile
import Weaving.Expression.Execution

namespace Weaving

namespace ArgPattern

variable {patterns before after : List ArgPattern} {count : Nat} {pairs : List (ArgPattern × Nat)}
  {types front middle back : List TypeInfo}

/-- The type that a parameter may have where an element stands for just this parameter. -/
def TakesType : ArgPattern → TypeInfo → Prop
  | any, _ => True
  | ellipsis, _ => False
  | named pattern, type => pattern.acceptsType type = true

/-- The declared types split into one for each element, with a gap of any length in place of `..`. -/
inductive Fits : List ArgPattern → List TypeInfo → Prop
  | exact {patterns : List ArgPattern} {types : List TypeInfo}
      (h : List.Forall₂ TakesType patterns types) : Fits patterns types
  | around {before after : List ArgPattern} {front back : List TypeInfo} (gap : List TypeInfo)
      (hfront : List.Forall₂ TakesType before front) (hback : List.Forall₂ TakesType after back) :
      Fits (before ++ ellipsis :: after) (front ++ gap ++ back)

theorem not_mem_of_takesType (h : List.Forall₂ TakesType patterns types) : ellipsis ∉ patterns := by
  induction h with
  | nil => exact List.not_mem_nil
  | cons hfirst _ ih =>
      refine List.not_mem_cons_of_ne_of_not_mem ?_ ih
      rintro rfl
      exact hfirst

theorem fits_iff_of_not_mem (h : ellipsis ∉ patterns) :
    Fits patterns types ↔ List.Forall₂ TakesType patterns types := by
  constructor
  · intro hfits
    cases hfits with
    | exact hall => exact hall
    | around => exact absurd (List.mem_append_right _ List.mem_cons_self) h
  · exact .exact

theorem fits_append_iff (hbefore : ellipsis ∉ before) (hafter : ellipsis ∉ after) :
    Fits (before ++ ellipsis :: after) types ↔ ∃ front gap back, types = front ++ gap ++ back ∧
      List.Forall₂ TakesType before front ∧ List.Forall₂ TakesType after back := by
  constructor
  · intro hfits
    generalize hlist : before ++ ellipsis :: after = patterns at hfits
    cases hfits with
    | exact hall =>
        subst hlist
        exact absurd (List.mem_append_right _ List.mem_cons_self) (not_mem_of_takesType hall)
    | @around _ _ front back gap hfront hback =>
        obtain ⟨rfl, -, rfl⟩ := (List.append_cons_inj_of_notMem hbefore hafter).1 hlist
        exact ⟨front, gap, back, rfl, hfront, hback⟩
  · rintro ⟨front, gap, back, rfl, hfront, hback⟩
    exact .around gap hfront hback

theorem count_le_one_of_parse {body : List Char} (h : parse body = .ok patterns) :
    patterns.count ellipsis ≤ 1 := by
  simp only [parse] at h
  split at h
  · cases h
    exact Nat.zero_le 1
  · split at h
    · cases h
    · split at h
      · cases h
      · next hcount =>
          cases h
          exact Nat.le_of_not_lt hcount

/-- With at most one `..` a list is free of it or has one part before and one behind it. -/
theorem eq_append_of_count_le_one (h : patterns.count ellipsis ≤ 1) : ellipsis ∉ patterns ∨
    ∃ before after, patterns = before ++ ellipsis :: after ∧ ellipsis ∉ before ∧ ellipsis ∉ after := by
  by_cases hmem : ellipsis ∈ patterns
  · obtain ⟨before, after, rfl⟩ := List.append_of_mem hmem
    rw [List.count_append, List.count_cons_self] at h
    exact .inr ⟨before, after, rfl, List.count_eq_zero.1 (by omega), List.count_eq_zero.1 (by omega)⟩
  · exact .inl hmem

theorem all_ne_ellipsis (h : ellipsis ∉ patterns) : ∀ pattern ∈ patterns, (pattern != ellipsis) = true := by
  rintro pattern hmem
  rw [bne_iff_ne]
  rintro rfl
  exact h hmem

theorem align_of_not_mem (h : ellipsis ∉ patterns) (count : Nat) :
    align patterns count = if patterns.length = count then some patterns.zipIdx else none := by
  have hall := all_ne_ellipsis h
  simp only [align, List.span_eq_takeWhile_dropWhile, List.dropWhile_eq_nil_iff.2 hall]

theorem align_append (h : ellipsis ∉ before) (after : List ArgPattern) (count : Nat) :
    align (before ++ ellipsis :: after) count =
      if count < before.length + after.length then none
      else some (before.zipIdx ++ after.zipIdx (count - after.length)) := by
  have hall := all_ne_ellipsis h
  have hfront : (before ++ ellipsis :: after).takeWhile (· != ellipsis) = before := by
    rw [List.takeWhile_append_of_pos hall]
    simp
  have hrest : (before ++ ellipsis :: after).dropWhile (· != ellipsis) = ellipsis :: after := by
    rw [List.dropWhile_append_of_pos hall]
    simp
  simp only [align, List.span_eq_takeWhile_dropWhile, hfront, hrest]

theorem map_snd_zipIdx_pairwise (l : List ArgPattern) (k : Nat) :
    ((l.zipIdx k).map Prod.snd).Pairwise (· < ·) := by
  rw [List.zipIdx_map_snd]
  exact List.pairwise_lt_range'

theorem mem_map_snd_zipIdx {l : List ArgPattern} {k i : Nat} :
    i ∈ (l.zipIdx k).map Prod.snd ↔ k ≤ i ∧ i < k + l.length := by
  rw [List.zipIdx_map_snd, List.mem_range'_1]

theorem filter_ne_ellipsis (h : ellipsis ∉ patterns) : patterns.filter (· ≠ ellipsis) = patterns := by
  rw [List.filter_eq_self]
  intro pattern hmem
  rw [decide_eq_true_eq]
  rintro rfl
  exact h hmem

/-- The elements other than `..` of a list with the two parts around it. -/
theorem filter_ne_ellipsis_append (hbefore : ellipsis ∉ before) (hafter : ellipsis ∉ after) :
    (before ++ ellipsis :: after).filter (· ≠ ellipsis) = before ++ after := by
  rw [List.filter_append, List.filter_cons_of_neg (by simp), filter_ne_ellipsis hbefore,
    filter_ne_ellipsis hafter]

theorem count_append_eq_one (hbefore : ellipsis ∉ before) (hafter : ellipsis ∉ after) :
    (before ++ ellipsis :: after).count ellipsis = 1 := by
  rw [List.count_append, List.count_cons_self, List.count_eq_zero.2 hbefore, List.count_eq_zero.2 hafter]

/-- A list fits as many parameters as it has elements or, if one of them is `..`, as it has others
and more. -/
theorem exists_align_iff (h : patterns.count ellipsis ≤ 1) (count : Nat) :
    (∃ pairs, align patterns count = some pairs) ↔
      (patterns.count ellipsis = 0 ∧ patterns.length = count) ∨
        (patterns.count ellipsis = 1 ∧ (patterns.filter (· ≠ ellipsis)).length ≤ count) := by
  rcases eq_append_of_count_le_one h with hmem | ⟨before, after, rfl, hbefore, hafter⟩
  · rw [align_of_not_mem hmem, List.count_eq_zero.2 hmem]
    simp
  · rw [align_append hbefore, count_append_eq_one hbefore hafter,
      filter_ne_ellipsis_append hbefore hafter]
    simp

/-- The elements other than `..` are paired in their order, with places that increase and that
are places of parameters. -/
theorem align_eq_some (h : patterns.count ellipsis ≤ 1) (halign : align patterns count = some pairs) :
    pairs.map Prod.fst = patterns.filter (· ≠ ellipsis) ∧ (pairs.map Prod.snd).Pairwise (· < ·) ∧
      ∀ i ∈ pairs.map Prod.snd, i < count := by
  rcases eq_append_of_count_le_one h with hmem | ⟨before, after, rfl, hbefore, hafter⟩
  · rw [align_of_not_mem hmem, Option.ite_none_right_eq_some, Option.some.injEq] at halign
    obtain ⟨rfl, rfl⟩ := halign
    refine ⟨?_, map_snd_zipIdx_pairwise patterns 0, fun i hi => ?_⟩
    · rw [List.zipIdx_map_fst, filter_ne_ellipsis hmem]
    · have := mem_map_snd_zipIdx.1 hi
      omega
  · rw [align_append hbefore, Option.ite_none_left_eq_some, Option.some.injEq] at halign
    obtain ⟨hcount, rfl⟩ := halign
    rw [List.map_append, List.map_append, List.zipIdx_map_fst, List.zipIdx_map_fst,
      filter_ne_ellipsis_append hbefore hafter]
    refine ⟨rfl, List.pairwise_append.2 ⟨map_snd_zipIdx_pairwise before 0,
      map_snd_zipIdx_pairwise after _, fun i hi j hj => ?_⟩, fun i hi => ?_⟩
    -- the places of the last elements are counted from the end, so they lie behind the first ones
    · have hfirst := mem_map_snd_zipIdx.1 hi
      have hlast := mem_map_snd_zipIdx.1 hj
      omega
    · rcases List.mem_append.1 hi with hi | hi
      · have := mem_map_snd_zipIdx.1 hi
        omega
      · have := mem_map_snd_zipIdx.1 hi
        omega

end ArgPattern

namespace ExecutionPattern

open ArgPattern

variable {patterns before after : List ArgPattern} {types front middle back : List TypeInfo}

theorem acceptsDeclared_append (pairs pairs' : List (ArgPattern × Nat)) (declared : List TypeInfo) :
    acceptsDeclared (pairs ++ pairs') declared =
      (acceptsDeclared pairs declared && acceptsDeclared pairs' declared) := List.all_append

/-- Elements that are paired from the end of `front` on are compared with the types behind it. -/
theorem acceptsDeclared_zipIdx (hmem : ellipsis ∉ patterns) (hlength : patterns.length = middle.length)
    (front back : List TypeInfo) :
    acceptsDeclared (patterns.zipIdx front.length) (front ++ middle ++ back) = true ↔
      List.Forall₂ TakesType patterns middle := by
  induction patterns generalizing front middle with
  | nil =>
      obtain rfl := List.eq_nil_of_length_eq_zero hlength.symm
      exact iff_of_true rfl .nil
  | cons pattern patterns ih =>
      obtain ⟨type, middle, rfl⟩ := List.exists_cons_of_length_eq_add_one hlength.symm
      obtain ⟨hne, hmem⟩ := not_or.1 (List.mem_cons.not.1 hmem)
      have hget : (front ++ type :: middle ++ back)[front.length]? = some type := by simp
      have hfirst : acceptsDeclared [(pattern, front.length)] (front ++ type :: middle ++ back) = true ↔
          TakesType pattern type := by
        cases pattern with
        | any => exact iff_of_true rfl trivial
        | ellipsis => exact absurd rfl hne
        | named name => simp [acceptsDeclared, TakesType]
      have hrest := ih hmem (Nat.succ.inj hlength) (front ++ [type])
      rw [List.append_assoc front, List.singleton_append, List.length_append, List.length_singleton]
        at hrest
      rw [List.zipIdx_cons, ← List.singleton_append, acceptsDeclared_append, Bool.and_eq_true, hfirst, hrest,
        List.forall₂_cons]

theorem acceptsDeclared_around (hfront : before.length = front.length) (hback : after.length = back.length)
    (hbefore : ellipsis ∉ before) (hafter : ellipsis ∉ after) :
    acceptsDeclared (before.zipIdx ++ after.zipIdx (front ++ middle).length) (front ++ middle ++ back) = true ↔
      List.Forall₂ TakesType before front ∧ List.Forall₂ TakesType after back := by
  have hfirst := acceptsDeclared_zipIdx hbefore hfront [] (middle ++ back)
  have hlast := acceptsDeclared_zipIdx hafter hback (front ++ middle) []
  rw [List.nil_append, List.length_nil, ← List.append_assoc] at hfirst
  rw [List.append_nil] at hlast
  rw [acceptsDeclared_append, Bool.and_eq_true, hfirst, hlast]

theorem exists_parts {m n : Nat} (h : m + n ≤ types.length) :
    ∃ front gap back, types = front ++ gap ++ back ∧ front.length = m ∧ back.length = n := by
  refine ⟨types.take m, (types.drop m).take (types.length - m - n), types.drop (types.length - n), ?_, ?_, ?_⟩
  · have hlast : types.drop (types.length - n) = (types.drop m).drop (types.length - m - n) := by
      rw [List.drop_drop]
      congr 1
      omega
    rw [hlast, List.append_assoc, List.take_append_drop, List.take_append_drop]
  · rw [List.length_take]
    omega
  · rw [List.length_drop]
    omega

/-- A parameter list accepts declared types exactly if they split into parts that fit its elements. -/
theorem acceptsParameters_iff_fits {p : ExecutionPattern} (h : p.parameters.count ellipsis ≤ 1)
    (method : Method) : p.acceptsParameters method = true ↔ Fits p.parameters method.parameters := by
  rw [acceptsParameters]
  generalize p.parameters = patterns at h ⊢
  generalize method.parameters = types
  rcases eq_append_of_count_le_one h with hmem | ⟨before, after, rfl, hbefore, hafter⟩
  · rw [align_of_not_mem hmem, fits_iff_of_not_mem hmem]
    by_cases hlength : patterns.length = types.length
    · have haccepts := acceptsDeclared_zipIdx hmem hlength [] []
      simpa [hlength] using haccepts
    · rw [if_neg hlength]
      exact iff_of_false Bool.false_ne_true fun h => hlength h.length_eq
  · -- either way the types come in three parts, of which the outer two are as long as the lists
    have hparts {front gap back : List TypeInfo} (hfront : before.length = front.length)
        (hback : after.length = back.length) : (front ++ gap ++ back).length - after.length =
          (front ++ gap).length := by
      rw [List.length_append, hback, Nat.add_sub_cancel]
    rw [align_append hbefore, fits_append_iff hbefore hafter]
    constructor
    · intro haccepts
      by_cases hcount : types.length < before.length + after.length
      · rw [if_pos hcount] at haccepts
        cases haccepts
      · rw [if_neg hcount] at haccepts
        obtain ⟨front, gap, back, rfl, hfront, hback⟩ := exists_parts (Nat.le_of_not_lt hcount)
        rw [hparts hfront.symm hback.symm] at haccepts
        exact ⟨front, gap, back, rfl,
          (acceptsDeclared_around hfront.symm hback.symm hbefore hafter).1 haccepts⟩
    · rintro ⟨front, gap, back, rfl, hall⟩
      have hfront := hall.1.length_eq
      have hback := hall.2.length_eq
      have hcount : ¬ (front ++ gap ++ back).length < before.length + after.length := by
        rw [List.length_append, List.length_append]
        omega
      rw [if_neg hcount, hparts hfront hback]
      exact (acceptsDeclared_around hfront hback hbefore hafter).2 hall

/-- A parameter list that could be read fits so many parameters as it has elements or, if one of them
is `..`, as it has others and more. It pairs the elements other than `..` with places that increase and
are places of parameters. An execution pattern with this list accepts a method of the right owner, name
and result exactly if the declared types split into one type for each element, with a gap for `..`. -/
theorem parameters_split {body : List Char} {patterns : List ArgPattern}
    (h : ArgPattern.parse body = .ok patterns) :
    (∀ count, (∃ pairs, align patterns count = some pairs) ↔
      (patterns.count ellipsis = 0 ∧ patterns.length = count) ∨
        (patterns.count ellipsis = 1 ∧ (patterns.filter (· ≠ ellipsis)).length ≤ count)) ∧
    (∀ count pairs, align patterns count = some pairs →
      pairs.map Prod.fst = patterns.filter (· ≠ ellipsis) ∧ (pairs.map Prod.snd).Pairwise (· < ·) ∧
        ∀ i ∈ pairs.map Prod.snd, i < count) ∧
    ∀ (p : ExecutionPattern) (method : Method) (target : TypeInfo), p.parameters = patterns →
      (p.accepts method target = true ↔ p.acceptsOwner method target = true ∧
        p.method.accepts method.name = true ∧ p.acceptsReturn method = true ∧
          Fits patterns method.parameters) := by
  have hcount := count_le_one_of_parse h
  refine ⟨exists_align_iff hcount, fun _ _ => align_eq_some hcount, ?_⟩
  rintro p method target rfl
  simp only [accepts, Bool.and_eq_true, acceptsParameters_iff_fits hcount, and_assoc]

/-- Two parameters are the fewest that the list takes. The gap between them is empty. -/
theorem two_parameters_around_gap :
    let patterns : List ArgPattern := [.named ⟨"u32"⟩, .ellipsis, .named ⟨"Str*"⟩]
    let pairs : List (ArgPattern × Nat) := [(.named ⟨"u32"⟩, 0), (.named ⟨"Str*"⟩, 1)]
    let p : ExecutionPattern := ⟨"move(u32, .., Str*)", ⟨"*"⟩, none, ⟨"move"⟩, patterns⟩
    let move : Method := ⟨.ofName "Stock", "move", [.ofName "u32", .ofName "String"], none⟩
    ArgPattern.parse "u32, .. ,Str*".toList = .ok patterns ∧
      (¬ ∃ pairs, align patterns 1 = some pairs) ∧ (∃ pairs, align patterns 2 = some pairs) ∧
      align patterns 2 = some pairs ∧ (pairs.map Prod.snd).Pairwise (· < ·) ∧
      (∀ i ∈ pairs.map Prod.snd, i < 2) ∧
      p.accepts move (.ofName "Stock") = true ∧ Fits patterns move.parameters := by
  intro patterns pairs p move
  have hparse : ArgPattern.parse "u32, .. ,Str*".toList = .ok patterns := by rfl
  have halign : align patterns 2 = some pairs := by rfl
  have haccepts : p.accepts move (.ofName "Stock") = true := by decide +kernel
  obtain ⟨hcounts, hpairs, hsplit⟩ := parameters_split hparse
  obtain ⟨-, hincreasing, hbound⟩ := hpairs 2 pairs halign
  refine ⟨hparse, ?_, ⟨pairs, halign⟩, halign, hincreasing, hbound, haccepts, ?_⟩
  · rw [hcounts 1]
    decide
  · exact ((hsplit p move (.ofName "Stock") rfl).1 haccepts).2.2.2

end ExecutionPattern

end Weaving
