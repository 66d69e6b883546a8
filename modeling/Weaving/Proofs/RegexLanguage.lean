import Mathlib.Data.List.Basic
import Weaving.Proofs.TextPlaces
import Weaving.Regex.Search

namespace Weaving.Regex

/-- So many rounds, one behind the other. -/
def Times (Round : Place → Place → Prop) : Nat → Place → Place → Prop
  | 0, p, q => p = q
  | n + 1, p, q => ∃ between, Round p between ∧ Times Round n between q

/-- The stretches of a text that an expression describes. A repetition takes at least its lower
bound of rounds, and an upper bound below that does not count. -/
def Spans : Regex → Place → Place → Prop
  | empty, p, q => p = q
  | one accepts, p, q => ∃ c, accepts c ∧ p.after = c :: q.after ∧ q.before = c :: p.before
  | anchor holds, p, q => holds p.before.head? p.after.head? ∧ p = q
  | seq a b, p, q => ∃ between, a.Spans p between ∧ b.Spans between q
  | either a b, p, q => a.Spans p q ∨ b.Spans p q
  | repeated r least most, p, q =>
    ∃ n, least ≤ n ∧ (∀ m ∈ most, n ≤ max least m) ∧ Times r.Spans n p q

variable {Round : Place → Place → Prop} {p q s : Place}

theorem Place.step?_eq_some_iff {accepts : CharSet} :
    p.step? accepts = some q ↔
      ∃ c, accepts c ∧ p.after = c :: q.after ∧ q.before = c :: p.before := by
  obtain ⟨before, after⟩ := p
  obtain ⟨before', after'⟩ := q
  cases after with
  | nil => simp [step?]
  | cons c after =>
    constructor
    · intro h
      obtain ⟨hc, hq⟩ : accepts c ∧ Place.mk (c :: before) after = ⟨before', after'⟩ := by
        simpa [step?] using h
      obtain ⟨rfl, rfl⟩ := Place.mk.inj hq
      exact ⟨c, hc, rfl, rfl⟩
    · rintro ⟨d, hd, hafter, rfl⟩
      obtain ⟨rfl, rfl⟩ := List.cons_eq_cons.mp hafter
      exact if_pos hd

theorem mem_onwards {before after : List Char} :
    q ∈ Place.onwards before after ↔ (Place.mk before after).Leads q := by
  induction after generalizing before with
  | nil =>
    obtain ⟨before', after'⟩ := q
    simp [Place.onwards, Place.Leads, and_comm]
  | cons c after ih =>
    rw [Place.onwards, List.mem_cons, ih]
    constructor
    · rintro (rfl | ⟨taken, hafter, hbefore⟩)
      · exact .refl _
      · exact ⟨c :: taken, congrArg (c :: ·) hafter, by simpa using hbefore⟩
    · rintro ⟨taken, hafter, hbefore⟩
      cases taken with
      | nil =>
        obtain ⟨before', after'⟩ := q
        exact .inl (by simp_all)
      | cons d taken =>
        obtain ⟨rfl, htail⟩ := List.cons_eq_cons.mp hafter
        exact .inr ⟨taken, htail, by simpa using hbefore⟩

section Times

theorem times_add_iff {m n : Nat} :
    Times Round (m + n) p s ↔ ∃ q, Times Round m p q ∧ Times Round n q s := by
  induction m generalizing p with
  | zero => simp [Times]
  | succ m ih =>
    rw [Nat.succ_add]
    simp only [Times, ih]
    grind

variable (hround : ∀ p q, Round p q → p.Leads q)

include hround

theorem Times.leads {n : Nat} (h : Times Round n p q) : p.Leads q := by
  induction n generalizing p with
  | zero => exact h ▸ .refl p
  | succ n ih =>
    obtain ⟨between, hp, hrest⟩ := h
    exact (hround p between hp).trans (ih hrest)

/-- Rounds that stay at their place can be left out, down to one round for each character. -/
theorem Times.fewer {n : Nat} (h : Times Round n p q) :
    ∃ k ≤ p.after.length, k ≤ n ∧ ∀ j, k ≤ j → j ≤ n → Times Round j p q := by
  induction n generalizing p with
  | zero => exact ⟨0, Nat.zero_le _, Nat.le_refl 0, fun j _ hj => Nat.le_zero.mp hj ▸ h⟩
  | succ n ih =>
    obtain ⟨between, hp, hrest⟩ := id h
    obtain ⟨k, hk, hkn, hfewer⟩ := ih hrest
    rcases (hround p between hp).eq_or_lt with rfl | hlt
    · refine ⟨k, hk, by omega, fun j hkj hj => ?_⟩
      rcases Nat.lt_or_ge n j with hnj | hjn
      · obtain rfl : j = n + 1 := by omega
        exact h
      · exact hfewer j hkj hjn
    · refine ⟨k + 1, by omega, by omega, fun j hkj hj => ?_⟩
      obtain ⟨j, rfl⟩ : ∃ i, j = i + 1 := ⟨j - 1, by omega⟩
      exact ⟨between, hp, hfewer j (by omega) (by omega)⟩

/-- With more rounds than characters one of them stays at its place, and can be taken again. -/
theorem Times.more {n m : Nat} (h : Times Round n p q) (hn : p.after.length < n) (hm : n ≤ m) :
    Times Round m p q := by
  induction n generalizing p m with
  | zero => omega
  | succ n ih =>
    obtain ⟨between, hp, hrest⟩ := id h
    rcases (hround p between hp).eq_or_lt with rfl | hlt
    · have hagain (k : Nat) : Times Round (k + (n + 1)) between q := by
        induction k with
        | zero => rwa [Nat.zero_add]
        | succ k ihk =>
          rw [Nat.succ_add]
          exact ⟨between, hp, ihk⟩
      simpa [Nat.sub_add_cancel hm] using hagain (m - (n + 1))
    · obtain ⟨m, rfl⟩ : ∃ i, m = i + 1 := ⟨m - 1, by omega⟩
      exact ⟨between, hp, ih hrest (by omega) (by omega)⟩

/-- The search never takes more rounds than there are places, neither to come to the lower bound
nor beyond it, and still reaches all that the bounds allow. -/
theorem exists_times_iff {least further : Nat} {most : Option Nat}
    (hfurther : ∀ k, k ≤ further ↔ k ≤ p.after.length + 1 ∧ ∀ m ∈ most, k ≤ m - least) :
    (∃ k ≤ further, Times Round (min least (p.after.length + 1) + k) p q) ↔
      ∃ n, least ≤ n ∧ (∀ m ∈ most, n ≤ max least m) ∧ Times Round n p q := by
  constructor
  · rintro ⟨k, hk, hrounds⟩
    obtain ⟨-, hmost⟩ := (hfurther k).mp hk
    refine ⟨least + k, Nat.le_add_right least k, fun m hm => ?_, ?_⟩
    · have := hmost m hm
      omega
    · rcases Nat.lt_or_ge (p.after.length + 1) least with hleast | hleast
      · rw [Nat.min_eq_right (Nat.le_of_lt hleast)] at hrounds
        exact hrounds.more hround (by omega) (by omega)
      · rwa [Nat.min_eq_left hleast] at hrounds
  · rintro ⟨n, hleast, hmost, hrounds⟩
    obtain ⟨k, hk, hkn, hfewer⟩ := hrounds.fewer hround
    let taken := max (min least (p.after.length + 1)) k
    have htaken : Times Round taken p q := hfewer taken (Nat.le_max_right _ k) (by omega)
    refine ⟨taken - min least (p.after.length + 1), (hfurther _).mpr ⟨by omega, fun m hm => ?_⟩, ?_⟩
    · have := hmost m hm
      omega
    · rwa [Nat.add_sub_cancel' (Nat.le_max_left _ k)]

end Times

theorem Spans.leads {r : Regex} (h : r.Spans p q) : p.Leads q := by
  induction r generalizing p q with
  | empty => exact h ▸ .refl p
  | one accepts =>
    obtain ⟨c, -, hafter, hbefore⟩ := h
    exact ⟨[c], hafter, hbefore⟩
  | anchor holds => exact h.2 ▸ .refl p
  | seq a b iha ihb =>
    obtain ⟨between, ha, hb⟩ := h
    exact (iha ha).trans (ihb hb)
  | either a b iha ihb =>
    rcases h with h | h
    · exact iha h
    · exact ihb h
  | repeated r least most ih =>
    obtain ⟨n, -, -, hrounds⟩ := h
    exact hrounds.leads fun p q => ih

section Search

variable {step : Place → List Place} (hstep : ∀ p q, q ∈ step p ↔ Round p q) {places : List Place}

include hstep

theorem mem_advance : q ∈ advance step places ↔ ∃ p ∈ places, Round p q := by
  simp [advance, hstep]

theorem mem_rounds {n : Nat} : q ∈ rounds step n places ↔ ∃ p ∈ places, Times Round n p q := by
  induction n generalizing places with
  | zero => simp [rounds, Times]
  | succ n ih =>
    simp only [rounds, ih, mem_advance hstep, Times]
    grind

theorem mem_roundsWithin {n : Nat} :
    q ∈ roundsWithin step n places ↔ ∃ k ≤ n, ∃ p ∈ places, Times Round k p q := by
  induction n generalizing places with
  | zero => simp [roundsWithin, Times]
  | succ n ih =>
    simp only [roundsWithin, ih, List.mem_eraseDups, List.mem_append, mem_advance hstep]
    constructor
    · rintro ⟨k, hk, s, hs | ⟨p, hp, hround⟩, hrest⟩
      · exact ⟨k, by omega, s, hs, hrest⟩
      · exact ⟨k + 1, by omega, p, hp, s, hround, hrest⟩
    · rintro ⟨k, hk, p, hp, hrounds⟩
      cases k with
      | zero => exact ⟨0, Nat.zero_le n, p, .inl hp, hrounds⟩
      | succ k =>
        obtain ⟨s, hround, hrest⟩ := hrounds
        exact ⟨k, by omega, s, .inr ⟨p, hp, hround⟩, hrest⟩

end Search

/-- The search finds the ends of all stretches that the expression describes. -/
theorem mem_ends {r : Regex} : q ∈ r.ends p ↔ r.Spans p q := by
  induction r generalizing p q with
  | empty => simp [ends, Spans, eq_comm]
  | one accepts => simp only [ends, Spans, Option.mem_toList, Place.step?_eq_some_iff]
  | anchor holds =>
    by_cases hp : holds p.before.head? p.after.head? <;>
      simp [ends, Spans, Place.meets, hp, eq_comm]
  | seq a b iha ihb => simp [ends, Spans, iha, ihb]
  | either a b iha ihb => simp [ends, Spans, iha, ihb]
  | repeated r least most ih =>
    have hstep (p q : Place) : q ∈ r.ends p ↔ r.Spans p q := ih
    simp only [ends, mem_roundsWithin hstep, mem_rounds hstep, List.mem_singleton, exists_eq_left,
      ← times_add_iff]
    refine exists_times_iff (fun p q => Spans.leads) fun k => ?_
    cases most with
    | none => simp
    | some most =>
      rw [Nat.le_min, and_comm]
      simp

variable {r : Regex} {text : String}

theorem isFoundIn_iff : r.isFoundIn text = true ↔ FoundIn r.Spans text := by
  have hends (p : Place) : (!(r.ends p).isEmpty) = true ↔ ∃ q, r.Spans p q := by
    rw [Bool.not_eq_true', List.isEmpty_eq_false_iff_exists_mem]
    simp only [mem_ends]
  simp only [isFoundIn, List.any_eq_true, mem_onwards, hends]
  exact ⟨fun ⟨p, hp, q, hq⟩ => ⟨p, q, hp, hq⟩, fun ⟨p, q, hp, hq⟩ => ⟨p, hp, q, hq⟩⟩

theorem matchesAll_iff : r.matchesAll text = true ↔ Covers r.Spans text := by
  simp only [matchesAll, List.any_eq_true, mem_ends, List.isEmpty_iff, Covers]
  constructor
  · rintro ⟨q, hspans, hq⟩
    exact hspans.leads.eq_end hq ▸ hspans
  · exact fun h => ⟨_, h, rfl⟩

end Weaving.Regex
