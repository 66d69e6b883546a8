import Mathlib.Data.Option.Basic
import Weaving.Proofs.RegexLanguage
import Weaving.Regex.Parser

namespace Weaving.Regex

variable {cs rest : List Char}

namespace Reading

theorem run_of_skip_eq_nil {n : Nat} {r : Reading} (hs : r.flags.skip cs = []) : run n r cs = some r := by
  cases n <;> simp [run, hs]

theorem run_cons {n : Nat} {r r₁ : Reading} {c : Char} (h : run n r cs = some r₁)
    (hs : r.flags.skip cs = c :: rest) :
    ∃ m item between r₂, n = m + 1 ∧ Item.read r.flags (c :: rest) = some (item, between) ∧
      r.take item = some r₂ ∧ run m r₂ between = some r₁ := by
  cases n with
  | zero => simp [run, hs] at h
  | succ m =>
    simp only [run, hs] at h
    split at h
    · next item between hread =>
      obtain ⟨r₂, htake, hrun⟩ := Option.bind_eq_some_iff.mp h
      exact ⟨m, item, between, r₂, rfl, hread, htake, hrun⟩
    · cases h

end Reading

theorem parse?_eq_some_iff {text : String} {r : Regex} :
    parse? text = some r ↔
      ∃ reading, Reading.run text.length .start text.toList = some reading ∧ reading.outer = [] ∧
        reading.level.close.2 ≤ deepest ∧ reading.level.close.1 = r := by
  constructor
  · intro h
    obtain ⟨reading, hrun, h⟩ := Option.bind_eq_some_iff.mp h
    obtain ⟨_, hclosed, h⟩ := Option.bind_eq_some_iff.mp h
    obtain ⟨_, hdepth, h⟩ := Option.bind_eq_some_iff.mp h
    rw [Option.guard_eq_some'] at hclosed hdepth
    exact ⟨reading, hrun, List.isEmpty_iff.mp hclosed, hdepth, Option.some.inj h⟩
  · rintro ⟨reading, hrun, hclosed, hdepth, rfl⟩
    have hclosed' : guard (reading.outer.isEmpty = true) = some () :=
      (Option.guard_eq_some' _).mpr (List.isEmpty_iff.mpr hclosed)
    refine Option.bind_eq_some_iff.mpr ⟨reading, hrun, Option.bind_eq_some_iff.mpr ⟨(), hclosed', ?_⟩⟩
    exact Option.bind_eq_some_iff.mpr ⟨(), (Option.guard_eq_some' _).mpr hdepth, rfl⟩

section Chain

variable {p q : Place} {r : Regex} {front back : List Regex}

/-- Expressions one behind the other. -/
def chain (parts : List Regex) : Regex := parts.foldr .seq .empty

theorem spans_chain_cons :
    (chain (r :: back)).Spans p q ↔ ∃ between, r.Spans p between ∧ (chain back).Spans between q :=
  Iff.rfl

theorem spans_chain_singleton : (chain [r]).Spans p q ↔ r.Spans p q := by
  simp [chain, Spans]

theorem spans_chain_append :
    (chain (front ++ back)).Spans p q ↔
      ∃ between, (chain front).Spans p between ∧ (chain back).Spans between q := by
  induction front generalizing p with
  | nil => simp [chain, Spans]
  | cons r front ih =>
    simp only [List.cons_append, spans_chain_cons, ih]
    grind

end Chain

namespace Level

/-- An expression with its depth, and a part in front of it. -/
def precede (r : Regex × Nat) (part : Piece) : Regex × Nat :=
  (.seq part.regex r.1, max r.2 (part.depth + 1))

theorem spans_precede {p q : Place} (sequence : List Piece) (r : Regex × Nat) :
    (sequence.foldl precede r).1.Spans p q ↔
      (chain (sequence.reverse.map Piece.regex ++ [r.1])).Spans p q := by
  induction sequence generalizing r with
  | nil => exact spans_chain_singleton.symm
  | cons part sequence ih =>
    have hlast (between : Place) :
        (chain [(precede r part).1]).Spans between q ↔ (chain [part.regex, r.1]).Spans between q := by
      rw [spans_chain_singleton, spans_chain_cons]
      simp only [spans_chain_singleton]
      rfl
    rw [List.foldl_cons, ih, List.reverse_cons, List.map_append, List.append_assoc, spans_chain_append,
      spans_chain_append]
    simp only [hlast, List.map_singleton, List.singleton_append]

theorem depth_precede {k : Nat} {sequence : List Piece} (h : ∀ part ∈ sequence, part.depth ≤ k)
    {r : Regex × Nat} (hr : r.2 ≤ k + 1) : (sequence.foldl precede r).2 ≤ k + 1 := by
  induction sequence generalizing r with
  | nil => exact hr
  | cons part sequence ih =>
    obtain ⟨hpart, hrest⟩ := List.forall_mem_cons.mp h
    exact ih hrest (Nat.max_le.mpr ⟨hr, Nat.succ_le_succ hpart⟩)

/-- A sequence describes what its parts describe one behind the other. -/
theorem spans_joined {p q : Place} (l : Level) :
    l.joined.1.Spans p q ↔ (chain (l.sequence.reverse.map Piece.regex)).Spans p q := by
  obtain ⟨alternatives, sequence⟩ := l
  rcases sequence with _ | ⟨last, _ | ⟨part, sequence⟩⟩
  · exact Iff.rfl
  · exact spans_chain_singleton.symm
  · rw [List.reverse_cons, List.map_append]
    exact spans_precede (part :: sequence) (last.regex, last.depth + 1)

theorem depth_joined {k : Nat} {l : Level} (h : ∀ part ∈ l.sequence, part.depth ≤ k) :
    l.joined.2 ≤ k + 1 := by
  obtain ⟨alternatives, sequence⟩ := l
  rcases sequence with _ | ⟨last, _ | ⟨part, sequence⟩⟩
  · exact Nat.zero_le _
  · exact Nat.le_succ_of_le (h last List.mem_cons_self)
  · obtain ⟨hlast, hrest⟩ := List.forall_mem_cons.mp h
    exact depth_precede hrest (Nat.succ_le_succ hlast)

/-- The level with further parts at its end. -/
def extend (l : Level) (parts : List Piece) : Level := { l with sequence := parts.reverse ++ l.sequence }

theorem extend_cons (l : Level) (part : Piece) (parts : List Piece) :
    l.extend (part :: parts) = (l.push part).extend parts := by
  simp [extend, push]

theorem extend_append (l : Level) (front back : List Piece) :
    l.extend (front ++ back) = (l.extend front).extend back := by
  simp [extend]

/-- Outside of all groups, a text is read to its end and leads from one level to the other. -/
def Reads (l : Level) (cs : List Char) (l' : Level) : Prop :=
  ∀ n, cs.length ≤ n → Reading.run n ⟨.standard, l, [], []⟩ cs = some ⟨.standard, l', [], []⟩

variable {l l₁ l' : Level}

theorem Reads.nil : l.Reads [] l := fun _ _ => Reading.run_of_skip_eq_nil rfl

theorem Reads.cons {c : Char} (item : Item) (hread : Item.read .standard (c :: cs) = some (item, rest))
    (hlength : rest.length ≤ cs.length)
    (htake : Reading.take ⟨.standard, l, [], []⟩ item = some ⟨.standard, l₁, [], []⟩)
    (h : l₁.Reads rest l') : l.Reads (c :: cs) l' := by
  intro n hn
  rw [List.length_cons] at hn
  obtain ⟨n, rfl⟩ : ∃ m, n = m + 1 := ⟨n - 1, by omega⟩
  have hskip : Flags.standard.skip (c :: cs) = c :: cs := rfl
  simp only [Reading.run, hskip, hread, htake, Option.bind_some]
  exact h n (by omega)

theorem Reads.parse? {text : String} (h : empty.Reads text.toList l) (hflat : l.alternatives = [])
    (hdepth : ∀ part ∈ l.sequence, part.depth < deepest) : parse? text = some l.joined.1 := by
  have hclose : l.close = l.joined := by rw [close, hflat]
  have hbound : l.joined.2 ≤ deepest := depth_joined fun part hpart => Nat.le_sub_one_of_lt (hdepth part hpart)
  rw [← hclose] at hbound ⊢
  exact parse?_eq_some_iff.mpr ⟨_, h _ (Nat.le_of_eq String.length_toList), rfl, hbound, rfl⟩

end Level

end Weaving.Regex
