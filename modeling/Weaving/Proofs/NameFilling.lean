import Mathlib.Data.List.Basic
import Weaving.Matching.NamePattern
import Weaving.Proofs.TextSplitting

namespace Weaving.NamePattern

variable {s : List Char} {pieces : List (List Char)}

theorem isWildcard_of_not_mem {text : String} (h : '*' ∉ text.toList) : (mk text).isWildcard = false := by
  rw [isWildcard, beq_eq_false_iff_ne]
  rintro rfl
  exact h (by decide)

/-- A pattern without a gap accepts the name that it is. -/
theorem accepts_iff_of_not_mem {text : String} (h : '*' ∉ text.toList) (name : String) :
    (mk text).accepts name = true ↔ name = text := by
  rw [accepts, isWildcard_of_not_mem h, Text.pieces_of_not_mem h, matchPieces, Bool.false_or, beq_iff_eq,
    String.toList_inj]

theorem acceptsType_iff_of_not_mem {text : String} (h : '*' ∉ text.toList) (type : TypeInfo) :
    (mk text).acceptsType type = true ↔ text ∈ type.names := by
  simp only [acceptsType, List.any_eq_true, accepts_iff_of_not_mem h, exists_eq_right]

/-- A pattern with a text within one line put in for each star. -/
structure Filling where
  first : List Char
  /-- What is put in for each star, with the piece behind the star. -/
  stars : List (List Char × List Char)
  starless : ∀ piece ∈ first :: stars.map Prod.snd, '*' ∉ piece
  within_line : ∀ gap ∈ stars.map Prod.fst, '\n' ∉ gap

namespace Filling

/-- The text with a star in each gap. -/
def pattern (f : Filling) : List Char := ['*'].intercalate (f.first :: f.stars.map Prod.snd)

/-- The text with the gaps filled in. -/
def name (f : Filling) : List Char := f.first ++ f.stars.flatMap fun star => star.1 ++ star.2

theorem pieces_pattern (f : Filling) : Text.pieces '*' f.pattern = f.first :: f.stars.map Prod.snd :=
  Text.pieces_intercalate (List.cons_ne_nil _ _) f.starless

end Filling

theorem behindGap_iff {accepts : List Char → Bool} :
    behindGap accepts s = true ↔ ∃ gap rest, '\n' ∉ gap ∧ s = gap ++ rest ∧ accepts rest = true := by
  induction s with
  | nil => simp [behindGap]
  | cons c s ih =>
    simp only [behindGap, Bool.or_eq_true, Bool.and_eq_true, bne_iff_ne, ih]
    constructor
    · rintro (h | ⟨hc, gap, rest, hgap, rfl, h⟩)
      · exact ⟨[], c :: s, List.not_mem_nil, rfl, h⟩
      · exact ⟨c :: gap, rest, List.not_mem_cons_of_ne_of_not_mem (Ne.symm hc) hgap, rfl, h⟩
    · rintro ⟨gap, rest, hgap, hs, h⟩
      rcases gap with _ | ⟨d, gap⟩
      · obtain rfl : c :: s = rest := hs
        exact .inl h
      · obtain ⟨rfl, rfl⟩ := List.cons_eq_cons.mp hs
        obtain ⟨hc, hgap⟩ := List.ne_and_not_mem_of_not_mem_cons hgap
        exact .inr ⟨Ne.symm hc, gap, rest, hgap, rfl, h⟩

theorem matchPieces_cons_cons {piece next : List Char} {rest : List (List Char)} :
    matchPieces (piece :: next :: rest) s = true ↔
      ∃ gap tail, '\n' ∉ gap ∧ s = piece ++ (gap ++ tail) ∧ matchPieces (next :: rest) tail = true := by
  rcases hprefix : piece.isPrefixOf? s with _ | tail
  · have hnot (tail : List Char) : s ≠ piece ++ tail := by
      rintro rfl
      rw [List.isPrefixOf?_eq_some_iff_append_eq.mpr rfl] at hprefix
      cases hprefix
    simp [matchPieces, hprefix, hnot]
  · obtain rfl := List.isPrefixOf?_eq_some_iff_append_eq.mp hprefix
    simp only [matchPieces, hprefix, behindGap_iff, List.append_cancel_left_eq]

theorem matchPieces_iff {first : List Char} :
    matchPieces (first :: pieces) s = true ↔
      ∃ stars : List (List Char × List Char), stars.map Prod.snd = pieces ∧
        (∀ gap ∈ stars.map Prod.fst, '\n' ∉ gap) ∧ s = first ++ stars.flatMap fun star => star.1 ++ star.2 := by
  induction pieces generalizing first s with
  | nil => simp [matchPieces]
  | cons next pieces ih =>
    rw [matchPieces_cons_cons]
    constructor
    · rintro ⟨gap, tail, hgap, rfl, htail⟩
      obtain ⟨stars, rfl, hline, rfl⟩ := ih.mp htail
      exact ⟨(gap, next) :: stars, rfl, List.forall_mem_cons.mpr ⟨hgap, hline⟩, by simp⟩
    · rintro ⟨stars, hpieces, hline, rfl⟩
      obtain ⟨⟨gap, _⟩, stars, rfl, rfl, rfl⟩ := List.map_eq_cons_iff.mp hpieces
      obtain ⟨hgap, hline⟩ := List.forall_mem_cons.mp hline
      exact ⟨gap, _, hgap, by simp, ih.mpr ⟨stars, rfl, hline, rfl⟩⟩

theorem matchPieces_pieces_iff {text : List Char} :
    matchPieces (Text.pieces '*' text) s = true ↔ ∃ f : Filling, f.pattern = text ∧ f.name = s := by
  constructor
  · intro h
    rcases hpieces : Text.pieces '*' text with _ | ⟨first, pieces⟩
    · exact absurd hpieces (Text.pieces_ne_nil '*' text)
    · rw [hpieces] at h
      obtain ⟨stars, rfl, hline, rfl⟩ := matchPieces_iff.mp h
      have hstarless : ∀ piece ∈ first :: stars.map Prod.snd, '*' ∉ piece :=
        fun piece hpiece => Text.not_mem_of_mem_pieces (hpieces ▸ hpiece)
      refine ⟨⟨first, stars, hstarless, hline⟩, ?_, rfl⟩
      rw [Filling.pattern, ← hpieces, Text.intercalate_pieces]
  · rintro ⟨f, rfl, rfl⟩
    rw [f.pieces_pattern]
    exact matchPieces_iff.mpr ⟨f.stars, rfl, f.within_line, rfl⟩

end Weaving.NamePattern
