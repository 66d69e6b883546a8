import Weaving.Proofs.LibraryMeaning
import Weaving.Proofs.NameFilling

namespace Weaving

namespace RegexLibrary.Part

open Regex (Place)

variable {part : Part} {front back : List Part} {p q : Place}

theorem Spans.leads (h : part.Spans p q) : p.Leads q := by
  cases part with
  | start | finish => exact h.2 ▸ .refl p
  | gap =>
    obtain ⟨run, -, hafter, hbefore⟩ := h
    exact ⟨run, hafter, hbefore⟩
  | quoted s => exact ⟨s.toList, h.1, h.2⟩

theorem spansAll_append :
    SpansAll (front ++ back) p q ↔ ∃ between, SpansAll front p between ∧ SpansAll back between q := by
  induction front generalizing p with
  | nil => simp [SpansAll]
  | cons part front ih =>
    simp only [List.cons_append, SpansAll, ih]
    grind

theorem SpansAll.leads {parts : List Part} (h : SpansAll parts p q) : p.Leads q := by
  induction parts generalizing p with
  | nil => exact h ▸ .refl p
  | cons part rest ih =>
    obtain ⟨between, hpart, hrest⟩ := h
    exact hpart.leads.trans (ih hrest)

theorem spansAll_singleton : SpansAll [part] p q ↔ part.Spans p q := by
  simp [SpansAll]

end RegexLibrary.Part

namespace NamePattern

open Regex (Covers FoundIn Place)
open RegexLibrary (Part)

variable {lib : RegexLibrary} {language : String → Option (Place → Place → Prop)} {p : NamePattern}

/-- The pieces with gaps between them. -/
def gapped : List (List Char) → List Part
  | [] => []
  | [piece] => [.quoted (String.ofList piece)]
  | piece :: next :: rest => .quoted (String.ofList piece) :: .gap :: gapped (next :: rest)

def parts (p : NamePattern) : List Part := .start :: (gapped (Text.pieces '*' p.text.toList) ++ [.finish])

theorem join_gapped (lib : RegexLibrary) (pieces : List (List Char)) :
    String.join ((gapped pieces).map (Part.text lib)) =
      ".*".intercalate (pieces.map fun s => lib.escape (String.ofList s)) := by
  rw [← String.toList_inj]
  fun_induction gapped pieces with
  | case1 => rfl
  | case2 piece => simp [Part.text]
  | case3 piece next rest ih =>
    simp only [List.map_cons, Part.text, String.toList_join, String.toList_intercalate] at ih ⊢
    simp [ih]

theorem expression_eq_join (lib : RegexLibrary) (p : NamePattern) :
    p.expression lib = String.join (p.parts.map (Part.text lib)) := by
  rw [expression, ← join_gapped, parts, ← String.toList_inj]
  simp [Part.text]

/-- A text is read from its start to its end by the parts that stand for pieces and gaps exactly if it is
made of the pieces. -/
theorem spansAll_gapped (before s : List Char) (pieces : List (List Char)) :
    Part.SpansAll (gapped pieces) ⟨before, s⟩ ⟨s.reverse ++ before, []⟩ ↔ matchPieces pieces s = true := by
  fun_induction gapped pieces generalizing before s with
  | case1 =>
    rw [matchPieces, List.isEmpty_iff]
    constructor
    · exact fun hplace => (Place.mk.inj hplace).2
    · rintro rfl
      rfl
  | case2 piece =>
    rw [Part.spansAll_singleton, matchPieces, beq_iff_eq, Part.Spans, String.toList_ofList]
    constructor
    · rintro ⟨hpiece, -⟩
      exact hpiece.trans (List.append_nil piece)
    · rintro rfl
      exact ⟨(List.append_nil s).symm, rfl⟩
  | case3 piece next rest ih =>
    have hreverse (gap tail : List Char) : (piece ++ (gap ++ tail)).reverse ++ before =
        tail.reverse ++ (gap.reverse ++ (piece.reverse ++ before)) := by simp
    rw [matchPieces_cons_cons]
    constructor
    · rintro ⟨⟨_, behind⟩, ⟨hpiece, hbefore⟩, ⟨_, tail⟩, ⟨gap, hline, hgap, hbefore'⟩, hrest⟩
      dsimp only at hpiece hbefore hgap hbefore'
      rw [String.toList_ofList] at hpiece hbefore
      subst hbefore' hbefore hgap hpiece
      rw [hreverse] at hrest
      exact ⟨gap, tail, hline, rfl, (ih _ tail).mp hrest⟩
    · rintro ⟨gap, tail, hline, rfl, htail⟩
      rw [hreverse]
      refine ⟨⟨piece.reverse ++ before, gap ++ tail⟩, ?_, ⟨_, tail⟩, ⟨gap, hline, rfl, rfl⟩, (ih _ tail).mpr htail⟩
      rw [Part.Spans, String.toList_ofList]
      exact ⟨rfl, rfl⟩

theorem found_expression_iff (hlib : lib.IsDocumented language) {found : String → Bool}
    (hcompile : lib.compile (p.expression lib) = .ok found) (name : String) :
    found name = true ↔ matchPieces (Text.pieces '*' p.text.toList) name.toList = true := by
  obtain ⟨S, hS⟩ := Option.isSome_iff_exists.mp (hlib.isSome_of_compile hcompile)
  have hparts := hlib.parts ((congrArg language (expression_eq_join lib p)).symm.trans hS)
  have hanchored : S = fun x y => ∃ first last, Part.start.Spans x first ∧
      Part.SpansAll (gapped (Text.pieces '*' p.text.toList)) first last ∧ Part.finish.Spans last y := by
    funext x y
    rw [hparts, parts, Part.SpansAll]
    simp only [Part.spansAll_append, Part.spansAll_singleton, exists_and_left]
  have hwhole := spansAll_gapped [] name.toList (Text.pieces '*' p.text.toList)
  rw [List.append_nil] at hwhole
  rw [hlib.found_iff hcompile hS, hanchored, RegexLibrary.foundIn_anchored_iff fun _ _ => Part.SpansAll.leads]
  exact hwhole

theorem findsIn_eq_accepts (hlib : lib.IsDocumented language) (hcompile : (lib.compile (p.expression lib)).isOk = true)
    (name : String) : p.findsIn lib name = p.accepts name := by
  rw [findsIn]
  split
  · next hstar => rw [accepts, hstar, Bool.true_or]
  · next hstar =>
    have hplain : p.isWildcard = false := Bool.eq_false_iff.mpr hstar
    split
    · cases hfound : lib.compile (p.expression lib) with
      | error reason =>
        rw [hfound] at hcompile
        cases hcompile
      | ok found =>
        rw [Bool.eq_iff_iff, accepts, hplain, Bool.false_or]
        exact found_expression_iff hlib hfound name
    · next hmem =>
      rw [Bool.eq_iff_iff, accepts_iff_of_not_mem hmem, beq_iff_eq]
      exact eq_comm

/-- Apart from the star alone, a pattern accepts the names that it becomes when a text within one line
is put in for each of its stars. To search for the expression that is written from it comes to the same, with
any library that works as its manual says and takes the expression. -/
theorem accepts_iff_filling (p : NamePattern) (name : String) :
    (p.accepts name = true ↔
      p.text = "*" ∨ ∃ f : Filling, f.pattern = p.text.toList ∧ f.name = name.toList) ∧
    ∀ lib language, RegexLibrary.IsDocumented lib language → (lib.compile (p.expression lib)).isOk = true →
      p.findsIn lib name = p.accepts name := by
  constructor
  · rw [accepts, Bool.or_eq_true, isWildcard, beq_iff_eq, matchPieces_pieces_iff]
  · exact fun lib language hlib hcompile => findsIn_eq_accepts hlib hcompile name

theorem finds_all_by_id :
    (Regex.library.compile ((mk "find*By*").expression Regex.library)).isOk = true ∧
      (mk "find*By*").findsIn Regex.library "findAllById" = true ∧
      (mk "find*By*").findsIn Regex.library "find\nById" = false := by
  have hcompile : (Regex.library.compile ((mk "find*By*").expression Regex.library)).isOk = true := by decide +kernel
  have hfinds (name : String) : (mk "find*By*").findsIn Regex.library name = (mk "find*By*").accepts name :=
    (accepts_iff_filling _ name).2 Regex.library Regex.language Regex.library_isDocumented hcompile
  exact ⟨hcompile, by rw [hfinds]; decide, by rw [hfinds]; decide⟩

example : (mk "*").accepts "\n" = true ∧ (mk "**").accepts "\n" = false := by decide

end NamePattern

end Weaving
