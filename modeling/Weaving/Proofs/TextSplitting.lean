import Mathlib.Data.List.DropRight
import Mathlib.Data.List.TakeWhile
import Weaving.Text.Blank
import Weaving.Text.Split

namespace Weaving.Text

variable {separator : Char} {s front back : List Char}

theorem pieces_eq_splitOn (separator : Char) (s : List Char) : pieces separator s = s.splitOn separator := by
  induction s with
  | nil => rfl
  | cons c rest ih =>
      rw [pieces, List.splitOn, List.splitOnP_cons_eq_if_modifyHead, ih, List.splitOn]
      by_cases hc : c = separator
      · simp [hc]
      · rw [if_neg hc, if_neg (by simpa using hc)]
        cases hrest : List.splitOnP (· == separator) rest with
        | nil => exact absurd hrest (List.splitOnP_ne_nil _ _)
        | cons p ps => rfl

theorem pieces_ne_nil (separator : Char) (s : List Char) : pieces separator s ≠ [] := by
  rw [pieces_eq_splitOn]
  exact List.splitOn_ne_nil separator s

theorem pieces_of_not_mem (h : separator ∉ s) : pieces separator s = [s] := by
  rw [pieces_eq_splitOn, List.splitOn_eq_singleton h]

theorem pieces_append (front back : List Char) :
    pieces separator (front ++ separator :: back) = pieces separator front ++ pieces separator back := by
  rw [pieces_eq_splitOn, List.splitOn_append_cons_self, ← pieces_eq_splitOn, ← pieces_eq_splitOn]

theorem pieces_intercalate {texts : List (List Char)} (hne : texts ≠ []) (h : ∀ text ∈ texts, separator ∉ text) :
    pieces separator ([separator].intercalate texts) = texts := by
  rw [pieces_eq_splitOn, List.splitOn_intercalate separator h hne]

theorem intercalate_pieces (separator : Char) (s : List Char) :
    [separator].intercalate (pieces separator s) = s := by
  rw [pieces_eq_splitOn, List.intercalate_splitOn]

theorem not_mem_of_mem_pieces {piece : List Char} (h : piece ∈ pieces separator s) : separator ∉ piece := by
  induction s generalizing piece with
  | nil =>
      obtain rfl := List.mem_singleton.1 h
      exact List.not_mem_nil
  | cons c rest ih =>
      rw [pieces] at h
      split at h
      · rcases List.mem_cons.1 h with rfl | hpiece
        · exact List.not_mem_nil
        · exact ih hpiece
      · next hc =>
          have hne := Ne.symm hc
          split at h
          · obtain rfl := List.mem_singleton.1 h
            simpa using hne
          · next first others hrest =>
              rw [hrest] at ih
              rcases List.mem_cons.1 h with rfl | hpiece
              · exact List.not_mem_cons_of_ne_of_not_mem hne (ih List.mem_cons_self)
              · exact ih (List.mem_cons_of_mem first hpiece)

theorem splitFirst_append (h : separator ∉ front) (back : List Char) :
    splitFirst separator (front ++ separator :: back) = some (front, back) := by
  induction front with
  | nil => exact if_pos rfl
  | cons c front ih =>
      obtain ⟨hne, hfront⟩ := not_or.1 (List.mem_cons.not.1 h)
      rw [List.cons_append, splitFirst, if_neg (Ne.symm hne), ih hfront]
      rfl

theorem splitFirst_eq_some_iff : splitFirst separator s = some (front, back) ↔
    s = front ++ separator :: back ∧ separator ∉ front := by
  constructor
  · intro h
    induction s generalizing front with
    | nil => cases h
    | cons c rest ih =>
        rw [splitFirst] at h
        split at h
        · next hc =>
            cases h
            exact ⟨by rw [hc, List.nil_append], List.not_mem_nil⟩
        · next hc =>
            obtain ⟨⟨front', back'⟩, hrest, heq⟩ := Option.map_eq_some_iff.1 h
            cases heq
            obtain ⟨rfl, hfront⟩ := ih hrest
            exact ⟨rfl, List.not_mem_cons_of_ne_of_not_mem (Ne.symm hc) hfront⟩
  · rintro ⟨rfl, h⟩
    exact splitFirst_append h back

theorem afterLast_append (h : separator ∉ back) (front : List Char) :
    afterLast (· == separator) (front ++ separator :: back) = back := by
  have hall : ∀ c ∈ back.reverse, (!c == separator) = true := by
    intro c hc
    simpa using ne_of_mem_of_not_mem (List.mem_reverse.1 hc) h
  rw [afterLast, List.reverse_append, List.reverse_cons, List.append_assoc,
    List.takeWhile_append_of_pos hall]
  simp

theorem afterLast_of_not_mem (h : separator ∉ s) : afterLast (· == separator) s = s := by
  have hall : ∀ c ∈ s.reverse, (!c == separator) = true := by
    intro c hc
    simpa using ne_of_mem_of_not_mem (List.mem_reverse.1 hc) h
  rw [afterLast, List.takeWhile_eq_self_iff.2 hall, List.reverse_reverse]

theorem splitLast_append (h : separator ∉ back) (front : List Char) :
    splitLast separator (front ++ separator :: back) = some (front, back) := by
  have hlength : (front ++ separator :: back).length - back.length - 1 = front.length := by
    rw [List.length_append, List.length_cons]
    omega
  rw [splitLast, afterLast_append h, hlength, List.take_left, if_pos (by simp; omega)]

/-- A text that holds a separator holds a last one. -/
theorem exists_last (h : separator ∈ s) : ∃ front back, s = front ++ separator :: back ∧ separator ∉ back := by
  induction s with
  | nil => cases h
  | cons c rest ih =>
      by_cases hrest : separator ∈ rest
      · obtain ⟨front, back, rfl, hback⟩ := ih hrest
        exact ⟨c :: front, back, rfl, hback⟩
      · obtain rfl : separator = c := (List.mem_cons.1 h).resolve_right hrest
        exact ⟨[], rest, rfl, hrest⟩

theorem splitLast_eq_none_iff : splitLast separator s = none ↔ separator ∉ s := by
  constructor
  · intro h hmem
    obtain ⟨front, back, rfl, hback⟩ := exists_last hmem
    rw [splitLast_append hback] at h
    cases h
  · intro h
    rw [splitLast, afterLast_of_not_mem h, if_neg (Nat.lt_irrefl _)]

/-- The part of a dotted name that is behind its last dot. -/
inductive IsLastSegment : List Char → List Char → Prop
  | whole {name : List Char} (h : '.' ∉ name) : IsLastSegment name name
  | behind {segment : List Char} (front : List Char) (h : '.' ∉ segment) :
      IsLastSegment (front ++ '.' :: segment) segment

theorem isLastSegment_iff {name segment : List Char} :
    IsLastSegment name segment ↔ afterLast (· == '.') name = segment := by
  constructor
  · intro h
    cases h with
    | whole h => exact afterLast_of_not_mem h
    | behind front h => exact afterLast_append h front
  · rintro rfl
    by_cases hmem : '.' ∈ name
    · obtain ⟨front, back, rfl, hback⟩ := exists_last hmem
      rw [afterLast_append hback]
      exact .behind front hback
    · rw [afterLast_of_not_mem hmem]
      exact .whole hmem

theorem lastSegment_of_not_mem {name : String} (h : '.' ∉ name.toList) : lastSegment name = name := by
  rw [lastSegment, afterLast_of_not_mem h, String.ofList_toList]

theorem trimBlanks_eq_rdropWhile (s : List Char) :
    trimBlanks s = (s.dropWhile isBlank).rdropWhile isBlank := rfl

/-- A text that holds more than blanks keeps something when they are dropped at its ends. -/
theorem trimBlanks_ne_nil {c : Char} (hmem : c ∈ s) (h : isBlank c = false) : trimBlanks s ≠ [] := by
  intro hnil
  rw [trimBlanks_eq_rdropWhile, List.rdropWhile_eq_nil_iff] at hnil
  rw [← List.takeWhile_append_dropWhile (p := isBlank) (l := s)] at hmem
  have hblank : isBlank c = true := (List.mem_append.1 hmem).elim List.mem_takeWhile_imp (hnil c)
  exact Bool.false_ne_true (h.symm.trans hblank)

theorem isEmpty_trimBlanks_iff : (trimBlanks s).isEmpty = true ↔ ∀ c ∈ s, isBlank c = true := by
  rw [List.isEmpty_iff]
  constructor
  · intro hnil c hmem
    by_contra hc
    exact trimBlanks_ne_nil hmem (Bool.eq_false_iff.2 hc) hnil
  · intro h
    rw [trimBlanks_eq_rdropWhile, List.dropWhile_eq_nil_iff.2 h]
    exact List.rdropWhile_nil _

theorem trimBlanks_cons (h : isBlank c = true) (s : List Char) : trimBlanks (c :: s) = trimBlanks s := by
  rw [trimBlanks, List.dropWhile_cons_of_pos h, trimBlanks]

theorem trimBlanks_eq_self (hfirst : ∀ c ∈ s.head?, isBlank c = false)
    (hlast : ∀ c ∈ s.getLast?, isBlank c = false) : trimBlanks s = s := by
  have hfront : s.dropWhile isBlank = s := by
    rw [List.dropWhile_eq_self_iff]
    intro hpos
    simp [hfirst s[0] (by simp [List.head?_eq_getElem?, hpos])]
  rw [trimBlanks_eq_rdropWhile, hfront, List.rdropWhile_eq_self_iff]
  intro hne
  simp [hlast _ (List.getLast?_eq_getLast_of_ne_nil hne)]

/-- The text `t`, with blanks before and behind it. -/
structure IsTrimmed (s t : List Char) : Prop where
  exists_blanks : ∃ before after, s = before ++ t ++ after ∧ ∀ c ∈ before ++ after, isBlank c = true
  first : ∀ c ∈ t.head?, isBlank c = false
  last : ∀ c ∈ t.getLast?, isBlank c = false

theorem not_isBlank_of_head?_dropWhile {s : List Char} : ∀ c ∈ (s.dropWhile isBlank).head?, isBlank c = false := by
  intro c hc
  have hhead := List.head?_dropWhile_not isBlank s
  rw [Option.mem_def.1 hc] at hhead
  simpa using hhead

theorem isTrimmed_iff {s t : List Char} : IsTrimmed s t ↔ trimBlanks s = t := by
  rw [trimBlanks_eq_rdropWhile]
  constructor
  · rintro ⟨⟨before, after, rfl, hblank⟩, hfirst, hlast⟩
    obtain ⟨hbefore, hafter⟩ := List.forall_mem_append.1 hblank
    rw [List.append_assoc, List.dropWhile_append_of_pos hbefore]
    cases t with
    | nil =>
        rw [List.nil_append, List.dropWhile_eq_nil_iff.2 hafter]
        exact List.rdropWhile_nil _
    | cons c t =>
        have hc : ¬ isBlank c = true := by simp [hfirst c rfl]
        have hrest : (c :: t).rdropWhile isBlank = c :: t := by
          rw [List.rdropWhile_eq_self_iff]
          intro hne
          simp [hlast _ (List.getLast?_eq_getLast_of_ne_nil hne)]
        rw [List.cons_append, List.dropWhile_cons_of_neg hc, ← List.cons_append, List.rdropWhile,
          List.reverse_append, List.dropWhile_append_of_pos (by simpa using hafter)]
        exact hrest
  · rintro rfl
    have hsplit := List.rdropWhile_append_rtakeWhile (p := isBlank) (l := s.dropWhile isBlank)
    refine ⟨⟨s.takeWhile isBlank, (s.dropWhile isBlank).rtakeWhile isBlank, ?_, ?_⟩, fun c hc => ?_, fun c hc => ?_⟩
    · rw [List.append_assoc, hsplit, List.takeWhile_append_dropWhile]
    · refine List.forall_mem_append.2 ⟨fun c hc => List.mem_takeWhile_imp hc, fun c hc => ?_⟩
      exact List.mem_rtakeWhile_imp hc
    · apply not_isBlank_of_head?_dropWhile (s := s)
      rw [← hsplit, List.head?_append, Option.mem_def.1 hc]
      rfl
    · obtain ⟨hne, rfl⟩ := List.mem_getLast?_eq_getLast hc
      simpa using List.rdropWhile_last_not _ _ hne

/-- Words without blanks, with blanks between them. -/
inductive AreWords : List Char → List (List Char) → Prop
  | nil {blanks : List Char} (h : ∀ c ∈ blanks, isBlank c = true) : AreWords blanks []
  | cons {blanks word rest : List Char} {ws : List (List Char)} (hblanks : ∀ c ∈ blanks, isBlank c = true)
      (hne : word ≠ []) (hword : ∀ c ∈ word, isBlank c = false) (hrest : ∀ c ∈ rest.head?, isBlank c = true)
      (h : AreWords rest ws) : AreWords (blanks ++ word ++ rest) (word :: ws)

theorem words_blanks_append {blanks : List Char} (h : ∀ c ∈ blanks, isBlank c = true) (s : List Char) :
    words (blanks ++ s) = words s := by
  induction blanks with
  | nil => rfl
  | cons c blanks ih =>
      obtain ⟨hc, hblanks⟩ := List.forall_mem_cons.1 h
      rw [List.cons_append, words.eq_def]
      simp only [hc, if_true]
      exact ih hblanks

theorem words_append {word rest : List Char} (hne : word ≠ []) (hword : ∀ c ∈ word, isBlank c = false)
    (hrest : ∀ c ∈ rest.head?, isBlank c = true) : words (word ++ rest) = word :: words rest := by
  induction word with
  | nil => exact absurd rfl hne
  | cons c word ih =>
      obtain ⟨hc, hword⟩ := List.forall_mem_cons.1 hword
      rw [List.cons_append, words.eq_def]
      cases word with
      | nil =>
          cases rest with
          | nil => simp only [List.nil_append, hc, Bool.false_eq_true, if_false, words]
          | cons d rest =>
              have hd : isBlank d = true := hrest d rfl
              simp only [List.nil_append, hc, hd, Bool.false_eq_true, if_false, if_true]
      | cons d word =>
          have hd := hword d List.mem_cons_self
          have hrec := ih (List.cons_ne_nil d word) hword
          rw [List.cons_append] at hrec
          simp only [List.cons_append, hc, hd, Bool.false_eq_true, if_false, hrec]

theorem areWords_words (s : List Char) : AreWords s (words s) := by
  have hblanks : ∀ c ∈ s.takeWhile isBlank, isBlank c = true := fun _ => List.mem_takeWhile_imp
  rw [← List.takeWhile_append_dropWhile (p := isBlank) (l := s), words_blanks_append hblanks]
  cases ht : s.dropWhile isBlank with
  | nil =>
      rw [List.append_nil]
      exact .nil hblanks
  | cons d t =>
      have hd : isBlank d = false := not_isBlank_of_head?_dropWhile (s := s) d (by rw [ht]; rfl)
      have hword : ∀ c ∈ d :: t.takeWhile (!isBlank ·), isBlank c = false := by
        refine List.forall_mem_cons.2 ⟨hd, fun c hc => ?_⟩
        simpa using List.mem_takeWhile_imp hc
      have hrest : ∀ c ∈ (t.dropWhile (!isBlank ·)).head?, isBlank c = true := by
        intro c hc
        have hhead := List.head?_dropWhile_not (!isBlank ·) t
        rw [Option.mem_def.1 hc] at hhead
        simpa using hhead
      have hlength : (t.dropWhile (!isBlank ·)).length < s.length := by
        have hdrop := (List.dropWhile_sublist (l := t) (!isBlank ·)).length_le
        have hrest := (List.dropWhile_sublist (l := s) isBlank).length_le
        rw [ht, List.length_cons] at hrest
        omega
      have hsplit : d :: t = d :: t.takeWhile (!isBlank ·) ++ t.dropWhile (!isBlank ·) := by
        rw [List.cons_append, List.takeWhile_append_dropWhile]
      rw [hsplit, words_append (List.cons_ne_nil _ _) hword hrest, ← List.append_assoc]
      exact .cons hblanks (List.cons_ne_nil _ _) hword hrest (areWords_words _)
termination_by s.length

theorem areWords_iff {ws : List (List Char)} : AreWords s ws ↔ words s = ws := by
  constructor
  · intro h
    induction h with
    | nil hblanks =>
        have hnil := words_blanks_append hblanks []
        rw [List.append_nil] at hnil
        rw [hnil, words]
    | cons hblanks hne hword hrest _ ih =>
        rw [List.append_assoc, words_blanks_append hblanks, words_append hne hword hrest, ih]
  · rintro rfl
    exact areWords_words s

theorem words_eq_singleton (hne : s ≠ []) (h : ∀ c ∈ s, isBlank c = false) : words s = [s] := by
  induction s with
  | nil => exact absurd rfl hne
  | cons c rest ih =>
      obtain ⟨hc, hrest⟩ := List.forall_mem_cons.1 h
      rw [words.eq_def]
      cases rest with
      | nil => simp only [hc, Bool.false_eq_true, if_false]
      | cons d rest =>
          have hd := hrest d List.mem_cons_self
          simp only [hc, hd, ih (List.cons_ne_nil d rest) hrest, Bool.false_eq_true, if_false]

end Weaving.Text
