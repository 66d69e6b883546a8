import Mathlib.Data.Option.Basic
import Weaving.Proofs.ReadingInGroup
import Weaving.Proofs.RegexManual
import Weaving.Proofs.RegexReading
import Weaving.Regex.Compile

namespace Weaving.Regex

open RegexLibrary (Part)

section Group

variable {cs cs' rest : List Char}

namespace Reading

/-- The same reading in a group that is open around it. -/
def within (r : Reading) (around : Level × Flags) : Reading := { r with outer := r.outer ++ [around] }

theorem take_within {r r₁ : Reading} {item : Item} (h : r.take item = some r₁)
    (around : Level × Flags) :
    (r.within around).take item = some (r₁.within around) := by
  cases item with
  | opening name changes =>
    simp only [take] at h
    split at h
    · cases h
    · next hnew =>
      obtain rfl := Option.some.inj h
      exact if_neg hnew
  | closing =>
    obtain ⟨flags, level, outer, names⟩ := r
    cases outer with
    | nil => cases h
    | cons last outer =>
      obtain rfl := Option.some.inj h
      rfl
  | bar =>
    obtain rfl := Option.some.inj h
    rfl
  | flags changes =>
    obtain rfl := Option.some.inj h
    rfl
  | repetition least most =>
    obtain ⟨level, hlevel, rfl⟩ := Option.map_eq_some_iff.mp h
    exact Option.map_eq_some_iff.mpr ⟨level, hlevel, rfl⟩
  | regex inner depth =>
    obtain rfl := Option.some.inj h
    rfl

/-- What stands in front of a group, the group, and the end of the text behind it. -/
def enclose (r : Reading) (level : Level) : Reading :=
  ⟨.standard,
    (level.push ⟨r.level.close.1, r.level.close.2 + 1, true⟩).push ⟨.anchor .textEnd, 0, true⟩, [], r.names⟩

theorem run_ending {m : Nat} {r r' : Reading} {level : Level} (hr : r.outer = [])
    (hs : r.flags.skip cs = ending) (h : run m (r.within (level, .standard)) cs = some r') :
    r' = r.enclose level := by
  obtain ⟨flags, inner, outer, names⟩ := r
  obtain rfl : outer = [] := hr
  obtain ⟨m, item, between, r₁, rfl, hread, htake, hrun⟩ := run_cons h hs
  obtain ⟨rfl, rfl⟩ : Item.closing = item ∧ ['$'] = between := by simpa [Item.read] using hread
  obtain rfl := Option.some.inj htake
  obtain ⟨m, item, between, r₂, rfl, hread, htake, hrun⟩ := run_cons (c := '$') hrun rfl
  obtain ⟨rfl, rfl⟩ : Item.regex (.anchor .textEnd) 0 = item ∧ [] = between := by
    simpa [Item.read, Flags.standard] using hread
  obtain rfl := Option.some.inj htake
  rw [run_of_skip_eq_nil rfl] at hrun
  exact (Option.some.inj hrun).symm

/-- A pattern that closes what it opens is read in its group as it is read alone. -/
theorem run_within {n m : Nat} {r r₁ r' : Reading} {level : Level} (h : Abreast cs cs')
    (halone : run n r cs = some r₁) (hclosed : r₁.outer = [])
    (hgrouped : run m (r.within (level, .standard)) cs' = some r') (hclosed' : r'.outer = []) :
    r' = r₁.enclose level := by
  induction n using Nat.strongRecOn generalizing m cs cs' r with | _ n ih => ?_
  have hskip := h.skip (f := r.flags)
  rcases hs : r.flags.skip cs with _ | ⟨c, rest⟩
  · obtain rfl : r = r₁ := by
      rw [run_of_skip_eq_nil hs] at halone
      exact Option.some.inj halone
    rw [hs] at hskip
    rcases hskip.nil_inv with hs' | hs'
    · exact run_ending hclosed hs' hgrouped
    -- a comment has swallowed the ending, so the group would stay open
    · rw [run_of_skip_eq_nil (r := r.within (level, .standard)) hs'] at hgrouped
      obtain rfl := Option.some.inj hgrouped
      simp [within] at hclosed'
  · rw [hs] at hskip
    obtain ⟨rest', hs', hrest⟩ := hskip.cons_inv
    obtain ⟨k, item, between, r₂, rfl, hread, htake, hrun⟩ := run_cons halone hs
    obtain ⟨m, item', between', r₂', rfl, hread', htake', hrun'⟩ := run_cons hgrouped hs'
    obtain ⟨_, hread'', hbetween⟩ := Item.read_follows hskip item between hread
    rw [hs'] at hread''
    obtain ⟨rfl, rfl⟩ : item = item' ∧ _ = between' := by simpa using hread''.symm.trans hread'
    obtain rfl := Option.some.inj ((take_within htake _).symm.trans htake')
    exact ih k (Nat.lt_succ_self k) hbetween hrun hrun'

theorem run_opening (n : Nat) (cs : List Char) :
    run (n + 2) .start ('^' :: '(' :: '?' :: ':' :: cs) =
      run n (start.within (⟨[], [⟨.anchor .textStart, 0, true⟩]⟩, .standard)) cs :=
  rfl

end Reading

/-- A pattern that is well-formed alone stands between the two ends of a name as it is. -/
theorem parse?_group {pattern : String} {r r' : Regex} (halone : parse? pattern = some r)
    (hgrouped : parse? ("^(?:" ++ pattern ++ ")$") = some r') :
    r' = .seq (.anchor .textStart) (.seq r (.anchor .textEnd)) := by
  obtain ⟨reading, hrun, hclosed, -, rfl⟩ := parse?_eq_some_iff.mp halone
  obtain ⟨reading', hrun', hclosed', -, rfl⟩ := parse?_eq_some_iff.mp hgrouped
  have htext :
      ("^(?:" ++ pattern ++ ")$").toList = '^' :: '(' :: '?' :: ':' :: (pattern.toList ++ ending) := by
    simp [ending]
  have hlength : ("^(?:" ++ pattern ++ ")$").length = pattern.length + 4 + 2 := by
    rw [← String.length_toList, htext, ← String.length_toList]
    simp [ending]
  rw [htext, hlength, Reading.run_opening] at hrun'
  rw [Reading.run_within (.goesOn _) hrun hclosed hrun' hclosed']
  rfl

end Group

def Piece.literal (c : Char) : Piece := ⟨.one (· == c), 0, true⟩

/-- Any run of characters within one line. -/
def Piece.gap : Piece := ⟨.repeated (.one (· != '\n')) 0 none, 1, true⟩

section Reading

variable {c : Char} {rest : List Char} {l l' : Level}

theorem read_mark (h : c ∈ marks) (rest : List Char) :
    Item.read .standard ('\\' :: c :: rest) = some (.regex (.one (· == c)) 0, rest) := by
  simp only [marks, List.mem_cons, List.not_mem_nil, or_false] at h
  rcases h with rfl | rfl | rfl | rfl | rfl | rfl | rfl | rfl | rfl | rfl | rfl | rfl | rfl | rfl | rfl | rfl | rfl | rfl
  all_goals rfl

theorem read_plain (h : c ∉ marks) (rest : List Char) :
    Item.read .standard (c :: rest) = some (.regex (.one (· == c)) 0, rest) := by
  simp only [marks, List.mem_cons, List.not_mem_nil, or_false, not_or] at h
  unfold Item.read
  simp only
  split
  -- every case but the last is that of a mark
  all_goals first | rfl | simp_all

theorem Level.reads_quoted (s : List Char) (h : (l.extend (s.map .literal)).Reads rest l') :
    l.Reads (quoted s ++ rest) l' := by
  induction s generalizing l with
  | nil => exact h
  | cons c s ih =>
    rw [List.map_cons, extend_cons] at h
    rw [quoted, List.flatMap_cons, List.append_assoc]
    by_cases hc : c ∈ marks
    · rw [if_pos hc]
      exact .cons _ (read_mark hc _) (Nat.le_succ _) rfl (ih h)
    · rw [if_neg hc]
      exact .cons _ (read_plain hc _) (Nat.le_refl _) rfl (ih h)

/-- A question mark behind the star would be read as a part of the repetition. -/
theorem Level.reads_gap (hrest : ∀ tail, rest ≠ '?' :: tail) (h : (l.push .gap).Reads rest l') :
    l.Reads ('.' :: '*' :: rest) l' := by
  have hreluctance : Item.skipReluctance rest = rest := by
    unfold Item.skipReluctance
    split
    · next tail => exact absurd rfl (hrest tail)
    · rfl
  have hstar : Item.read .standard ('*' :: rest) = some (.repetition 0 none, rest) := by
    simp [Item.read, hreluctance]
  refine .cons (.regex (.one (· != '\n')) 0) rfl (Nat.le_refl _) rfl ?_
  exact .cons _ hstar (Nat.le_refl _) rfl h

theorem quoted_append_ne (h : ∀ tail, rest ≠ '?' :: tail) (s tail : List Char) :
    quoted s ++ rest ≠ '?' :: tail := by
  cases s with
  | nil => exact h tail
  | cons c s =>
    rw [quoted, List.flatMap_cons]
    split
    · simp
    · next hc =>
      intro heq
      obtain ⟨rfl, -⟩ := List.cons_eq_cons.mp heq
      exact hc (by decide)

end Reading

section Stretches

variable {accepts : CharSet} {before after : List Char} {q : Place}

theorem spans_one :
    (one accepts).Spans ⟨before, after⟩ q ↔
      ∃ c rest, accepts c ∧ after = c :: rest ∧ q = ⟨c :: before, rest⟩ := by
  obtain ⟨before', after'⟩ := q
  constructor
  · rintro ⟨c, hc, rfl, hbefore⟩
    obtain rfl : before' = c :: before := hbefore
    exact ⟨c, after', hc, rfl, rfl⟩
  · rintro ⟨c, rest, hc, rfl, hq⟩
    obtain ⟨rfl, rfl⟩ := Place.mk.inj hq
    exact ⟨c, hc, rfl, rfl⟩

theorem times_one {n : Nat} :
    Times (one accepts).Spans n ⟨before, after⟩ q ↔
      ∃ taken rest, taken.length = n ∧ (∀ c ∈ taken, accepts c) ∧ after = taken ++ rest ∧
        q = ⟨taken.reverse ++ before, rest⟩ := by
  induction n generalizing before after with
  | zero =>
    constructor
    · rintro rfl
      exact ⟨[], after, rfl, nofun, rfl, rfl⟩
    · rintro ⟨taken, rest, htaken, -, rfl, rfl⟩
      obtain rfl := List.length_eq_zero_iff.mp htaken
      rfl
  | succ n ih =>
    simp only [Times, spans_one]
    constructor
    · rintro ⟨_, ⟨c, rest, hc, rfl, rfl⟩, hrest⟩
      obtain ⟨taken, rest, rfl, htaken, rfl, rfl⟩ := ih.mp hrest
      exact ⟨c :: taken, rest, rfl, List.forall_mem_cons.mpr ⟨hc, htaken⟩, rfl, by simp⟩
    · rintro ⟨taken, rest, hlength, htaken, rfl, rfl⟩
      obtain ⟨c, taken, rfl⟩ := List.exists_cons_of_length_eq_add_one hlength
      obtain ⟨hc, htaken⟩ := List.forall_mem_cons.mp htaken
      refine ⟨_, ⟨c, taken ++ rest, hc, rfl, rfl⟩, ih.mpr ?_⟩
      exact ⟨taken, rest, Nat.succ.inj hlength, htaken, rfl, by simp⟩

theorem spans_gap :
    Piece.gap.regex.Spans ⟨before, after⟩ q ↔
      ∃ gap rest, '\n' ∉ gap ∧ after = gap ++ rest ∧ q = ⟨gap.reverse ++ before, rest⟩ := by
  have hline (gap : List Char) : (∀ c ∈ gap, (c != '\n') = true) ↔ '\n' ∉ gap := by
    simp only [bne_iff_ne]
    exact ⟨fun h hmem => h _ hmem rfl, fun h c hc hn => h (hn ▸ hc)⟩
  constructor
  · rintro ⟨n, -, -, hrounds⟩
    obtain ⟨gap, rest, -, hgap, hafter, hq⟩ := times_one.mp hrounds
    exact ⟨gap, rest, (hline gap).mp hgap, hafter, hq⟩
  · rintro ⟨gap, rest, hgap, hafter, hq⟩
    exact ⟨gap.length, Nat.zero_le _, nofun, times_one.mpr ⟨gap, rest, rfl, (hline gap).mpr hgap, hafter, hq⟩⟩

theorem spans_literals {s : List Char} :
    (chain ((s.map Piece.literal).map Piece.regex)).Spans ⟨before, after⟩ q ↔
      ∃ rest, after = s ++ rest ∧ q = ⟨s.reverse ++ before, rest⟩ := by
  induction s generalizing before after with
  | nil => simp [chain, Spans, eq_comm]
  | cons c s ih =>
    simp only [List.map_cons, spans_chain_cons, Piece.literal, spans_one] at ih ⊢
    constructor
    · rintro ⟨_, ⟨d, rest, hd, rfl, rfl⟩, hrest⟩
      obtain rfl : d = c := by simpa using hd
      obtain ⟨rest, rfl, rfl⟩ := ih.mp hrest
      exact ⟨rest, rfl, by simp⟩
    · rintro ⟨rest, rfl, rfl⟩
      exact ⟨_, ⟨c, s ++ rest, by simp, rfl, rfl⟩, ih.mpr ⟨rest, rfl, by simp⟩⟩

end Stretches

section Parts

variable {l l' : Level} {before after : List Char} {p q : Place}

/-- What a part adds to a sequence. -/
def piecesOf : Part → List Piece
  | .start => [⟨.anchor .textStart, 0, true⟩]
  | .finish => [⟨.anchor .textEnd, 0, true⟩]
  | .gap => [.gap]
  | .quoted s => s.toList.map .literal

def written (parts : List Part) : List Char := parts.flatMap fun part => (part.text library).toList

theorem written_ne (parts : List Part) (tail : List Char) : written parts ≠ '?' :: tail := by
  induction parts generalizing tail with
  | nil => exact nofun
  | cons part rest ih =>
    rw [written, List.flatMap_cons]
    cases part with
    | start | finish | gap => simp [Part.text]
    | quoted s =>
      rw [Part.text, library, String.toList_ofList]
      exact quoted_append_ne (fun tail => ih tail) s.toList tail

theorem Level.reads_written (parts : List Part) (l : Level) :
    l.Reads (written parts) (l.extend (parts.flatMap piecesOf)) := by
  induction parts generalizing l with
  | nil => exact .nil
  | cons part rest ih =>
    rw [written, List.flatMap_cons, List.flatMap_cons, Level.extend_append]
    cases part with
    | start => exact .cons (.regex (.anchor .textStart) 0) rfl (Nat.le_refl _) rfl (ih _)
    | finish => exact .cons (.regex (.anchor .textEnd) 0) rfl (Nat.le_refl _) rfl (ih _)
    | gap => exact Level.reads_gap (written_ne rest) (ih _)
    | quoted s =>
      rw [Part.text, library, String.toList_ofList]
      exact Level.reads_quoted s.toList (ih _)

theorem depth_piecesOf (part : Part) : ∀ piece ∈ piecesOf part, piece.depth < deepest := by
  intro piece hpiece
  cases part with
  | start | finish | gap =>
    obtain rfl := List.mem_singleton.1 hpiece
    decide
  | quoted s =>
    obtain ⟨c, -, rfl⟩ := List.mem_map.1 hpiece
    exact Nat.zero_lt_succ 249

theorem spans_start : (anchor .textStart).Spans p q ↔ Part.start.Spans p q := by
  simp [Spans, Part.Spans, Anchor.textStart]

theorem spans_finish : (anchor .textEnd).Spans p q ↔ Part.finish.Spans p q := by
  simp [Spans, Part.Spans, Anchor.textEnd]

theorem spans_piecesOf (part : Part) : (chain ((piecesOf part).map Piece.regex)).Spans p q ↔ part.Spans p q := by
  obtain ⟨before, after⟩ := p
  obtain ⟨before', after'⟩ := q
  cases part with
  | start => exact spans_chain_singleton.trans spans_start
  | finish => exact spans_chain_singleton.trans spans_finish
  | gap =>
    rw [piecesOf, List.map_singleton, spans_chain_singleton, spans_gap]
    constructor
    · rintro ⟨run, rest, hline, hafter, hplace⟩
      obtain ⟨rfl, rfl⟩ := Place.mk.inj hplace
      exact ⟨run, hline, hafter, rfl⟩
    · rintro ⟨run, hline, hafter, hbefore⟩
      exact ⟨run, after', hline, hafter, congrArg (Place.mk · after') hbefore⟩
  | quoted s =>
    rw [piecesOf, spans_literals]
    constructor
    · rintro ⟨rest, hafter, hplace⟩
      obtain ⟨rfl, rfl⟩ := Place.mk.inj hplace
      exact ⟨hafter, rfl⟩
    · rintro ⟨hafter, hbefore⟩
      exact ⟨after', hafter, congrArg (Place.mk · after') hbefore⟩

theorem spans_parts (parts : List Part) :
    (chain ((parts.flatMap piecesOf).map Piece.regex)).Spans p q ↔ Part.SpansAll parts p q := by
  induction parts generalizing p with
  | nil => exact Iff.rfl
  | cons part rest ih =>
    rw [List.flatMap_cons, List.map_append, spans_chain_append, Part.SpansAll]
    simp only [spans_piecesOf, ih]

/-- What is written for parts is well-formed, and describes what the parts describe. -/
theorem parse?_parts (parts : List Part) : ∃ r, parse? (String.join (parts.map (Part.text library))) = some r ∧
    ∀ p q, r.Spans p q ↔ Part.SpansAll parts p q := by
  let l := Level.empty.extend (parts.flatMap piecesOf)
  have hsequence : l.sequence = (parts.flatMap piecesOf).reverse := List.append_nil _
  have hdepth : ∀ piece ∈ l.sequence, piece.depth < deepest := by
    intro piece hpiece
    rw [hsequence, List.mem_reverse, List.mem_flatMap] at hpiece
    obtain ⟨part, -, hpiece⟩ := hpiece
    exact depth_piecesOf part piece hpiece
  have htext : (String.join (parts.map (Part.text library))).toList = written parts := by
    rw [String.toList_join, List.flatMap_map, written]
  have hreads : Level.empty.Reads (String.join (parts.map (Part.text library))).toList l := by
    rw [htext]
    exact Level.reads_written parts .empty
  refine ⟨l.joined.1, hreads.parse? rfl hdepth, fun p q => ?_⟩
  rw [Level.spans_joined, hsequence, List.reverse_reverse, spans_parts]

end Parts

/-- The stretches that a well-formed expression describes. -/
def language (text : String) : Option (Place → Place → Prop) := (parse? text).map Spans

theorem language_eq_some_iff {text : String} {S : Place → Place → Prop} :
    language text = some S ↔ ∃ r, parse? text = some r ∧ r.Spans = S := Option.map_eq_some_iff

theorem compile_eq_ok {text : String} {found : String → Bool} (h : compile text = .ok found) :
    ∃ r, parse? text = some r ∧ found = r.isFoundIn := by
  unfold compile at h
  split at h
  · cases h
  · next r hparse =>
    split at h
    · cases h
      exact ⟨r, hparse, rfl⟩
    · cases h

/-- The library reads and finds expressions as the manual says. -/
theorem library_isDocumented : library.IsDocumented language where
  isSome_of_compile h := by
    obtain ⟨r, hparse, -⟩ := compile_eq_ok h
    rw [language, hparse]
    rfl
  found_iff h hS s := by
    obtain ⟨r, hparse, rfl⟩ := compile_eq_ok h
    obtain ⟨r', hparse', rfl⟩ := language_eq_some_iff.mp hS
    obtain rfl : r = r' := Option.some.inj (hparse.symm.trans hparse')
    exact isFoundIn_iff
  leads h p q hspans := by
    obtain ⟨r, -, rfl⟩ := language_eq_some_iff.mp h
    exact hspans.leads
  parts {parts} {_} h p q := by
    obtain ⟨r, hparse, rfl⟩ := language_eq_some_iff.mp h
    obtain ⟨r', hparse', hspans⟩ := parse?_parts parts
    obtain rfl : r = r' := Option.some.inj (hparse.symm.trans hparse')
    exact hspans p q
  group h hgrouped p q := by
    obtain ⟨r, halone, rfl⟩ := language_eq_some_iff.mp h
    obtain ⟨r', hparse, rfl⟩ := language_eq_some_iff.mp hgrouped
    rw [parse?_group halone hparse]
    constructor
    · rintro ⟨first, hstart, last, hspans, hfinish⟩
      exact ⟨first, last, spans_start.mp hstart, hspans, spans_finish.mp hfinish⟩
    · rintro ⟨first, last, hstart, hspans, hfinish⟩
      exact ⟨first, spans_start.mpr hstart, last, hspans, spans_finish.mpr hfinish⟩

end Weaving.Regex
