import Mathlib.Data.Option.Basic
import Weaving.Regex.Item

namespace Weaving.Regex

variable {f : Flags} {cs cs' rest : List Char} {α β : Type}

/-- What stands behind a pattern in its group: the end of the group and the end of the text. -/
def ending : List Char := [')', '$']

/-- What is left of a pattern that is read alone, and of the same pattern in its group. A comment
that is open at the end of the pattern swallows the ending of the group. -/
inductive Abreast : List Char → List Char → Prop where
  | goesOn (cs : List Char) : Abreast cs (cs ++ ending)
  | swallowed : Abreast [] []

/-- The same was read, and up to the same place. -/
def InStep (alone grouped : α × List Char) : Prop := grouped.1 = alone.1 ∧ Abreast alone.2 grouped.2

/-- What can be read alone is read in the group as well, up to the same place. -/
def Follows (alone grouped : Option (α × List Char)) : Prop :=
  ∀ x rest, alone = some (x, rest) → ∃ rest', grouped = some (x, rest') ∧ Abreast rest rest'

theorem follows_none {grouped : Option (α × List Char)} : Follows none grouped := nofun

theorem Abreast.follows (h : Abreast cs cs') (x : α) : Follows (some (x, cs)) (some (x, cs')) := by
  intro y rest hy
  obtain ⟨rfl, rfl⟩ : x = y ∧ cs = rest := by simpa using hy
  exact ⟨cs', rfl, h⟩

theorem Abreast.follows_map (h : Abreast cs cs') (o : Option β) (g : β → α) :
    Follows (o.map fun x => (g x, cs)) (o.map fun x => (g x, cs')) := by
  cases o with
  | none => exact follows_none
  | some x => exact h.follows (g x)

theorem Follows.bind {o o' : Option (α × List Char)} {k k' : α × List Char → Option (β × List Char)}
    (h : Follows o o')
    (hk : ∀ x rest rest', Abreast rest rest' → Follows (k (x, rest)) (k' (x, rest'))) :
    Follows (o.bind k) (o'.bind k') := by
  intro y rest hy
  obtain ⟨⟨x, between⟩, ho, hx⟩ := Option.bind_eq_some_iff.mp hy
  obtain ⟨between', ho', hbetween⟩ := h x between ho
  obtain ⟨rest', hrest', hb⟩ := hk x between between' hbetween y rest hx
  exact ⟨rest', by rw [ho', Option.bind_some, hrest'], hb⟩

theorem Follows.map {o o' : Option (α × List Char)} (h : Follows o o') (g : α → β) :
    Follows (o.map fun p => (g p.1, p.2)) (o'.map fun p => (g p.1, p.2)) := by
  intro y rest hy
  obtain ⟨⟨x, between⟩, ho, hx⟩ := Option.map_eq_some_iff.mp hy
  obtain ⟨rfl, rfl⟩ : g x = y ∧ between = rest := by simpa using hx
  obtain ⟨between', ho', hbetween⟩ := h x between ho
  exact ⟨between', by rw [ho', Option.map_some], hbetween⟩

theorem skipVerbose_abreast (comment : Bool) (cs : List Char) :
    Abreast (Flags.skipVerbose comment cs) (Flags.skipVerbose comment (cs ++ ending)) := by
  induction cs generalizing comment with
  | nil =>
    cases comment with
    | false => exact .goesOn []
    | true => exact .swallowed
  | cons c cs ih =>
    cases comment with
    | true => exact ih _
    | false =>
      simp only [List.cons_append, Flags.skipVerbose]
      split
      · exact ih _
      · split
        · exact ih _
        · exact .goesOn (c :: cs)

theorem Abreast.skip (h : Abreast cs cs') : Abreast (f.skip cs) (f.skip cs') := by
  unfold Flags.skip
  cases h with
  | swallowed => split <;> exact .swallowed
  | goesOn =>
    split
    · exact skipVerbose_abreast false cs
    · exact .goesOn cs

theorem Abreast.cons_inv {c : Char} (h : Abreast (c :: cs) cs') :
    ∃ rest', cs' = c :: rest' ∧ Abreast cs rest' := by
  cases h with
  | goesOn => exact ⟨cs ++ ending, rfl, .goesOn cs⟩

theorem Abreast.cons_cons_inv {c d : Char} (h : Abreast (c :: d :: cs) cs') :
    ∃ rest', cs' = c :: d :: rest' ∧ Abreast cs rest' := by
  cases h with
  | goesOn => exact ⟨cs ++ ending, rfl, .goesOn cs⟩

theorem Abreast.nil_inv (h : Abreast [] cs') : cs' = ending ∨ cs' = [] := by
  cases h with
  | goesOn => exact .inl rfl
  | swallowed => exact .inr rfl

theorem Abreast.ne_nil (h : Abreast cs cs') (hcs : cs ≠ []) : cs' ≠ [] := by
  cases h with
  | goesOn => simp [hcs]
  | swallowed => exact hcs

/-- Apart from the end of the group, what comes next is the same. -/
theorem Abreast.next (h : Abreast cs cs') {c : Char} (hc : c ≠ ')') :
    (∃ rest rest', cs = c :: rest ∧ cs' = c :: rest' ∧ Abreast rest rest') ∨
      (∀ rest, cs ≠ c :: rest) ∧ ∀ rest, cs' ≠ c :: rest := by
  cases h with
  | swallowed => exact .inr ⟨by simp, by simp⟩
  | goesOn =>
    rcases cs with _ | ⟨d, rest⟩
    · exact .inr ⟨by simp, by simp [ending, hc.symm]⟩
    · by_cases hd : d = c
      · exact .inl ⟨rest, rest ++ ending, by rw [hd], by rw [hd, List.cons_append], .goesOn rest⟩
      · exact .inr ⟨by simp [hd], by simp [hd]⟩

theorem Abreast.not_cons (h : Abreast cs cs') {c : Char} (hc : c ≠ ')')
    (hcs : ∀ rest, cs ≠ c :: rest) : ∀ rest, cs' ≠ c :: rest := by
  rcases h.next hc with ⟨rest, -, hs, -, -⟩ | ⟨-, hs'⟩
  · exact absurd hs (hcs rest)
  · exact hs'

theorem Abreast.not_cons_cons (h : Abreast cs cs') {c d : Char} (hc : c ≠ ')') (hd : d ≠ ')')
    (hcs : ∀ rest, cs ≠ c :: d :: rest) : ∀ rest, cs' ≠ c :: d :: rest := by
  rcases h.next hc with ⟨tail, tail', rfl, rfl, htail⟩ | ⟨-, hs'⟩
  · have htail' := htail.not_cons hd fun rest hs => hcs rest (by rw [hs])
    exact fun rest hs => htail' rest (List.tail_eq_of_cons_eq hs)
  · exact fun rest => hs' (d :: rest)

theorem readHexDigits_follows {n : Nat} (h : Abreast cs cs') :
    Follows (readHexDigits f n cs) (readHexDigits f n cs') := by
  induction n generalizing cs cs' with
  | zero => exact h.follows []
  | succ n ih =>
    cases cs with
    | nil => exact follows_none
    | cons c cs =>
      obtain ⟨rest', rfl, hrest⟩ := h.cons_inv
      simp only [readHexDigits]
      split
      · exact (ih hrest.skip).map (c :: ·)
      · exact follows_none

theorem readBraced_follows {n n' : Nat} (hn : n ≤ n') (h : Abreast cs cs') :
    Follows (readBraced f n cs) (readBraced f n' cs') := by
  induction n generalizing n' cs cs' with
  | zero => exact follows_none
  | succ n ih =>
    obtain ⟨n', rfl⟩ : ∃ m, n' = m + 1 := ⟨n' - 1, by omega⟩
    have hn : n ≤ n' := by omega
    have hskip := h.skip (f := f)
    rcases hs : f.skip cs with _ | ⟨c, rest⟩
    · simp only [readBraced, hs]
      exact follows_none
    · rw [hs] at hskip
      obtain ⟨rest', hs', hrest⟩ := hskip.cons_inv
      simp only [readBraced, hs, hs']
      by_cases hc : c = '\x7d'
      · subst hc
        exact hrest.follows []
      · simp only
        exact (ih hn hrest).map (c :: ·)

theorem Abreast.length_le (h : Abreast cs cs') : cs.length ≤ cs'.length := by
  cases h with
  | goesOn => simp
  | swallowed => exact Nat.le_refl _

theorem readHex_follows {width : Nat} (h : Abreast cs cs') :
    Follows (readHex f width cs) (readHex f width cs') := by
  have hchar (digits : List Char) (byte : Bool) {rest rest' : List Char} (hrest : Abreast rest rest') :
      Follows (do return (Primitive.literal (← charOfHex digits) byte, rest))
        (do return (Primitive.literal (← charOfHex digits) byte, rest')) := by
    cases charOfHex digits with
    | none => exact follows_none
    | some c => exact hrest.follows _
  rcases (h.skip (f := f)).next (c := '\x7b') (by decide) with ⟨rest, rest', hs, hs', hrest⟩ | ⟨hs, hs'⟩
  · simp only [readHex, hs, hs']
    refine (readBraced_follows (Nat.succ_le_succ hrest.length_le) hrest).bind fun digits rest rest' hrest => ?_
    cases !digits.isEmpty && digits.all isHexDigit with
    | true => exact hchar digits false hrest.skip
    | false => exact follows_none
  · simp only [readHex]
    exact (readHexDigits_follows h.skip).bind fun digits _ _ hrest => hchar digits _ hrest

theorem splitAt?_append {mark : Char} {more : List Char} (hmark : mark ∉ more) (cs : List Char) :
    splitAt? [mark] (cs ++ more) = (splitAt? [mark] cs).map fun x => (x.1, x.2 ++ more) := by
  induction cs with
  | nil =>
    induction more with
    | nil => rfl
    | cons c more ih =>
      simp only [List.mem_cons, not_or] at hmark
      simpa [splitAt?, Flags.strip?, hmark.1] using ih hmark.2
  | cons c cs ih =>
    simp only [splitAt?, Flags.strip?, List.cons_append]
    by_cases hc : mark == c
    · rw [if_pos hc, if_pos hc]
      rfl
    · rw [if_neg hc, if_neg hc]
      simp [ih, Function.comp_def]

theorem readProperty_follows {negated : Bool} (h : Abreast cs cs') :
    Follows (readProperty f negated cs) (readProperty f negated cs') := by
  have hskip := h.skip (f := f)
  rcases hs : f.skip cs with _ | ⟨c, rest⟩
  · simp only [readProperty, hs]
    exact follows_none
  · rw [hs] at hskip
    obtain ⟨rest', hs', hrest⟩ := hskip.cons_inv
    simp only [readProperty, hs, hs']
    by_cases hbackslash : c = '\\'
    · subst hbackslash
      exact follows_none
    by_cases hbrace : c = '\x7b'
    · subst hbrace
      refine (readBraced_follows (Nat.succ_le_succ hrest.length_le) hrest).bind fun name rest rest' hrest => ?_
      cases namedSet f negated name with
      | none => exact follows_none
      | some s => exact hrest.follows _
    · simp only
      cases namedSet f negated [c] with
      | none => exact follows_none
      | some s => exact hrest.skip.follows _

theorem length_skipVerbose_le (comment : Bool) (cs : List Char) :
    (Flags.skipVerbose comment cs).length ≤ cs.length := by
  induction cs generalizing comment with
  | nil => cases comment <;> exact Nat.le_refl 0
  | cons c cs ih =>
    have hcs (comment : Bool) : (Flags.skipVerbose comment cs).length ≤ (c :: cs).length :=
      Nat.le_succ_of_le (ih comment)
    cases comment with
    | true => exact hcs _
    | false =>
      simp only [Flags.skipVerbose]
      split
      · exact hcs _
      · split
        · exact hcs _
        · exact Nat.le_refl _

theorem length_skip_le (f : Flags) (cs : List Char) : (f.skip cs).length ≤ cs.length := by
  unfold Flags.skip
  split
  · exact length_skipVerbose_le false cs
  · exact Nat.le_refl _

/-- The characters of a kind that come first, with what is passed over between them left out. -/
def readWhile (p : Char → Bool) (f : Flags) : Nat → List Char → List Char × List Char
  | 0, cs => ([], cs)
  | _ + 1, [] => ([], [])
  | fuel + 1, c :: rest =>
    if p c then (c :: (readWhile p f fuel (f.skip rest)).1, (readWhile p f fuel (f.skip rest)).2)
    else ([], c :: rest)

theorem readWhile_of_nil {p : Char → Bool} (hp : p ')' = false) (h : Abreast [] cs') (n : Nat) :
    readWhile p f n cs' = ([], cs') := by
  cases h with
  | goesOn => cases n <;> simp [readWhile, ending, hp]
  | swallowed => cases n <;> rfl

/-- Fuel for all characters reads the same in front of the ending. -/
theorem readWhile_abreast {p : Char → Bool} (hp : p ')' = false) {n n' : Nat} (hn : cs.length ≤ n)
    (hn' : cs'.length ≤ n') (h : Abreast cs cs') :
    InStep (readWhile p f n cs) (readWhile p f n' cs') := by
  induction n generalizing n' cs cs' with
  | zero =>
    obtain rfl : cs = [] := List.length_eq_zero_iff.mp (by omega)
    rw [readWhile_of_nil hp h]
    exact ⟨rfl, h⟩
  | succ n ih =>
    rcases cs with _ | ⟨c, cs⟩
    · rw [readWhile_of_nil hp h]
      exact ⟨rfl, h⟩
    · obtain ⟨rest', rfl, hrest⟩ := h.cons_inv
      obtain ⟨n', rfl⟩ : ∃ m, n' = m + 1 := ⟨n' - 1, by simp at hn'; omega⟩
      have hlength := length_skip_le f cs
      have hlength' := length_skip_le f rest'
      simp only [List.length_cons] at hn hn'
      simp only [readWhile]
      split
      · obtain ⟨htaken, hrest⟩ := ih (by omega) (by omega : _ ≤ n') (hrest.skip (f := f))
        exact ⟨congrArg (c :: ·) htaken, hrest⟩
      · exact ⟨rfl, h⟩

theorem readLetters_eq_readWhile (n : Nat) (cs : List Char) :
    readLetters f n cs = readWhile (fun c => c.isAlpha || c == '-') f n cs := by
  induction n generalizing cs with
  | zero => rfl
  | succ n ih => cases cs <;> simp [readLetters, readWhile, ih]

theorem readDigits_eq_readWhile (n : Nat) (cs : List Char) :
    Item.readDigits f n cs = readWhile Char.isDigit f n cs := by
  induction n generalizing cs with
  | zero => rfl
  | succ n ih => cases cs <;> simp [Item.readDigits, readWhile, ih]

theorem readMinuses_eq_readWhile (n : Nat) (items : Items) (cs : List Char) :
    Bracket.readMinuses f n items cs =
      ((readWhile (· == '-') f n cs).1.foldl (fun items _ => items.add (· == '-') 0) items,
        (readWhile (· == '-') f n cs).2) := by
  induction n generalizing cs items with
  | zero => rfl
  | succ n ih =>
    rcases cs with _ | ⟨c, cs⟩
    · rfl
    · by_cases hc : c = '-'
      · subst hc
        exact ih _ _
      · simp [Bracket.readMinuses, readWhile, hc]

theorem readBoundary_follows (h : Abreast cs cs') : Follows (readBoundary f cs) (readBoundary f cs') := by
  rcases h.next (c := '\x7b') (by decide) with ⟨rest, rest', rfl, rfl, hrest⟩ | ⟨hs, hs'⟩
  · have hskip := hrest.skip (f := f)
    simp only [readBoundary]
    rcases hs : f.skip rest with _ | ⟨c, inner⟩
    · exact follows_none
    · rw [hs] at hskip
      obtain ⟨inner', hs', hinner⟩ := hskip.cons_inv
      simp only [hs']
      by_cases hc : (c.isAlpha || c == '-') = true
      · rw [if_pos hc, if_pos hc]
        obtain ⟨hletters, hafter⟩ :=
          readWhile_abreast (f := f) (p := fun c => c.isAlpha || c == '-') rfl (Nat.le_refl _) (Nat.le_refl _) hskip
        rw [← readLetters_eq_readWhile, ← readLetters_eq_readWhile, hs', List.length_cons,
          List.length_cons] at hletters hafter
        generalize readLetters f (inner.length + 1) (c :: inner) = read at hletters hafter ⊢
        generalize readLetters f (inner'.length + 1) (c :: inner') = read' at hletters hafter ⊢
        obtain ⟨letters, after⟩ := read
        obtain ⟨letters', after'⟩ := read'
        obtain rfl : letters' = letters := hletters
        change Abreast after after' at hafter
        rcases hafter.next (c := '\x7d') (by decide) with ⟨behind, behind', rfl, rfl, hbehind⟩ | ⟨hs, hs'⟩
        · exact hbehind.follows_map (wordAnchor? f.wordSet (String.ofList letters')) id
        · split
          · next heq => exact absurd (congrArg Prod.snd heq) (hs _)
          · exact follows_none
      · rw [if_neg hc, if_neg hc]
        exact h.follows _
  · simp only [readBoundary]
    exact h.follows _

theorem readEscape_follows (h : Abreast cs cs') : Follows (readEscape f cs) (readEscape f cs') := by
  rcases cs with _ | ⟨c, cs⟩
  · exact follows_none
  obtain ⟨rest', rfl, hrest⟩ := h.cons_inv
  simp only [readEscape]
  split
  case h_1 | h_2 | h_3 => exact readHex_follows hrest
  case h_4 | h_5 => exact (readProperty_follows hrest).map Primitive.set
  case h_6 | h_7 | h_8 | h_9 | h_10 | h_11 => exact hrest.follows_map _ Primitive.set
  case h_14 => exact (readBoundary_follows hrest).map Primitive.anchor
  case h_18 =>
    cases controlOf? c with
    | some control => exact hrest.follows _
    | none =>
      simp only
      split
      · exact hrest.follows _
      · exact follows_none
  all_goals exact hrest.follows _

/-- Brackets after the minus signs at their start. -/
def Bracket.opened (f : Flags) (negated : Bool) : Items × List Char → Bracket × List Char
  | (⟨union, 0, depth⟩, ']' :: rest) =>
    (⟨negated, none, Items.add ⟨union, 0, depth⟩ (· == ']') 0⟩, f.skip rest)
  | (items, cs) => (⟨negated, none, items⟩, cs)

theorem opened_abreast {x y : Items × List Char} (h : InStep x y) (negated : Bool) :
    InStep (Bracket.opened f negated x) (Bracket.opened f negated y) := by
  obtain ⟨items, cs⟩ := x
  obtain ⟨items', cs'⟩ := y
  obtain ⟨rfl, hrest⟩ : items' = items ∧ Abreast cs cs' := h
  obtain ⟨union, count, depth⟩ := items'
  rcases hrest.next (c := ']') (by decide) with ⟨behind, behind', rfl, rfl, hbehind⟩ | ⟨hs, hs'⟩
  · cases count with
    | zero => exact ⟨rfl, hbehind.skip⟩
    | succ count => exact ⟨rfl, hrest⟩
  · simp only [Bracket.opened, hs, hs', imp_self, implies_true]
    exact ⟨rfl, hrest⟩

theorem readMinuses_abreast (h : Abreast cs cs') :
    InStep (Bracket.readMinuses f cs.length .none cs) (Bracket.readMinuses f cs'.length .none cs') := by
  obtain ⟨hminuses, hrest⟩ :=
    readWhile_abreast (f := f) (p := (· == '-')) rfl (Nat.le_refl _) (Nat.le_refl _) h
  rw [readMinuses_eq_readWhile, readMinuses_eq_readWhile, hminuses]
  exact ⟨rfl, hrest⟩

theorem bracketStart_abreast (h : Abreast cs cs') : InStep (Bracket.start f cs) (Bracket.start f cs') := by
  rcases (h.skip (f := f)).next (c := '^') (by decide) with ⟨rest, rest', hs, hs', hrest⟩ | ⟨hs, hs'⟩
  · simp only [Bracket.start, hs, hs']
    exact opened_abreast (readMinuses_abreast hrest.skip) true
  · simp only [Bracket.start]
    exact opened_abreast (readMinuses_abreast h.skip) false

/-- A named set from behind the colon and the mark of a complement. -/
def readAsciiName (negated : Bool) (cs : List Char) : Option (Bool × CharSet × List Char) :=
  match splitAt? [':'] cs with
  | some (name, ']' :: after) => (asciiSet? (String.ofList name)).map fun s => (negated, s, after)
  | _ => none

theorem readAsciiName_append (negated : Bool) (cs : List Char) :
    readAsciiName negated (cs ++ ending) =
      (readAsciiName negated cs).map fun x => (x.1, x.2.1, x.2.2 ++ ending) := by
  unfold readAsciiName
  rw [splitAt?_append (by decide)]
  rcases splitAt? [':'] cs with _ | ⟨name, behind⟩
  · rfl
  · rcases (Abreast.goesOn behind).next (c := ']') (by decide) with ⟨after, after', rfl, hs', hafter⟩ | ⟨hs, hs'⟩
    · simp only [Option.map_some, List.cons_append, Option.map_map]
      rfl
    · simp [hs, hs']

theorem readAsciiSet_colon {cs : List Char} (hcs : ∀ rest, cs ≠ '^' :: rest) :
    readAsciiSet (':' :: cs) = readAsciiName false cs := by
  simp only [readAsciiSet]
  rfl

theorem readAsciiSet_append (cs : List Char) :
    readAsciiSet (cs ++ ending) = (readAsciiSet cs).map fun x => (x.1, x.2.1, x.2.2 ++ ending) := by
  rcases (Abreast.goesOn cs).next (c := ':') (by decide) with ⟨cs, -, rfl, -, -⟩ | ⟨hs, hs'⟩
  · rcases (Abreast.goesOn cs).next (c := '^') (by decide) with ⟨cs, -, rfl, -, -⟩ | ⟨hs, hs'⟩
    · exact readAsciiName_append true cs
    · rw [List.cons_append, readAsciiSet_colon hs, readAsciiSet_colon hs']
      exact readAsciiName_append false cs
  · simp only [readAsciiSet, Option.map_none]

theorem Abreast.readAsciiSet_eq_none (h : Abreast cs cs') (hset : readAsciiSet cs = none) :
    readAsciiSet cs' = none := by
  cases h with
  | swallowed => rfl
  | goesOn => rw [readAsciiSet_append, hset, Option.map_none]

theorem Abreast.readAsciiSet_eq_some (h : Abreast cs cs') {negated : Bool} {s : CharSet}
    (hset : readAsciiSet cs = some (negated, s, rest)) :
    ∃ rest', readAsciiSet cs' = some (negated, s, rest') ∧ Abreast rest rest' := by
  cases h with
  | swallowed => cases hset
  | goesOn => exact ⟨rest ++ ending, by rw [readAsciiSet_append, hset, Option.map_some], .goesOn rest⟩

theorem readSetItem_follows (h : Abreast cs cs') : Follows (readSetItem f cs) (readSetItem f cs') := by
  rcases cs with _ | ⟨c, cs⟩
  · exact follows_none
  obtain ⟨rest', rfl, hrest⟩ := h.cons_inv
  by_cases hc : c = '\\'
  · subst hc
    exact readEscape_follows hrest
  · simp only [readSetItem]
    exact hrest.follows _

theorem Abreast.dropBlanks (h : Abreast cs cs') :
    Abreast (cs.dropWhile Text.isBlank) (cs'.dropWhile Text.isBlank) := by
  cases h with
  | swallowed => exact .swallowed
  | goesOn =>
    rw [List.dropWhile_append]
    split
    · next hcs =>
      rw [List.isEmpty_iff.mp hcs]
      exact .goesOn []
    · exact .goesOn _

theorem Abreast.head?_eq (h : Abreast cs cs') :
    cs'.head? = cs.head? ∨ cs.head? = none ∧ cs'.head? = some ')' := by
  cases h with
  | swallowed => exact .inl rfl
  | goesOn =>
    cases cs with
    | nil => exact .inr ⟨rfl, rfl⟩
    | cons => exact .inl rfl

theorem peekBehind_eq {c : Char} (h : Abreast (c :: cs) cs') :
    peekBehind f cs' = peekBehind f (c :: cs) ∨
      peekBehind f (c :: cs) = none ∧ peekBehind f cs' = some ')' := by
  obtain ⟨rest', rfl, hrest⟩ := h.cons_inv
  unfold peekBehind
  simp only [List.tail_cons]
  split
  · rcases hrest.dropBlanks.next (c := '#') (by decide) with ⟨after, after', hs, hs', hafter⟩ | ⟨hs, hs'⟩
    · rw [hs, hs']
      exact hafter.dropBlanks.head?_eq
    · simp only
      exact hrest.dropBlanks.head?_eq
  · exact hrest.head?_eq

theorem readRange_follows (h : Abreast cs cs') : Follows (readRange f cs) (readRange f cs') := by
  refine (readSetItem_follows h).bind fun first rest rest' hrest => ?_
  have hskip := hrest.skip (f := f)
  simp only
  rcases hs : f.skip rest with _ | ⟨c, tail⟩
  · exact follows_none
  · rw [hs] at hskip
    have hpeek := peekBehind_eq (f := f) hskip
    obtain ⟨tail', hs', htail⟩ := hskip.cons_inv
    rw [hs'] at hskip hpeek ⊢
    have hends : ((c :: tail').head? != some '-' || peekBehind f (c :: tail') == some ']' ||
          peekBehind f (c :: tail') == some '-') =
        ((c :: tail).head? != some '-' || peekBehind f (c :: tail) == some ']' ||
          peekBehind f (c :: tail) == some '-') := by
      rcases hpeek with hpeek | ⟨hpeek, hpeek'⟩
      · rw [hpeek]
        rfl
      · rw [hpeek, hpeek']
        rfl
    rw [hends]
    simp only [List.isEmpty_cons, Bool.false_eq_true, if_false, List.tail_cons]
    split
    · cases singleton? f first with
      | none => exact follows_none
      | some s => exact hskip.follows s
    · refine (readSetItem_follows htail.skip).bind fun last rest rest' hrest => ?_
      simp only
      cases memberOf? f first with
      | none => exact follows_none
      | some low =>
        cases memberOf? f last with
        | none => exact follows_none
        | some high =>
          simp only [Option.bind_eq_bind, Option.bind_some]
          split
          · exact hrest.follows _
          · exact follows_none

theorem readBrackets_follows {n n' : Nat} (hn : n ≤ n') (h : Abreast cs cs')
    {outer : List Bracket} {b : Bracket} {s : CharSet} {depth : Nat}
    (hread : readBrackets f n outer b cs = some (s, depth, rest)) :
    ∃ rest', readBrackets f n' outer b cs' = some (s, depth, rest') ∧ Abreast rest rest' := by
  induction n generalizing n' cs cs' outer b with
  | zero => simp [readBrackets] at hread
  | succ n ih =>
    obtain ⟨n', rfl⟩ : ∃ m, n' = m + 1 := ⟨n' - 1, by omega⟩
    have hn : n ≤ n' := by omega
    have hskip := h.skip (f := f)
    rw [readBrackets] at hread ⊢
    split at hread
    case h_1 => cases hread
    case h_2 tail hs =>
      rw [hs] at hskip
      obtain ⟨tail', hs', htail⟩ := hskip.cons_inv
      simp only [hs']
      rcases hset : readAsciiSet tail with _ | ⟨negated, s, behind⟩
      · rw [hset] at hread
        rw [htail.readAsciiSet_eq_none hset]
        obtain ⟨hinner, hrest⟩ := bracketStart_abreast (f := f) htail
        simp only [hinner]
        exact ih hn hrest hread
      · rw [hset] at hread
        obtain ⟨behind', hset', hbehind⟩ := htail.readAsciiSet_eq_some hset
        simp only [hset']
        simp only at hread
        split at hread
        · next hs => exact ih hn hbehind hread
        · cases hread
    case h_3 tail hs =>
      rw [hs] at hskip
      obtain ⟨tail', hs', htail⟩ := hskip.cons_inv
      simp only [hs']
      split at hread
      · obtain ⟨rfl, rfl, rfl⟩ := by simpa using hread
        exact ⟨tail', rfl, htail⟩
      · exact ih hn htail hread
      · cases hread
    case h_4 tail hs | h_5 tail hs | h_6 tail hs =>
      rw [hs] at hskip
      obtain ⟨tail', hs', htail⟩ := hskip.cons_cons_inv
      simp only [hs']
      exact ih hn htail hread
    -- the ending begins with neither a bracket nor an operator, so an item comes next in both
    case h_7 hnil hopen hclose hand hminus htilde =>
      rcases hrange : readRange f (f.skip cs) with _ | ⟨s, behind⟩
      · simp [hrange] at hread
      · obtain ⟨behind', hrange', hbehind⟩ := readRange_follows hskip s behind hrange
        have hnil' := hskip.ne_nil hnil
        have hopen' := hskip.not_cons (by decide) hopen
        have hclose' := hskip.not_cons (by decide) hclose
        have hand' := hskip.not_cons_cons (by decide) (by decide) hand
        have hminus' := hskip.not_cons_cons (by decide) (by decide) hminus
        have htilde' := hskip.not_cons_cons (by decide) (by decide) htilde
        simp only [hrange] at hread
        simp only [hrange']
        exact ih hn hbehind hread

theorem readBracket_follows (h : Abreast cs cs') {s : CharSet} {depth : Nat}
    (hread : readBracket f cs = some (s, depth, rest)) :
    ∃ rest', readBracket f cs' = some (s, depth, rest') ∧ Abreast rest rest' := by
  obtain ⟨hstart, hrest⟩ := bracketStart_abreast (f := f) h
  have hlength := h.length_le
  simp only [readBracket] at hread ⊢
  rw [hstart]
  exact readBrackets_follows (by omega) hrest hread

theorem readFlags_append {cs rest : List Char} {seen : List Char} {changes : List FlagChange} {mark : Char}
    (hread : readFlags seen cs = some (changes, mark, rest)) (more : List Char) :
    readFlags seen (cs ++ more) = some (changes, mark, rest ++ more) := by
  induction cs generalizing seen changes with
  | nil => simp [readFlags] at hread
  | cons c cs ih =>
    simp only [readFlags, List.cons_append] at hread ⊢
    split at hread
    · next hmark =>
      rw [if_pos hmark]
      split at hread
      · cases hread
      · next hminus =>
        obtain ⟨rfl, rfl, rfl⟩ := by simpa using hread
        rw [if_neg hminus]
    · next hmark =>
      rw [if_neg hmark]
      split at hread
      · cases hread
      · next hseen =>
        rw [if_neg hseen]
        split at hread
        · next hminus =>
          rw [if_pos hminus]
          exact ih hread
        · next hminus =>
          rw [if_neg hminus]
          split at hread
          · next hflag =>
            rw [if_pos hflag]
            obtain ⟨⟨changes, mark, rest⟩, hbehind, hread⟩ := Option.map_eq_some_iff.mp hread
            obtain ⟨rfl, rfl, rfl⟩ := by simpa using hread
            simp [ih hbehind]
          · cases hread

theorem readFlags_follows (h : Abreast cs cs') {changes : List FlagChange} {mark : Char}
    (hread : readFlags [] cs = some (changes, mark, rest)) :
    ∃ rest', readFlags [] cs' = some (changes, mark, rest') ∧ Abreast rest rest' := by
  cases h with
  | swallowed => cases hread
  | goesOn => exact ⟨rest ++ ending, readFlags_append hread ending, .goesOn rest⟩

namespace Item

theorem readName_follows (h : Abreast cs cs') : Follows (readName cs) (readName cs') := by
  cases h with
  | swallowed => exact follows_none
  | goesOn =>
    unfold readName
    rw [splitAt?_append (by decide)]
    rcases splitAt? ['>'] cs with _ | ⟨_ | ⟨c, name⟩, behind⟩
    · exact follows_none
    · exact follows_none
    · simp only [Option.map_some]
      split
      · exact (Abreast.goesOn behind).follows (c :: name)
      · exact follows_none

theorem skipReluctance_abreast (h : Abreast cs cs') : Abreast (skipReluctance cs) (skipReluctance cs') := by
  rcases h.next (c := '?') (by decide) with ⟨rest, rest', rfl, rfl, hrest⟩ | ⟨hs, hs'⟩
  · exact hrest
  · simp only [skipReluctance]
    exact h

theorem readBound_follows (h : Abreast cs cs') : Follows (readBound f cs) (readBound f cs') := by
  obtain ⟨hdigits, hrest⟩ :=
    readWhile_abreast (f := f) (p := Char.isDigit) rfl (Nat.le_refl _) (Nat.le_refl _) h.dropBlanks
  rw [← readDigits_eq_readWhile, ← readDigits_eq_readWhile] at hdigits hrest
  simp only [readBound, hdigits]
  split
  · exact follows_none
  · exact hrest.dropBlanks.skip.follows _

/-- The end of a repetition with bounds. -/
def closeBounds (f : Flags) (item : Item) : List Char → Option (Item × List Char)
  | '\x7d' :: rest => some (item, skipReluctance (f.skip rest))
  | _ => none

theorem closeBounds_follows (h : Abreast cs cs') (item : Item) :
    Follows (closeBounds f item cs) (closeBounds f item cs') := by
  rcases h.next (c := '\x7d') (by decide) with ⟨rest, rest', rfl, rfl, hrest⟩ | ⟨hs, hs'⟩
  · exact (skipReluctance_abreast hrest.skip).follows item
  · simp only [closeBounds]
    exact follows_none

theorem readBounds_follows (h : Abreast cs cs') : Follows (readBounds f cs) (readBounds f cs') := by
  refine (readBound_follows h.skip).bind fun least rest rest' hrest => ?_
  simp only
  rcases hrest.next (c := ',') (by decide) with ⟨behind, behind', rfl, rfl, hbehind⟩ | ⟨hs, hs'⟩
  · have hskip := hbehind.skip (f := f)
    simp only
    rcases hskip.next (c := '\x7d') (by decide) with ⟨tail, tail', hs, hs', htail⟩ | ⟨hs, hs'⟩
    · rw [hs, hs']
      exact (skipReluctance_abreast htail.skip).follows _
    · simp only
      refine (readBound_follows hskip).bind fun most rest rest' hrest => ?_
      simp only
      split
      · exact closeBounds_follows hrest _
      · exact follows_none
  · simp only
    exact closeBounds_follows hrest _

/-- Without a question mark a parenthesis opens a group without a name. -/
theorem readOpening_eq (hcs : ∀ rest, f.skip cs ≠ '?' :: rest) :
    readOpening f cs = some (opening none [], f.skip cs) := by
  unfold readOpening
  split
  case h_8 => rfl
  all_goals next hs => exact absurd hs (hcs _)

theorem readOpening_follows (h : Abreast cs cs') : Follows (readOpening f cs) (readOpening f cs') := by
  have hskip := h.skip (f := f)
  intro item rest hread
  unfold readOpening at hread
  split at hread
  case h_5 tail hs =>
    rw [hs] at hskip
    obtain ⟨_, hs', hangle⟩ := hskip.cons_cons_inv
    obtain ⟨tail', rfl, htail⟩ := hangle.cons_inv
    simp only [readOpening, hs']
    exact (readName_follows htail).map (fun name => opening (some name) []) item rest hread
  case h_6 tail hequal hexclamation hs =>
    rw [hs] at hskip
    obtain ⟨tail', hs', htail⟩ := hskip.cons_cons_inv
    have hequal' := htail.not_cons (by decide) hequal
    have hexclamation' := htail.not_cons (by decide) hexclamation
    simp only [readOpening, hs']
    exact (readName_follows htail).map (fun name => opening (some name) []) item rest hread
  case h_7 tail hequal hexclamation _ _ hname hangle hs =>
    rw [hs] at hskip
    obtain ⟨tail', hs', htail⟩ := hskip.cons_inv
    -- none of the marks that may follow the question mark is the end of the group
    have hequal' := htail.not_cons (by decide) hequal
    have hexclamation' := htail.not_cons (by decide) hexclamation
    have hname' := htail.not_cons_cons (by decide) (by decide) hname
    have hangle' := htail.not_cons (by decide) hangle
    have hbehind' := fun rest => hangle' ('=' :: rest)
    have hbefore' := fun rest => hangle' ('!' :: rest)
    simp only [readOpening, hs']
    rcases hflags : readFlags [] tail with _ | ⟨changes, mark, behind⟩
    · rw [hflags] at hread
      cases hread
    · rw [hflags] at hread
      obtain ⟨behind', hflags', hbehind⟩ := readFlags_follows htail hflags
      simp only [hflags']
      by_cases hcolon : mark = ':'
      · subst hcolon
        exact hbehind.follows _ item rest hread
      · rcases changes with _ | ⟨change, changes⟩
        · split at hread <;> simp_all
        · simp only at hread ⊢
          exact hbehind.follows _ item rest hread
  case h_8 _ _ _ _ _ _ hquestion =>
    rw [readOpening_eq (hskip.not_cons (by decide) hquestion)]
    exact hskip.follows (opening none []) item rest hread
  all_goals cases hread

theorem read_follows (h : Abreast cs cs') : Follows (read f cs) (read f cs') := by
  rcases cs with _ | ⟨c, cs⟩
  · exact follows_none
  obtain ⟨rest', rfl, hrest⟩ := h.cons_inv
  simp only [read]
  split
  case h_1 => exact readOpening_follows hrest
  case h_4 | h_5 | h_6 => exact (skipReluctance_abreast hrest).follows _
  case h_7 => exact readBounds_follows hrest
  case h_8 =>
    intro item rest hread
    obtain ⟨⟨s, depth, behind⟩, hbracket, hread⟩ := Option.map_eq_some_iff.mp hread
    obtain ⟨behind', hbracket', hbehind⟩ := readBracket_follows hrest hbracket
    rw [hbracket', Option.map_some]
    exact hbehind.follows _ item rest (congrArg some hread)
  case h_9 | h_10 | h_11 | h_13 => exact hrest.follows_map _ (regex · 0)
  case h_12 =>
    intro item rest hread
    rcases hescape : readEscape f cs with _ | ⟨p, behind⟩
    · simp [hescape] at hread
    · obtain ⟨behind', hescape', hbehind⟩ := readEscape_follows hrest p behind hescape
      rw [hescape] at hread
      rw [hescape']
      cases p with
      | literal c byte => exact hbehind.follows_map (literal f c byte) (regex · 0) item rest hread
      | set s => exact hbehind.follows _ item rest hread
      | anchor a => exact hbehind.follows _ item rest hread
  all_goals exact hrest.follows _

end Item

end Weaving.Regex
