import Weaving.Expression.Lexer
import Weaving.Proofs.TextSplitting

namespace Weaving

namespace Text

def blankCodes : List Nat :=
  [9, 10, 11, 12, 13, 0x20, 0x85, 0xA0, 0x1680, 0x2000, 0x2001, 0x2002, 0x2003, 0x2004, 0x2005,
    0x2006, 0x2007, 0x2008, 0x2009, 0x200A, 0x2028, 0x2029, 0x202F, 0x205F, 0x3000]

theorem toNat_mem_blankCodes {c : Char} (h : isBlank c = true) : c.toNat ∈ blankCodes := by
  simp only [isBlank, Bool.or_eq_true, Bool.and_eq_true, decide_eq_true_eq, beq_iff_eq] at h
  simp only [blankCodes, List.mem_cons, List.not_mem_nil, or_false]
  omega

/-- No blank is a letter or a number: the tables do not overlap. -/
theorem isLetterOrNumber_of_isBlank {c : Char} (h : isBlank c = true) : isLetterOrNumber c = false := by
  have hcodes : ∀ n ∈ blankCodes, isLetterOrNumber (Char.ofNat n) = false := by decide +kernel
  simpa only [Char.ofNat_toNat] using hcodes c.toNat (toNat_mem_blankCodes h)

theorem trimBlanks_trimBlanks (s : List Char) : trimBlanks (trimBlanks s) = trimBlanks s := by
  -- A text that begins with no blank keeps its beginning when blanks are dropped at its end.
  have hfront : (trimBlanks s).dropWhile isBlank = trimBlanks s := by
    rw [List.dropWhile_eq_self_iff]
    intro hpos
    have hshort : trimBlanks s <+: s.dropWhile isBlank := List.rdropWhile_prefix isBlank _
    have hfirst := List.dropWhile_get_zero_not isBlank s (hpos.trans_le hshort.length_le)
    rwa [hshort.getElem hpos]
  rw [trimBlanks_eq_rdropWhile (trimBlanks s), hfront]
  exact List.rdropWhile_idempotent isBlank _

end Text

namespace Token

theorem continuesWord_of_isBlank {c : Char} (h : Text.isBlank c = true) : continuesWord c = false := by
  have hletter := Text.isLetterOrNumber_of_isBlank h
  have hline : c ≠ '_' := by rintro rfl; exact absurd h (by decide)
  have hdot : c ≠ '.' := by rintro rfl; exact absurd h (by decide)
  simp [continuesWord, hletter, hline, hdot]

theorem continuesWord_of_startsWord {c : Char} (h : startsWord c = true) : continuesWord c = true := by
  simp only [startsWord, Bool.or_eq_true] at h
  rcases h with h | h <;> simp [continuesWord, Text.isLetterOrNumber, h]

theorem not_isBlank_of_startsWord {c : Char} (h : startsWord c = true) : Text.isBlank c = false := by
  have hword := continuesWord_of_startsWord h
  cases hblank : Text.isBlank c with
  | false => rfl
  | true => exact hword.symm.trans (continuesWord_of_isBlank hblank)

theorem start_of_isBlank {c : Char} (h : Text.isBlank c = true) : start c = .ok (.between, []) :=
  if_pos h

theorem start_of_startsWord {c : Char} (h : startsWord c = true) : start c = .ok (.word [c], []) := by
  have hne : ∀ d, startsWord d = false → c ≠ d := by
    rintro d hd rfl
    exact Bool.false_ne_true (hd.symm.trans h)
  have hopen := hne '(' (by decide +kernel)
  have hclose := hne ')' (by decide +kernel)
  have hand := hne '&' (by decide +kernel)
  have hor := hne '|' (by decide +kernel)
  have hnot := hne '!' (by decide +kernel)
  unfold start
  rw [not_isBlank_of_startsWord h, if_neg Bool.false_ne_true]
  simp only [h, if_true]

/-- A name before an opening parenthesis, or an operator. -/
def IsWord (word : List Char) : Prop :=
  ∃ c rest, word = c :: rest ∧ startsWord c = true ∧ ∀ d ∈ rest, continuesWord d = true

inductive Balanced : List Char → Prop
  | nil : Balanced []
  | char {c : Char} {rest : List Char} (hopen : c ≠ '(') (hclose : c ≠ ')') (h : Balanced rest) :
      Balanced (c :: rest)
  | group {inner rest : List Char} (hinner : Balanced inner) (h : Balanced rest) :
      Balanced ('(' :: inner ++ ')' :: rest)

theorem Balanced.of_cons {c : Char} {rest : List Char} (hopen : c ≠ '(') (h : Balanced (c :: rest)) :
    Balanced rest := by
  generalize hread : c :: rest = read at h
  cases h with
  | nil => cases hread
  | char _ _ h =>
      cases hread
      exact h
  | group => exact absurd (List.cons.inj hread).1 hopen

theorem Balanced.of_concat {c : Char} {front : List Char} (hclose : c ≠ ')')
    (h : Balanced (front ++ [c])) : Balanced front := by
  generalize hread : front ++ [c] = read at h
  induction h generalizing front with
  | nil => exact absurd hread (List.append_ne_nil_of_right_ne_nil _ (List.cons_ne_nil _ _))
  | @char d rest hopen hclose _ ih =>
      cases front with
      | nil => exact .nil
      | cons e front =>
          obtain ⟨rfl, hrest⟩ := List.cons.inj hread
          exact .char hopen hclose (ih hrest)
  | @group inner rest hinner h _ ih =>
      rcases List.eq_nil_or_concat' rest with rfl | ⟨front', d, rfl⟩
      · have hlast := congrArg List.getLast? hread
        rw [List.getLast?_concat, List.getLast?_concat] at hlast
        exact absurd (Option.some.inj hlast) hclose
      · rw [← List.cons_append, ← List.append_assoc] at hread
        obtain ⟨rfl, hd⟩ := List.append_inj' hread rfl
        exact .group hinner (ih (by rw [hd]))

theorem not_paren_of_isBlank {c : Char} (h : Text.isBlank c = true) : c ≠ '(' ∧ c ≠ ')' := by
  constructor
  · rintro rfl; exact absurd h (by decide)
  · rintro rfl; exact absurd h (by decide)

theorem Balanced.trimBlanks {body : List Char} (h : Balanced body) : Balanced (Text.trimBlanks body) := by
  have hfront : ∀ s, Balanced s → Balanced (s.dropWhile Text.isBlank) := by
    intro s hs
    induction s with
    | nil => exact hs
    | cons c rest ih =>
        by_cases hc : Text.isBlank c = true
        · rw [List.dropWhile_cons_of_pos hc]
          exact ih (hs.of_cons (not_paren_of_isBlank hc).1)
        · rwa [List.dropWhile_cons_of_neg hc]
  have hback : ∀ s, Balanced s → Balanced (s.rdropWhile Text.isBlank) := by
    intro s hs
    induction s using List.reverseRecOn with
    | nil => exact hs
    | append_singleton front c ih =>
        by_cases hc : Text.isBlank c = true
        · rw [List.rdropWhile_concat_pos _ _ _ hc]
          exact ih (hs.of_concat (not_paren_of_isBlank hc).2)
        · rwa [List.rdropWhile_concat_neg _ _ _ hc]
  exact hback _ (hfront body h)

/-- A body that a call keeps as it is. -/
def IsBody (body : List Char) : Prop := Balanced body ∧ Text.trimBlanks body = body

theorem isBody_trimBlanks {body : List Char} (h : Balanced body) : IsBody (Text.trimBlanks body) :=
  ⟨h.trimBlanks, Text.trimBlanks_trimBlanks body⟩

/-- The texts in which a list of tokens is spelled. The words `and`, `or` and `not` end where no
character continues them, and a call keeps the text between its parentheses without the blanks at
its ends. -/
inductive Spelled : List Token → List Char → Prop
  | nil : Spelled [] []
  | blank {c : Char} {ts cs} (hc : Text.isBlank c = true) (h : Spelled ts cs) : Spelled ts (c :: cs)
  | opened {ts cs} (h : Spelled ts cs) : Spelled (.open :: ts) ('(' :: cs)
  | closed {ts cs} (h : Spelled ts cs) : Spelled (.close :: ts) (')' :: cs)
  | not {ts cs} (h : Spelled ts cs) : Spelled (.not :: ts) ('!' :: cs)
  | and {ts cs} (h : Spelled ts cs) : Spelled (.and :: ts) ('&' :: '&' :: cs)
  | or {ts cs} (h : Spelled ts cs) : Spelled (.or :: ts) ('|' :: '|' :: cs)
  | word {word token ts cs} (hword : ofWord? (String.ofList word) = some token)
      (hend : ∀ c ∈ cs.head?, continuesWord c = false) (h : Spelled ts cs) :
      Spelled (token :: ts) (word ++ cs)
  | call {name blanks body ts cs} (hname : IsWord name) (hcall : ofWord? (String.ofList name) = none)
      (hblanks : ∀ c ∈ blanks, Text.isBlank c = true) (hbody : Balanced body) (h : Spelled ts cs) :
      Spelled (.call (String.ofList name) (String.ofList (Text.trimBlanks body)) :: ts)
        (name ++ blanks ++ '(' :: body ++ ')' :: cs)

section Reading

variable {s next : LexState} {c : Char} {cs pre : List Char} {done ts : List Token}

theorem scanFrom_cons (hstep : step s c = .ok (next, done)) (h : scanFrom next cs = .ok ts) :
    scanFrom s (c :: cs) = .ok (done ++ ts) := by
  simp [scanFrom, hstep, h, bind, Except.bind]

theorem scanFrom_token {token : Token} (hstep : step s c = .ok (.between, [token]))
    (h : scanFrom .between cs = .ok ts) : scanFrom s (c :: cs) = .ok (token :: ts) :=
  scanFrom_cons hstep h

theorem scanFrom_cons_silent (hstep : step s c = .ok (next, [])) :
    scanFrom s (c :: cs) = scanFrom next cs := by
  cases h : scanFrom next cs <;> simp [scanFrom, hstep, h, bind, Except.bind]

theorem scanFrom_cons_eq_ok (h : scanFrom s (c :: cs) = .ok ts) :
    ∃ next done later, step s c = .ok (next, done) ∧ scanFrom next cs = .ok later ∧
      ts = done ++ later := by
  simp only [scanFrom, bind, Except.bind] at h
  split at h
  · cases h
  · next r hstep =>
      split at h
      · cases h
      · next later hlater => exact ⟨r.1, r.2, later, hstep, hlater, by cases h; rfl⟩

theorem scanFrom_word {reversed word : List Char} (hword : ∀ d ∈ word, continuesWord d = true) :
    scanFrom (.word reversed) (word ++ cs) = scanFrom (.word (word.reverse ++ reversed)) cs := by
  induction word generalizing reversed with
  | nil => rfl
  | cons d word ih =>
      rw [List.forall_mem_cons] at hword
      have hstep : step (.word reversed) d = .ok (.word (d :: reversed), []) := by
        simp [step, hword.1]
      rw [List.cons_append, scanFrom_cons_silent hstep, ih hword.2]
      simp

theorem scanFrom_isWord {word : List Char} (hword : IsWord word) :
    scanFrom .between (word ++ cs) = scanFrom (.word word.reverse) cs := by
  obtain ⟨c, rest, rfl, hc, hrest⟩ := hword
  have hstep : step .between c = .ok (.word [c], []) := start_of_startsWord hc
  rw [List.cons_append, scanFrom_cons_silent hstep, scanFrom_word hrest, List.reverse_cons]

theorem scanFrom_operator {word : List Char} {token : Token}
    (hword : ofWord? (String.ofList word) = some token)
    (hend : ∀ c ∈ cs.head?, continuesWord c = false) (h : scanFrom .between cs = .ok ts) :
    scanFrom (.word word.reverse) cs = .ok (token :: ts) := by
  cases cs with
  | nil =>
      cases h
      simp [scanFrom, finish, hword]
  | cons c cs =>
      obtain ⟨next, done, later, hstart, hlater, rfl⟩ := scanFrom_cons_eq_ok h
      have hc : continuesWord c = false := hend c rfl
      have hstep : step (.word word.reverse) c = .ok (next, token :: done) := by
        have hstart : start c = .ok (next, done) := hstart
        simp [step, hc, hword, hstart, Except.map]
      exact scanFrom_cons hstep hlater

theorem scanFrom_name {name : List Char} (hname : ofWord? (String.ofList name) = none)
    (hc : continuesWord c = false) :
    scanFrom (.word name.reverse) (c :: cs) = scanFrom (.afterWord (String.ofList name)) (c :: cs) := by
  have hstep : step (.word name.reverse) c = step (.afterWord (String.ofList name)) c := by
    simp [step, hc, hname]
  simp only [scanFrom, hstep]

theorem scanFrom_blanks {name : String} {blanks : List Char}
    (hblanks : ∀ d ∈ blanks, Text.isBlank d = true) :
    scanFrom (.afterWord name) (blanks ++ cs) = scanFrom (.afterWord name) cs := by
  induction blanks with
  | nil => rfl
  | cons d blanks ih =>
      rw [List.forall_mem_cons] at hblanks
      have hstep : step (.afterWord name) d = .ok (.afterWord name, []) := by
        simp [step, open?, hblanks.1]
      rw [List.cons_append, scanFrom_cons_silent hstep, ih hblanks.2]

theorem scanFrom_balanced {name : String} {depth : Nat} {reversed body : List Char}
    (hbody : Balanced body) :
    scanFrom (.body name depth reversed) (body ++ cs) =
      scanFrom (.body name depth (body.reverse ++ reversed)) cs := by
  induction hbody generalizing depth reversed cs with
  | nil => rfl
  | @char d rest hopen hclose _ ih =>
      have hstep : step (.body name depth reversed) d = .ok (.body name depth (d :: reversed), []) := by
        simp [step, hopen, hclose]
      rw [List.cons_append, scanFrom_cons_silent hstep, ih]
      simp
  | @group inner rest _ _ ihinner ih =>
      have hopen : step (.body name depth reversed) '(' =
          .ok (.body name (depth + 1) ('(' :: reversed), []) := by simp [step]
      have hclose : ∀ reversed, step (.body name (depth + 1) reversed) ')' =
          .ok (.body name depth (')' :: reversed), []) := by simp [step]
      rw [List.cons_append, List.cons_append, List.append_assoc, List.cons_append,
        scanFrom_cons_silent hopen, ihinner, scanFrom_cons_silent (hclose _), ih]
      simp

theorem scanFrom_call {name blanks body : List Char} (hcall : ofWord? (String.ofList name) = none)
    (hblanks : ∀ d ∈ blanks, Text.isBlank d = true) (hbody : Balanced body)
    (h : scanFrom .between cs = .ok ts) :
    scanFrom (.word name.reverse) (blanks ++ '(' :: body ++ ')' :: cs) =
      .ok (.call (String.ofList name) (String.ofList (Text.trimBlanks body)) :: ts) := by
  -- The character behind the name is a blank or the parenthesis, and neither continues a word.
  have hname : scanFrom (.word name.reverse) (blanks ++ '(' :: body ++ ')' :: cs) =
      scanFrom (.afterWord (String.ofList name)) (blanks ++ ('(' :: body ++ ')' :: cs)) := by
    rw [List.append_assoc]
    cases blanks with
    | nil => exact scanFrom_name hcall (by decide +kernel)
    | cons d blanks => exact scanFrom_name hcall (continuesWord_of_isBlank (hblanks d List.mem_cons_self))
  have hopen : step (.afterWord (String.ofList name)) '(' = .ok (.body (String.ofList name) 0 [], []) := by
    simp only [step, open?]
    rfl
  have hclose : step (.body (String.ofList name) 0 body.reverse) ')' =
      .ok (.between, [.call (String.ofList name) (String.ofList (Text.trimBlanks body))]) := by
    simp [step]
  rw [hname, scanFrom_blanks hblanks, List.cons_append, scanFrom_cons_silent hopen,
    scanFrom_balanced hbody, List.append_nil]
  exact scanFrom_cons hclose h

theorem isWord_of_ofWord? {word : List Char} {token : Token}
    (h : ofWord? (String.ofList word) = some token) : IsWord word := by
  have hspelled : word = "and".toList ∨ word = "or".toList ∨ word = "not".toList := by
    rw [← String.toList_ofList (l := word)]
    simp only [ofWord?] at h
    split at h
    · next heq => exact .inl (congrArg String.toList heq)
    · next heq => exact .inr (.inl (congrArg String.toList heq))
    · next heq => exact .inr (.inr (congrArg String.toList heq))
    · cases h
  rcases hspelled with rfl | rfl | rfl
  all_goals exact ⟨_, _, rfl, by decide +kernel, List.all_eq_true.1 (by decide +kernel)⟩

theorem scanFrom_of_spelled (h : Spelled ts cs) : scanFrom .between cs = .ok ts := by
  induction h with
  | nil => rfl
  | @blank c _ _ hc _ ih =>
      have hstep : step .between c = .ok (.between, []) := start_of_isBlank hc
      rw [scanFrom_cons_silent hstep, ih]
  | opened _ ih | closed _ ih | not _ ih => exact scanFrom_token rfl ih
  | and _ ih =>
      have hstep : step .between '&' = .ok (.ampersand, []) := rfl
      exact (scanFrom_cons_silent hstep).trans (scanFrom_token rfl ih)
  | or _ ih =>
      have hstep : step .between '|' = .ok (.bar, []) := rfl
      exact (scanFrom_cons_silent hstep).trans (scanFrom_token rfl ih)
  | word hword hend _ ih =>
      rw [scanFrom_isWord (isWord_of_ofWord? hword)]
      exact scanFrom_operator hword hend ih
  | call hname hcall hblanks hbody _ ih =>
      rw [List.append_assoc, List.append_assoc, scanFrom_isWord hname, ← List.append_assoc]
      exact scanFrom_call hcall hblanks hbody ih

end Reading

theorem Balanced.append {a b : List Char} (ha : Balanced a) (hb : Balanced b) : Balanced (a ++ b) := by
  induction ha with
  | nil => exact hb
  | char hopen hclose _ ih => exact .char hopen hclose ih
  | group hinner _ _ ih =>
      rw [List.append_assoc, List.cons_append]
      exact .group hinner ih

/-- The characters behind a parenthesis that is still open, with so many more open behind it. -/
inductive Unclosed : Nat → List Char → Prop
  | balanced {read : List Char} (h : Balanced read) : Unclosed 0 read
  | deeper {depth : Nat} {outer inner : List Char} (houter : Unclosed depth outer)
      (hinner : Balanced inner) : Unclosed (depth + 1) (outer ++ '(' :: inner)

theorem Unclosed.append {depth : Nat} {read body : List Char} (h : Unclosed depth read)
    (hbody : Balanced body) : Unclosed depth (read ++ body) := by
  cases h with
  | balanced h => exact .balanced (h.append hbody)
  | deeper houter hinner =>
      rw [List.append_assoc, List.cons_append]
      exact .deeper houter (hinner.append hbody)

theorem Unclosed.close {depth : Nat} {read : List Char} (h : Unclosed (depth + 1) read) :
    Unclosed depth (read ++ [')']) := by
  cases h with
  | deeper houter hinner =>
      rw [List.append_assoc, List.cons_append]
      exact houter.append (.group hinner .nil)

/-- The characters that bring the reader from the end of a token to a state. -/
inductive Pending : LexState → List Char → Prop
  | between : Pending .between []
  | ampersand : Pending .ampersand ['&']
  | bar : Pending .bar ['|']
  | word {reversed : List Char} (h : IsWord reversed.reverse) :
      Pending (.word reversed) reversed.reverse
  | afterWord {name blanks : List Char} (hname : IsWord name)
      (hcall : ofWord? (String.ofList name) = none) (hblanks : ∀ c ∈ blanks, Text.isBlank c = true) :
      Pending (.afterWord (String.ofList name)) (name ++ blanks)
  | body {name blanks reversed : List Char} {depth : Nat} (hname : IsWord name)
      (hcall : ofWord? (String.ofList name) = none) (hblanks : ∀ c ∈ blanks, Text.isBlank c = true)
      (h : Unclosed depth reversed.reverse) :
      Pending (.body (String.ofList name) depth reversed) (name ++ blanks ++ '(' :: reversed.reverse)

/-- What has been read completes some tokens and leaves the reader in a state. -/
def Completes (read : List Char) (next : LexState) (done : List Token) : Prop :=
  ∃ left, Pending next left ∧ ∀ ts cs, Spelled ts (left ++ cs) → Spelled (done ++ ts) (read ++ cs)

theorem Completes.silent {read : List Char} {next : LexState} (h : Pending next read) :
    Completes read next [] := ⟨read, h, fun _ _ h => h⟩

theorem completes_start {c : Char} {next : LexState} {done : List Token}
    (h : start c = .ok (next, done)) : Completes [c] next done := by
  unfold start at h
  split at h
  · next hblank =>
      cases h
      exact ⟨[], .between, fun ts cs h => .blank hblank h⟩
  · split at h
    · cases h; exact ⟨[], .between, fun _ _ h => .opened h⟩
    · cases h; exact ⟨[], .between, fun _ _ h => .closed h⟩
    · cases h; exact .silent .ampersand
    · cases h; exact .silent .bar
    · cases h; exact ⟨[], .between, fun _ _ h => .not h⟩
    · split at h
      · next hc =>
          cases h
          exact .silent (.word ⟨c, [], rfl, hc, nofun⟩)
      · cases h

theorem completes_open? {name blanks : List Char} {c : Char} {next : LexState} {done : List Token}
    (hname : IsWord name) (hcall : ofWord? (String.ofList name) = none)
    (hblanks : ∀ d ∈ blanks, Text.isBlank d = true)
    (h : open? (String.ofList name) c = .ok (next, done)) :
    Completes (name ++ blanks ++ [c]) next done := by
  unfold open? at h
  split at h
  · next hblank =>
      cases h
      rw [List.append_assoc]
      refine .silent (.afterWord hname hcall ?_)
      simpa [or_imp, forall_and] using ⟨hblanks, hblank⟩
  · split at h
    · next hc =>
        cases h
        subst hc
        exact .silent (.body hname hcall hblanks (.balanced .nil))
    · cases h

theorem completes_word {reversed : List Char} {c : Char} {next : LexState} {done : List Token}
    (hword : IsWord reversed.reverse) (h : step (.word reversed) c = .ok (next, done)) :
    Completes (reversed.reverse ++ [c]) next done := by
  simp only [step] at h
  split at h
  · next hc =>
      cases h
      have hlonger : IsWord (c :: reversed).reverse := by
        obtain ⟨d, rest, heq, hd, hrest⟩ := hword
        refine ⟨d, rest ++ [c], by rw [List.reverse_cons, heq, List.cons_append], hd, ?_⟩
        simpa [or_imp, forall_and] using ⟨hrest, hc⟩
      rw [← List.reverse_cons]
      exact .silent (.word hlonger)
  · next hc =>
      split at h
      · next token hoperator =>
          cases hstart : start c with
          | error e => rw [hstart] at h; cases h
          | ok r =>
              rw [hstart] at h
              cases h
              obtain ⟨left, hleft, hspelled⟩ := completes_start hstart
              refine ⟨left, hleft, fun ts cs hts => ?_⟩
              rw [List.append_assoc]
              refine .word hoperator ?_ (hspelled ts cs hts)
              simpa using hc
      · next hcall =>
          rw [← List.append_nil reversed.reverse]
          exact completes_open? hword hcall nofun h

theorem completes_body {name blanks reversed : List Char} {depth : Nat} {c : Char} {next : LexState}
    {done : List Token} (hname : IsWord name) (hcall : ofWord? (String.ofList name) = none)
    (hblanks : ∀ d ∈ blanks, Text.isBlank d = true) (hopen : Unclosed depth reversed.reverse)
    (h : step (.body (String.ofList name) depth reversed) c = .ok (next, done)) :
    Completes (name ++ blanks ++ '(' :: reversed.reverse ++ [c]) next done := by
  have hsnoc : name ++ blanks ++ '(' :: reversed.reverse ++ [c] =
      name ++ blanks ++ '(' :: (c :: reversed).reverse := by simp
  have hgoOn : ∀ depth', Unclosed depth' (reversed.reverse ++ [c]) →
      Completes (name ++ blanks ++ '(' :: reversed.reverse ++ [c])
        (.body (String.ofList name) depth' (c :: reversed)) [] := by
    intro depth' hunclosed
    rw [hsnoc]
    rw [← List.reverse_cons] at hunclosed
    exact .silent (.body hname hcall hblanks hunclosed)
  simp only [step] at h
  split at h
  · next hc =>
      cases h
      subst hc
      exact hgoOn _ (.deeper hopen .nil)
  · next hne =>
      split at h
      · next hc =>
          subst hc
          cases depth with
          | zero =>
              cases h
              cases hopen with
              | balanced hbody =>
                  refine ⟨[], .between, fun ts cs hts => ?_⟩
                  simpa using Spelled.call hname hcall hblanks hbody hts
          | succ depth =>
              cases h
              exact hgoOn _ hopen.close
      · next hclose =>
          cases h
          exact hgoOn _ (hopen.append (.char hne hclose .nil))

theorem completes_step {s next : LexState} {c : Char} {read : List Char} {done : List Token}
    (hread : Pending s read) (h : step s c = .ok (next, done)) : Completes (read ++ [c]) next done := by
  cases hread with
  | between => exact completes_start h
  | ampersand =>
      simp only [step] at h
      split at h
      · next hc =>
          cases h
          subst hc
          exact ⟨[], .between, fun _ _ h => .and h⟩
      · cases h
  | bar =>
      simp only [step] at h
      split at h
      · next hc =>
          cases h
          subst hc
          exact ⟨[], .between, fun _ _ h => .or h⟩
      · cases h
  | word hword => exact completes_word hword h
  | afterWord hname hcall hblanks => exact completes_open? hname hcall hblanks h
  | body hname hcall hblanks hopen => exact completes_body hname hcall hblanks hopen h

theorem spelled_of_finish {s : LexState} {read : List Char} {ts : List Token}
    (hread : Pending s read) (h : finish s = .ok ts) : Spelled ts read := by
  cases hread with
  | between => cases h; exact .nil
  | ampersand | bar | afterWord | body => cases h
  | @word reversed hword =>
      simp only [finish] at h
      split at h
      · next token hoperator =>
          cases h
          rw [← List.append_nil reversed.reverse]
          exact .word hoperator nofun .nil
      · cases h

theorem spelled_of_scanFrom {s : LexState} {read cs : List Char} {ts : List Token}
    (hread : Pending s read) (h : scanFrom s cs = .ok ts) : Spelled ts (read ++ cs) := by
  induction cs generalizing s read ts with
  | nil =>
      rw [List.append_nil]
      exact spelled_of_finish hread h
  | cons c cs ih =>
      obtain ⟨next, done, later, hstep, hlater, rfl⟩ := scanFrom_cons_eq_ok h
      obtain ⟨left, hleft, hspelled⟩ := completes_step hread hstep
      rw [← List.singleton_append, ← List.append_assoc]
      exact hspelled later cs (ih hleft hlater)

/-- Whether a token has a spelling. -/
def IsSpellable : Token → Prop
  | .call name body => IsWord name.toList ∧ ofWord? name = none ∧ IsBody body.toList
  | _ => True

theorem Spelled.isSpellable {ts : List Token} {cs : List Char} (h : Spelled ts cs) :
    ∀ token ∈ ts, token.IsSpellable := by
  induction h with
  | nil => nofun
  | blank _ _ ih => exact ih
  | opened _ ih | closed _ ih | not _ ih | and _ ih | or _ ih =>
      exact List.forall_mem_cons.2 ⟨trivial, ih⟩
  | @word word token ts cs hword _ _ ih =>
      refine List.forall_mem_cons.2 ⟨?_, ih⟩
      simp only [ofWord?] at hword
      split at hword <;> cases hword <;> trivial
  | call hname hcall _ hbody _ ih =>
      refine List.forall_mem_cons.2 ⟨⟨?_, hcall, ?_⟩, ih⟩
      · rwa [String.toList_ofList]
      · rw [String.toList_ofList]
        exact isBody_trimBlanks hbody

theorem exists_spelled {ts : List Token} (h : ∀ token ∈ ts, token.IsSpellable) : ∃ cs, Spelled ts cs := by
  induction ts with
  | nil => exact ⟨[], .nil⟩
  | cons token ts ih =>
      rw [List.forall_mem_cons] at h
      obtain ⟨cs, hcs⟩ := ih h.2
      cases token with
      | «open» => exact ⟨_, .opened hcs⟩
      | close => exact ⟨_, .closed hcs⟩
      | and => exact ⟨_, .and hcs⟩
      | or => exact ⟨_, .or hcs⟩
      | not => exact ⟨_, .not hcs⟩
      | call name body =>
          obtain ⟨hname, hcall, hbalanced, htrim⟩ := h.1
          have hcall' : ofWord? (String.ofList name.toList) = none := by rwa [String.ofList_toList]
          have := Spelled.call hname hcall' (nofun : ∀ c ∈ [], _) hbalanced hcs
          rw [htrim, String.ofList_toList, String.ofList_toList] at this
          exact ⟨_, this⟩

/-- A text has the tokens that it spells. -/
theorem scan_eq_ok_iff {text : String} {ts : List Token} :
    scan text = .ok ts ↔ Spelled ts text.toList :=
  ⟨fun h => spelled_of_scanFrom .between h, scanFrom_of_spelled⟩

example : scan "nota(x)or b ( y )" = .ok [.call "nota" "x", .or, .call "b" "y"] := by decide +kernel

end Token

end Weaving
