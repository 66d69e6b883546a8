import Weaving.Expression.Identifier
import Weaving.Proofs.NamedReferences

namespace Weaving

namespace ArgPattern

/-- The variable that an element reads as. -/
def variableName? : ArgPattern → Option String
  | named pattern => if isVariable pattern.text then some pattern.text else none
  | _ => none

theorem variableName?_eq_some_iff {pattern : ArgPattern} {name : String} :
    pattern.variableName? = some name ↔ pattern = named ⟨name⟩ ∧ isVariable name = true := by
  cases pattern with
  | any | ellipsis => simp [variableName?]
  | named pattern =>
      obtain ⟨text⟩ := pattern
      simp only [variableName?, Option.ite_none_right_eq_some, Option.some.injEq, named.injEq, NamePattern.mk.injEq]
      constructor
      · rintro ⟨hvariable, rfl⟩
        exact ⟨rfl, hvariable⟩
      · rintro ⟨rfl, hvariable⟩
        exact ⟨hvariable, rfl⟩

theorem variableName?_ofText (text : String) :
    (ofText text).variableName? = if isVariable text then some text else none := by
  unfold ofText
  split
  · decide +kernel
  · decide +kernel
  · rfl

/-- The elements of a list that read as variables are those among the texts between its commas. -/
theorem filterMap_variableName?_of_parse {body : List Char} {patterns : List ArgPattern}
    (h : parse body = .ok patterns) : patterns.filterMap variableName? =
      ((Text.pieces ',' body).map fun piece => String.ofList (Text.trimBlanks piece)).filter isVariable := by
  have hguard : (fun text => (ofText text).variableName?) = Option.guard isVariable := by
    funext text
    rw [variableName?_ofText, Option.guard]
  have hlist : (ofList body).filterMap variableName? =
      ((Text.pieces ',' body).map fun piece => String.ofList (Text.trimBlanks piece)).filter isVariable := by
    rw [← List.filterMap_eq_filter, ← hguard, ofList, List.filterMap_map, List.filterMap_map]
    rfl
  simp only [parse] at h
  split at h
  · next hempty =>
      -- a text of blanks is one piece, and what is left of it is no variable
      cases h
      have hblank : ∀ c ∈ body, Text.isBlank c = true := by
        intro c hc
        by_contra hnot
        exact Text.trimBlanks_ne_nil hc (by simpa using hnot) (by simpa using hempty)
      have hcomma : ',' ∉ body := fun hmem => absurd (hblank ',' hmem) (by decide)
      rw [Text.pieces_of_not_mem hcomma, List.map_singleton, List.isEmpty_iff.1 hempty]
      decide
  · split at h
    · cases h
    · split at h
      · cases h
      · cases h
        exact hlist

end ArgPattern

namespace Expr

/-- The elements of the argument lists in a tree, from left to right. -/
def argPatterns : Expr → List ArgPattern
  | execution _ | within _ => []
  | .args _ patterns => patterns
  | and left right | or left right => left.argPatterns ++ right.argPatterns
  | not inner => inner.argPatterns

theorem argPatterns_of_isCall {name body : String} {e : Expr} (h : IsCall name body e) :
    (name ≠ "args" ∧ e.argPatterns = []) ∨
      (name = "args" ∧ ArgPattern.parse body.toList = .ok e.argPatterns) := by
  cases h with
  | execution | within => exact .inl ⟨by decide, rfl⟩
  | args h => exact .inr ⟨rfl, ArgPattern.parse_eq_ok_iff.2 h⟩

namespace Draft

/-- The tree that a draft is read as, and the elements of the argument lists that are written in the draft
itself, from left to right. A reference stands for the tree of its definition, whose lists are not
written in the draft. -/
inductive Reads (references : References) : Draft → Expr → List ArgPattern → Prop
  | designator {name body : String} {e : Expr} (h : IsCall name body e) :
      Reads references (.call name body) e e.argPatterns
  | reference {call body name definition : String} {e : Expr} (href : IsReference call body name)
      (hlookup : references.lookup name = some definition) (h : Expr.parse references definition = .ok e) :
      Reads references (.call call body) e []
  | not {d : Draft} {e : Expr} {patterns : List ArgPattern} (h : Reads references d e patterns) :
      Reads references (.not d) (.not e) patterns
  | and {dl dr : Draft} {l r : Expr} {front back : List ArgPattern} (hl : Reads references dl l front)
      (hr : Reads references dr r back) : Reads references (.and dl dr) (.and l r) (front ++ back)
  | or {dl dr : Draft} {l r : Expr} {front back : List ArgPattern} (hl : Reads references dl l front)
      (hr : Reads references dr r back) : Reads references (.or dl dr) (.or l r) (front ++ back)
  | parens {d : Draft} {e : Expr} {patterns : List ArgPattern} (h : Reads references d e patterns) :
      Reads references (.parens d) e patterns

variable {references : References} {level : Level} {ts : List Token} {d : Draft} {e : Expr}
  {patterns : List ArgPattern}

theorem fit_of_le {allowed actual : Level} (h : actual.rank ≤ allowed.rank) : fit allowed actual ts = ts :=
  if_pos h

/-- Tokens that form an expression are those of a draft. -/
theorem exists_reads (h : Derives (CallTree references fun definition e => Expr.parse references definition = .ok e)
    level ts e) : ∃ d patterns, d.tokens = ts ∧ d.level.rank ≤ level.rank ∧ Reads references d e patterns := by
  induction h with
  | call hcall =>
      rcases hcall with hcall | ⟨name, definition, href, hlookup, hparse⟩
      · exact ⟨_, _, rfl, Nat.le_refl _, .designator hcall⟩
      · exact ⟨_, _, rfl, Nat.le_refl _, .reference href hlookup hparse⟩
  | parens _ ih =>
      obtain ⟨d, patterns, rfl, -, hd⟩ := ih
      exact ⟨.parens d, patterns, rfl, Nat.le_refl _, .parens hd⟩
  | ofPrimary _ ih | ofUnary _ ih | ofConjunction _ ih =>
      obtain ⟨d, patterns, hts, hle, hd⟩ := ih
      exact ⟨d, patterns, hts, Nat.le_succ_of_le hle, hd⟩
  | not _ ih =>
      obtain ⟨d, patterns, rfl, hle, hd⟩ := ih
      exact ⟨.not d, patterns, by rw [tokens, fit_of_le hle], Nat.le_refl _, .not hd⟩
  | and _ _ ihl ihr =>
      obtain ⟨dl, front, rfl, hlel, hl⟩ := ihl
      obtain ⟨dr, back, rfl, hler, hr⟩ := ihr
      exact ⟨.and dl dr, _, by rw [tokens, fit_of_le hlel, fit_of_le hler], Nat.le_refl _, .and hl hr⟩
  | or _ _ ihl ihr =>
      obtain ⟨dl, front, rfl, hlel, hl⟩ := ihl
      obtain ⟨dr, back, rfl, hler, hr⟩ := ihr
      exact ⟨.or dl dr, _, by rw [tokens, fit_of_le hlel, fit_of_le hler], Nat.le_refl _, .or hl hr⟩

theorem argumentTexts_append (ts us : List Token) : argumentTexts (ts ++ us) = argumentTexts ts ++ argumentTexts us :=
  List.flatMap_append

theorem argumentTexts_cons {token : Token} (h : argumentTexts [token] = []) (ts : List Token) :
    argumentTexts (token :: ts) = argumentTexts ts := by
  rw [← List.singleton_append, argumentTexts_append, h, List.nil_append]

theorem argumentTexts_call {name : String} (h : name ≠ "args") (body : String) :
    argumentTexts [.call name body] = [] := by
  rw [argumentTexts, List.flatMap_singleton]
  split
  · next heq => cases heq; exact absurd rfl h
  · rfl

theorem argumentTexts_parens (ts : List Token) : argumentTexts (.open :: ts ++ [.close]) = argumentTexts ts := by
  rw [argumentTexts_append]
  exact List.append_nil _

theorem argumentTexts_fit (allowed actual : Level) (ts : List Token) :
    argumentTexts (fit allowed actual ts) = argumentTexts ts := by
  unfold fit
  split
  · rfl
  · exact argumentTexts_parens ts

/-- The variables among the tokens of a draft are the elements written in it that read as variables. -/
theorem Reads.filter_argumentTexts (h : Reads references d e patterns) :
    (argumentTexts d.tokens).filter isVariable = patterns.filterMap ArgPattern.variableName? := by
  induction h with
  | @designator name body e hcall =>
      rcases argPatterns_of_isCall hcall with ⟨hname, hnone⟩ | ⟨rfl, hparse⟩
      · rw [tokens, argumentTexts_call hname, hnone]
        rfl
      · rw [ArgPattern.filterMap_variableName?_of_parse hparse, tokens, argumentTexts, List.flatMap_singleton]
        rfl
  | @reference call body _ _ _ href =>
      have hname : call ≠ "args" := by
        rintro rfl
        cases href.1
      rw [tokens, argumentTexts_call hname]
      rfl
  | @not d _ _ _ ih => rw [← ih, tokens, argumentTexts_cons rfl, argumentTexts_fit]
  | and _ _ ihl ihr | or _ _ ihl ihr =>
      rw [List.filterMap_append, ← ihl, ← ihr, ← List.filter_append, tokens, argumentTexts_append,
        argumentTexts_cons rfl, argumentTexts_fit, argumentTexts_fit]
  | parens _ ih => rw [tokens, argumentTexts_parens, ih]

/-- Without references all the lists of the tree are written in the draft. -/
theorem Reads.eq_argPatterns (h : Reads [] d e patterns) : patterns = e.argPatterns := by
  induction h with
  | designator => rfl
  | reference _ hlookup => cases hlookup
  | not _ ih | parens _ ih => exact ih
  | and _ _ ihl ihr | or _ _ ihl ihr => rw [ihl, ihr, argPatterns]

end Draft

end Expr

theorem isVariable_iff {name : String} : isVariable name = true ↔
    (∃ c ∈ name.toList.head?, Text.isLowerLetter c = true) ∧ isIdentifier name.toList = true ∧
      name ∉ primitiveTypeNames := by
  simp [isVariable, isPrimitiveTypeName, Option.any_eq_true, and_assoc]

theorem Expr.exists_draft_of_parse {references : References} {text : String} {t : Expr}
    (h : parse references text = .ok t) :
    ∃ d patterns, Token.scan text = .ok d.tokens ∧ Draft.Reads references d t patterns := by
  obtain ⟨depth, hunfolds⟩ := parse_eq_ok_iff_unfolds.1 h
  cases depth with
  | zero => exact hunfolds.elim
  | succ depth =>
      obtain ⟨ts, hscan, hd⟩ := hunfolds
      obtain ⟨d, patterns, rfl, -, hreads⟩ := Draft.exists_reads (hd.mono fun _ _ _ _ hcall =>
        hcall.imp_right fun ⟨name, definition, href, hlookup, htree⟩ =>
          ⟨name, definition, href, hlookup, parse_eq_ok_iff_unfolds.2 ⟨depth, htree⟩⟩)
      exact ⟨d, patterns, hscan, hreads⟩

/-- A text that is read, with whatever references, has a syntax tree, and the variables that it binds are those
elements of the argument lists written in this tree, without the ones that its references stand for, that
begin with a small letter, are identifiers and name no primitive type. Each is listed once, in the order in
which they first stand in the tree from left to right. Without references the tree has no other lists. -/
theorem bindingVariables_of_parse (references : Expr.References) (text : String) (p : ExpressionPointcut)
    (h : ExpressionPointcut.parse references text = .ok p) :
    (∃ d patterns, Token.scan text = .ok d.tokens ∧ Expr.Draft.Reads references d p.root patterns) ∧
    ∀ d patterns, Token.scan text = .ok d.tokens → Expr.Draft.Reads references d p.root patterns →
      ((bindingVariables text).Pairwise fun v w =>
        patterns.idxOf (.named ⟨v⟩) < patterns.idxOf (.named ⟨w⟩)) ∧
      (∀ v, v ∈ bindingVariables text ↔ .named ⟨v⟩ ∈ patterns ∧
        (∃ c ∈ v.toList.head?, Text.isLowerLetter c = true) ∧ isIdentifier v.toList = true ∧
          v ∉ primitiveTypeNames) ∧
      (references = [] → patterns = p.root.argPatterns) := by
  refine ⟨Expr.exists_draft_of_parse (ExpressionPointcut.parse_root_iff.1 ⟨p, h, rfl⟩), ?_⟩
  intro d patterns hscan hreads
  have hvariables : bindingVariables text = (patterns.filterMap ArgPattern.variableName?).eraseDups := by
    rw [bindingVariables, hscan, ← hreads.filter_argumentTexts]
  rw [hvariables]
  refine ⟨?_, fun v => ?_, ?_⟩
  · have hplace : ∀ pattern v, pattern.variableName? = some v → ArgPattern.named ⟨v⟩ = pattern :=
      fun _ _ heq => (ArgPattern.variableName?_eq_some_iff.1 heq).1.symm
    exact pairwise_idxOf_eraseDups hplace patterns
  · rw [List.mem_eraseDups, List.mem_filterMap, ← isVariable_iff]
    constructor
    · rintro ⟨pattern, hmem, heq⟩
      obtain ⟨rfl, hvariable⟩ := ArgPattern.variableName?_eq_some_iff.1 heq
      exact ⟨hmem, hvariable⟩
    · rintro ⟨hmem, hvariable⟩
      exact ⟨_, hmem, ArgPattern.variableName?_eq_some_iff.2 ⟨rfl, hvariable⟩⟩
  · rintro rfl
    exact hreads.eq_argPatterns

/-- The list behind the reference is not looked at, and `a` stands in two of the others. -/
theorem bindingVariables_beside_reference :
    let references : Expr.References := [("ids", "args(id, count)")]
    let text := "!(ids() and args(b, Order, a)) || args(a, .., u32)"
    let d : Expr.Draft := .or (.not (.parens (.and (.call "ids" "") (.call "args" "b, Order, a"))))
      (.call "args" "a, .., u32")
    let patterns : List ArgPattern :=
      [.named ⟨"b"⟩, .named ⟨"Order"⟩, .named ⟨"a"⟩, .named ⟨"a"⟩, .ellipsis, .named ⟨"u32"⟩]
    ∃ p, ExpressionPointcut.parse references text = .ok p ∧ Token.scan text = .ok d.tokens ∧
      Expr.Draft.Reads references d p.root patterns ∧
      ((bindingVariables text).Pairwise fun v w =>
        patterns.idxOf (.named ⟨v⟩) < patterns.idxOf (.named ⟨w⟩)) ∧
      ∀ v, v ∈ bindingVariables text ↔ v = "b" ∨ v = "a" := by
  intro references text d patterns
  have hok {definition : String} {t : Expr} (h : (Expr.parse references definition).toOption = some t) :
      Expr.parse references definition = .ok t := by
    cases hparse : Expr.parse references definition with
    | error => rw [hparse] at h; cases h
    | ok t' => rw [hparse] at h; cases h; rfl
  let ids : Expr := .args "id, count" [.named ⟨"id"⟩, .named ⟨"count"⟩]
  let first : Expr := .args "b, Order, a" [.named ⟨"b"⟩, .named ⟨"Order"⟩, .named ⟨"a"⟩]
  let second : Expr := .args "a, .., u32" [.named ⟨"a"⟩, .ellipsis, .named ⟨"u32"⟩]
  have hids : Expr.parse references "args(id, count)" = .ok ids := hok (by decide +kernel)
  have hroot : Expr.parse references text = .ok (.or (.not (.and ids first)) second) := hok (by decide +kernel)
  have hscan : Token.scan text = .ok d.tokens := by decide +kernel
  obtain ⟨p, hp, hproot⟩ := ExpressionPointcut.parse_root_iff.2 hroot
  have hreads : Expr.Draft.Reads references d p.root patterns := by
    rw [hproot]
    have hreference : Expr.IsReference "ids" "" "ids" := ⟨rfl, rfl, by decide +kernel⟩
    have hfirst : Expr.IsCall "args" "b, Order, a" first := Expr.isCall_iff.2 rfl
    have hsecond : Expr.IsCall "args" "a, .., u32" second := Expr.isCall_iff.2 rfl
    exact .or (.not (.parens (.and (.reference hreference rfl hids) (.designator hfirst))))
      (.designator hsecond)
  obtain ⟨hordered, hmem, -⟩ := (bindingVariables_of_parse references text p hp).2 d patterns hscan hreads
  refine ⟨p, hp, hscan, hreads, hordered, fun v => ?_⟩
  rw [hmem, ← isVariable_iff]
  constructor
  · rintro ⟨hv, hvariable⟩
    have hcases : v = "b" ∨ v = "Order" ∨ v = "a" ∨ v = "u32" := by simpa [patterns] using hv
    rcases hcases with rfl | rfl | rfl | rfl
    · exact .inl rfl
    · exact absurd hvariable (by decide +kernel)
    · exact .inr rfl
    · exact absurd hvariable (by decide +kernel)
  · rintro (rfl | rfl)
    · exact ⟨by decide, by decide +kernel⟩
    · exact ⟨by decide, by decide +kernel⟩

end Weaving
