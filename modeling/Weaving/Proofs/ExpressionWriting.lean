import Weaving.Expression.ExpressionPointcut
import Weaving.Proofs.CallGrammar
import Weaving.Proofs.ExpressionGrammar
import Weaving.Proofs.TokenSpelling

namespace Weaving

namespace Expr

theorem name_of_isCall {name body : String} {e : Expr} (h : IsCall name body e) :
    name = "execution" ∨ name = "within" ∨ name = "args" := by
  cases h with
  | execution => exact .inl rfl
  | within => exact .inr (.inl rfl)
  | args => exact .inr (.inr rfl)

/-- Without references, reading gives the trees that the grammar derives from the tokens. -/
theorem parse_eq_ok_iff {text : String} {t : Expr} :
    parse [] text = .ok t ↔ ∃ ts, Token.scan text = .ok ts ∧ Derives IsCall .disjunction ts t := by
  rw [parse, parseWithin]
  cases hscan : Token.scan text with
  | error e =>
      constructor
      · intro h
        cases h
      · rintro ⟨_, heq, -⟩
        cases heq
  | ok tokens =>
      refine Iff.trans (b := Derives IsCall .disjunction tokens t) (parseTokens_eq_ok_iff ?_) ?_
      · intro name body e
        rw [isCall_iff]
        cases designator? name body with
        | some result => exact Option.some_inj.symm
        | none => by_cases hbody : body.isEmpty = true <;> simp [hbody]
      · simp only [Except.ok.injEq, exists_eq_left']

/-- How a tree is written out: its calls and operators, and the parentheses beyond those that the
precedence of the operators asks for. -/
inductive Draft where
  | call (name body : String)
  | not (inner : Draft)
  | and (left right : Draft)
  | or (left right : Draft)
  | parens (inner : Draft)

namespace Draft

def level : Draft → Level
  | call _ _ | parens _ => .primary
  | not _ => .unary
  | and _ _ => .conjunction
  | or _ _ => .disjunction

/-- Puts tokens into parentheses if what they stand for is looser than it may be. -/
def fit (allowed actual : Level) (ts : List Token) : List Token :=
  if actual.rank ≤ allowed.rank then ts else .open :: ts ++ [.close]

def tokens : Draft → List Token
  | call name body => [.call name body]
  | not d => .not :: fit .unary d.level d.tokens
  | and l r => fit .conjunction l.level l.tokens ++ .and :: fit .unary r.level r.tokens
  | or l r => fit .disjunction l.level l.tokens ++ .or :: fit .conjunction r.level r.tokens
  | parens d => .open :: d.tokens ++ [.close]

/-- The tree that a draft writes out. -/
inductive Draws : Draft → Expr → Prop
  | call {name body : String} {e : Expr} (hcall : IsCall name body e) (hbody : Token.IsBody body.toList) :
      Draws (.call name body) e
  | not {d : Draft} {e : Expr} (h : Draws d e) : Draws (.not d) (.not e)
  | and {dl dr : Draft} {l r : Expr} (hl : Draws dl l) (hr : Draws dr r) : Draws (.and dl dr) (.and l r)
  | or {dl dr : Draft} {l r : Expr} (hl : Draws dl l) (hr : Draws dr r) : Draws (.or dl dr) (.or l r)
  | parens {d : Draft} {e : Expr} (h : Draws d e) : Draws (.parens d) e

variable {allowed actual : Level} {ts : List Token} {d : Draft} {e : Expr}

theorem derives_fit (h : Derives IsCall actual ts e) : Derives IsCall allowed (fit allowed actual ts) e := by
  unfold fit
  by_cases hle : actual.rank ≤ allowed.rank
  · rw [if_pos hle]
    exact h.loosen hle
  · rw [if_neg hle]
    have hprimary : Derives IsCall .primary (.open :: ts ++ [.close]) e :=
      .parens (h.loosen actual.rank_le)
    exact hprimary.loosen (Nat.zero_le _)

theorem Draws.derives (h : Draws d e) : Derives IsCall d.level d.tokens e := by
  induction h with
  | call hcall => exact .call hcall
  | not _ ih => exact .not (derives_fit ih)
  | and _ _ ihl ihr => exact .and (derives_fit ihl) (derives_fit ihr)
  | or _ _ ihl ihr => exact .or (derives_fit ihl) (derives_fit ihr)
  | parens _ ih => exact .parens (ih.loosen (Level.rank_le _))

theorem isSpellable_parens (h : ∀ token ∈ ts, token.IsSpellable) :
    ∀ token ∈ Token.open :: ts ++ [.close], token.IsSpellable := by
  intro token htoken
  rcases List.mem_append.1 htoken with hfront | hclose
  · exact List.forall_mem_cons.2 ⟨trivial, h⟩ token hfront
  · rw [List.mem_singleton.1 hclose]
    trivial

theorem isSpellable_fit (h : ∀ token ∈ ts, token.IsSpellable) :
    ∀ token ∈ fit allowed actual ts, token.IsSpellable := by
  unfold fit
  split
  · exact h
  · exact isSpellable_parens h

theorem Draws.isSpellable (h : Draws d e) : ∀ token ∈ d.tokens, token.IsSpellable := by
  induction h with
  | call hcall hbody =>
      refine List.forall_mem_singleton.2 ⟨?_, ?_, hbody⟩
      · rcases name_of_isCall hcall with rfl | rfl | rfl
        all_goals exact ⟨_, _, rfl, by decide +kernel, List.all_eq_true.1 (by decide +kernel)⟩
      · rcases name_of_isCall hcall with rfl | rfl | rfl <;> rfl
  | not _ ih => exact List.forall_mem_cons.2 ⟨trivial, isSpellable_fit ih⟩
  | and _ _ ihl ihr | or _ _ ihl ihr =>
      exact List.forall_mem_append.2
        ⟨isSpellable_fit ihl, List.forall_mem_cons.2 ⟨trivial, isSpellable_fit ihr⟩⟩
  | parens _ ih => exact isSpellable_parens ih

end Draft

/-- Whether each leaf of a tree comes from a valid body that can stand between parentheses. -/
def LeavesValid : Expr → Prop
  | .and l r | .or l r => l.LeavesValid ∧ r.LeavesValid
  | .not e => e.LeavesValid
  | leaf => ∃ name body, IsCall name body leaf ∧ Token.IsBody body.toList

theorem leavesValid_of_isCall {name body : String} {e : Expr} (hcall : IsCall name body e)
    (hbody : Token.IsBody body.toList) : e.LeavesValid := by
  cases hcall with
  | execution h => exact ⟨_, _, .execution h, hbody⟩
  | within hne h => exact ⟨_, _, .within hne h, hbody⟩
  | args h => exact ⟨_, _, .args h, hbody⟩

theorem Draft.exists_draws {t : Expr} (h : t.LeavesValid) : ∃ d, Draft.Draws d t := by
  induction t with
  | execution | within | args =>
      obtain ⟨name, body, hcall, hbody⟩ := h
      exact ⟨_, .call hcall hbody⟩
  | and l r ihl ihr =>
      obtain ⟨dl, hl⟩ := ihl h.1
      obtain ⟨dr, hr⟩ := ihr h.2
      exact ⟨_, .and hl hr⟩
  | or l r ihl ihr =>
      obtain ⟨dl, hl⟩ := ihl h.1
      obtain ⟨dr, hr⟩ := ihr h.2
      exact ⟨_, .or hl hr⟩
  | not e ih =>
      obtain ⟨d, hd⟩ := ih h
      exact ⟨_, .not hd⟩

theorem Derives.leavesValid {level : Level} {ts : List Token} {t : Expr}
    (h : Derives IsCall level ts t) (hts : ∀ token ∈ ts, token.IsSpellable) : t.LeavesValid := by
  induction h with
  | call hcall => exact leavesValid_of_isCall hcall (hts _ (List.mem_singleton_self _)).2.2
  | parens _ ih =>
      exact ih fun token htoken => hts token (List.mem_append_left _ (List.mem_cons_of_mem _ htoken))
  | ofPrimary _ ih | ofUnary _ ih | ofConjunction _ ih => exact ih hts
  | not _ ih => exact ih fun token htoken => hts token (List.mem_cons_of_mem _ htoken)
  | and _ _ ihl ihr | or _ _ ihl ihr =>
      rw [List.forall_mem_append, List.forall_mem_cons] at hts
      exact ⟨ihl hts.1, ihr hts.2.2⟩

end Expr

namespace ExpressionPointcut

theorem parse_root_iff {references : Expr.References} {text : String} {t : Expr} :
    (∃ p, parse references text = .ok p ∧ p.root = t) ↔ Expr.parse references text = .ok t := by
  unfold parse
  cases Expr.parse references text with
  | error e => exact ⟨nofun, nofun⟩
  | ok root => simp

/-- A text is read exactly when the grammar derives a tree from its tokens, and as that tree. So
a tree comes back however it is written out: with parentheses where the precedence asks for them
and anywhere else, with either spelling of an operator, and with any blanks between tokens. -/
theorem parse_accepts_grammar :
    (∀ (text : String) (t : Expr), (∃ p, parse [] text = .ok p ∧ p.root = t) ↔
      ∃ ts, Token.scan text = .ok ts ∧ Expr.Derives Expr.IsCall .disjunction ts t) ∧
    (∀ t : Expr, t.LeavesValid → (∃ d, Expr.Draft.Draws d t) ∧ ∀ d : Expr.Draft, d.Draws t →
      (∃ cs, Token.Spelled d.tokens cs) ∧
      ∀ cs, Token.Spelled d.tokens cs → ∃ p, parse [] (String.ofList cs) = .ok p ∧ p.root = t) ∧
    (∀ text p, parse [] text = .ok p → p.root.LeavesValid) := by
  have hgrammar : ∀ (text : String) (t : Expr), (∃ p, parse [] text = .ok p ∧ p.root = t) ↔
      ∃ ts, Token.scan text = .ok ts ∧ Expr.Derives Expr.IsCall .disjunction ts t :=
    fun text t => parse_root_iff.trans Expr.parse_eq_ok_iff
  refine ⟨hgrammar, fun t ht => ⟨Expr.Draft.exists_draws ht, fun d hd => ⟨?_, fun cs hcs => ?_⟩⟩, ?_⟩
  · exact Token.exists_spelled hd.isSpellable
  · have hscan : Token.scan (String.ofList cs) = .ok d.tokens :=
      Token.scan_eq_ok_iff.2 (by rwa [String.toList_ofList])
    exact (hgrammar _ t).2 ⟨_, hscan, hd.derives.loosen (Expr.Level.rank_le _)⟩
  · intro text p hp
    obtain ⟨ts, hscan, hderives⟩ := (hgrammar text p.root).1 ⟨p, hp, rfl⟩
    exact hderives.leavesValid (Token.scan_eq_ok_iff.1 hscan).isSpellable

/-- One tree written in two ways. -/
theorem parse_find_outside_audit :
    let find : ExecutionPattern := ⟨"public Order app.Store.find(u32, ..)", ⟨"Order"⟩, some ⟨"Store"⟩, ⟨"find"⟩,
      [.named ⟨"u32"⟩, .ellipsis]⟩
    let ids : Expr := .args "id, *" [.named ⟨"id"⟩, .any]
    let tree : Expr := .or (.and (.execution find) (.not (.within ⟨"Audit"⟩))) ids
    (∃ p, parse [] "execution(public Order app.Store.find(u32, ..)) && !within(app.Audit) || args( id, * )" = .ok p ∧
      p.root = tree) ∧
    ∃ p, parse [] "(execution (public Order app.Store.find(u32, ..))and not ((within(app.Audit)))) or\targs(id, *)" =
      .ok p ∧ p.root = tree := by
  intro find ids tree
  have hfind : Expr.IsCall "execution" "public Order app.Store.find(u32, ..)" (.execution find) :=
    Expr.isCall_iff.2 rfl
  have haudit : Expr.IsCall "within" "app.Audit" (.within ⟨"Audit"⟩) := Expr.isCall_iff.2 rfl
  have hids : Expr.IsCall "args" "id, *" ids := Expr.isCall_iff.2 rfl
  constructor
  · refine (parse_accepts_grammar.1 _ tree).2 ⟨[.call "execution" "public Order app.Store.find(u32, ..)", .and,
      .not, .call "within" "app.Audit", .or, .call "args" "id, *"], by decide +kernel, ?_⟩
    have hconjunction := Expr.Derives.and (.ofUnary (.ofPrimary (.call hfind))) (.not (.ofPrimary (.call haudit)))
    exact .or (.ofConjunction hconjunction) (.ofUnary (.ofPrimary (.call hids)))
  · let draft : Expr.Draft := .or
      (.parens (.and (.call "execution" "public Order app.Store.find(u32, ..)")
        (.not (.parens (.parens (.call "within" "app.Audit"))))))
      (.call "args" "id, *")
    have hscan : Token.scan
        "(execution (public Order app.Store.find(u32, ..))and not ((within(app.Audit)))) or\targs(id, *)" =
          .ok draft.tokens := by decide +kernel
    have hspelled := Token.scan_eq_ok_iff.1 hscan
    have hbody : ∀ name body, .call name body ∈ draft.tokens → Token.IsBody body.toList :=
      fun name body hmem => (hspelled.isSpellable _ hmem).2.2
    have hfindBody := hbody "execution" "public Order app.Store.find(u32, ..)" (by decide +kernel)
    have hauditBody := hbody "within" "app.Audit" (by decide +kernel)
    have hidsBody := hbody "args" "id, *" (by decide +kernel)
    have hvalid : tree.LeavesValid :=
      ⟨⟨⟨_, _, hfind, hfindBody⟩, ⟨_, _, haudit, hauditBody⟩⟩, ⟨_, _, hids, hidsBody⟩⟩
    have hdraws : draft.Draws tree :=
      .or (.parens (.and (.call hfind hfindBody) (.not (.parens (.parens (.call haudit hauditBody))))))
        (.call hids hidsBody)
    exact ((parse_accepts_grammar.2.1 tree hvalid).2 draft hdraws).2 _ hspelled

end ExpressionPointcut

end Weaving
