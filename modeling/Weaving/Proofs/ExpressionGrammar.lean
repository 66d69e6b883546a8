import Weaving.Expression.Parser

namespace Weaving

namespace Expr

/-- What a part of an expression can stand for, the tightest first. -/
inductive Level where
  | primary | unary | conjunction | disjunction

def Level.rank : Level → Nat
  | primary => 0
  | unary => 1
  | conjunction => 2
  | disjunction => 3

theorem Level.rank_le (l : Level) : l.rank ≤ Level.disjunction.rank := by
  cases l <;> decide

/-- The grammar of expressions. `Call` says which tree a call stands for. The operators `and` and
`or` take their left operand at their own level, so they associate to the left. -/
inductive Derives (Call : String → String → Expr → Prop) : Level → List Token → Expr → Prop
  | call {name body : String} {e : Expr} (h : Call name body e) :
      Derives Call .primary [.call name body] e
  | parens {ts : List Token} {e : Expr} (h : Derives Call .disjunction ts e) :
      Derives Call .primary (.open :: ts ++ [.close]) e
  | ofPrimary {ts : List Token} {e : Expr} (h : Derives Call .primary ts e) : Derives Call .unary ts e
  | not {ts : List Token} {e : Expr} (h : Derives Call .unary ts e) :
      Derives Call .unary (.not :: ts) (.not e)
  | ofUnary {ts : List Token} {e : Expr} (h : Derives Call .unary ts e) :
      Derives Call .conjunction ts e
  | and {left right : List Token} {l r : Expr} (hl : Derives Call .conjunction left l)
      (hr : Derives Call .unary right r) : Derives Call .conjunction (left ++ .and :: right) (.and l r)
  | ofConjunction {ts : List Token} {e : Expr} (h : Derives Call .conjunction ts e) :
      Derives Call .disjunction ts e
  | or {left right : List Token} {l r : Expr} (hl : Derives Call .disjunction left l)
      (hr : Derives Call .conjunction right r) :
      Derives Call .disjunction (left ++ .or :: right) (.or l r)

variable {Call : String → String → Expr → Prop} {leaf : String → String → Except ParseError Expr}
  {frame : Frame} {outer : List Frame} {ts rest : List Token} {e c t : Expr} {level : Level}

theorem Derives.loosen {tight loose : Level} (hle : tight.rank ≤ loose.rank)
    (h : Derives Call tight ts e) : Derives Call loose ts e := by
  have hunary : tight.rank ≤ 1 → Derives Call .unary ts e := by
    intro hr
    cases tight with
    | primary => exact .ofPrimary h
    | unary => exact h
    | conjunction | disjunction => exact absurd hr (by decide)
  have hconjunction : tight.rank ≤ 2 → Derives Call .conjunction ts e := by
    intro hr
    cases tight with
    | primary | unary => exact .ofUnary (hunary (by decide))
    | conjunction => exact h
    | disjunction => exact absurd hr (by decide)
  cases loose with
  | primary =>
      cases tight with
      | primary => exact h
      | unary | conjunction | disjunction => exact absurd hle (by decide)
  | unary => exact hunary hle
  | conjunction => exact hconjunction hle
  | disjunction =>
      cases tight with
      | primary | unary | conjunction => exact .ofConjunction (hconjunction (by decide))
      | disjunction => exact h

/-- Behind an operand only the finished disjunction matters of what stands to its left. -/
theorem parseOperator_frame (d f : Option Expr) (n : Nat) :
    parseOperator leaf ⟨d, f, n⟩ c outer ts = parseOperator leaf ⟨d, none, 0⟩ c outer ts := by
  cases ts with
  | nil => cases outer <;> rfl
  | cons token rest => cases token <;> cases outer <;> rfl

/-- The reader goes on behind the tokens of a part with the tree of that part. An operand may be
preceded by anything, a conjunction by a disjunction, and a disjunction by nothing. -/
def Reads (leaf : String → String → Except ParseError Expr) : Level → List Token → Expr → Prop
  | .primary, ts, e | .unary, ts, e => ∀ frame outer rest,
    parseOperand leaf frame outer (ts ++ rest) = parseOperator leaf frame (frame.conjoin e) outer rest
  | .conjunction, ts, e => ∀ d outer rest,
    parseOperand leaf ⟨d, none, 0⟩ outer (ts ++ rest) = parseOperator leaf ⟨d, none, 0⟩ e outer rest
  | .disjunction, ts, e => ∃ d c, Frame.disjoin ⟨d, none, 0⟩ c = e ∧ ∀ outer rest,
    parseOperand leaf .empty outer (ts ++ rest) = parseOperator leaf ⟨d, none, 0⟩ c outer rest

theorem reads_of_derives (hleaf : ∀ name body e, Call name body e → leaf name body = .ok e)
    (h : Derives Call level ts e) : Reads leaf level ts e := by
  induction h with
  | @call name body e hcall =>
      intro frame outer rest
      simp only [List.singleton_append, parseOperand, hleaf name body e hcall]
  | @parens ts e _ ih =>
      intro frame outer rest
      obtain ⟨d, c, hjoin, hread⟩ := ih
      rw [List.append_assoc, List.cons_append, parseOperand, hread, List.singleton_append,
        parseOperator, hjoin]
  | ofPrimary _ ih => exact ih
  | @not ts e _ ih =>
      intro frame outer rest
      rw [List.cons_append, parseOperand, ih, parseOperator_frame,
        ← parseOperator_frame frame.disjunct frame.conjunct frame.negations]
      rfl
  | ofUnary _ ih => exact fun d outer rest => ih ⟨d, none, 0⟩ outer rest
  | @and left right l r _ _ ihl ihr =>
      intro d outer rest
      rw [List.append_assoc, List.cons_append, ihl, parseOperator, ihr, parseOperator_frame]
      rfl
  | ofConjunction _ ih => exact ⟨none, _, rfl, ih none⟩
  | @or left right l r _ _ ihl ihr =>
      obtain ⟨d, c, hjoin, hread⟩ := ihl
      refine ⟨some l, r, rfl, fun outer rest => ?_⟩
      rw [List.append_assoc, List.cons_append, hread, parseOperator, hjoin, ihr]

/-- The tokens of an operator and of what stands to its left, if anything does. -/
def Joined (Call : String → String → Expr → Prop) (level : Level) (operator : Token) :
    Option Expr → List Token → Prop
  | none, ts => ts = []
  | some e, ts => ∃ left, Derives Call level left e ∧ ts = left ++ [operator]

/-- The tokens of what a frame holds. -/
def Frame.Holds (Call : String → String → Expr → Prop) (frame : Frame) (ts : List Token) : Prop :=
  ∃ d f, Joined Call .disjunction .or frame.disjunct d ∧ Joined Call .conjunction .and frame.conjunct f ∧
    ts = d ++ f ++ List.replicate frame.negations .not

/-- The tokens up to the innermost parenthesis that is open. -/
inductive Opened (Call : String → String → Expr → Prop) : List Frame → List Token → Prop
  | nil : Opened Call [] []
  | cons {frame : Frame} {outer : List Frame} {before held : List Token} (h : Opened Call outer before)
      (hheld : frame.Holds Call held) : Opened Call (frame :: outer) (before ++ held ++ [.open])

theorem derives_disjoin {d : List Token} (hd : Joined Call .disjunction .or frame.disjunct d)
    (h : Derives Call .conjunction ts c) : Derives Call .disjunction (d ++ ts) (frame.disjoin c) := by
  obtain ⟨disjunct, conjunct, negations⟩ := frame
  cases disjunct with
  | none =>
      cases hd
      exact .ofConjunction h
  | some left =>
      obtain ⟨tokens, hleft, rfl⟩ := hd
      rw [List.append_assoc]
      exact .or hleft h

theorem derives_negate {n : Nat} (h : Derives Call .unary ts e) :
    Derives Call .unary (List.replicate n .not ++ ts) (Frame.negate n e) := by
  induction n generalizing ts e with
  | zero => exact h
  | succ n ih =>
      rw [List.replicate_succ', List.append_assoc]
      exact ih (.not h)

theorem derives_conjoin {held : List Token} (hheld : frame.Holds Call held)
    (h : Derives Call .primary ts e) : ∃ d conjunction,
      Joined Call .disjunction .or frame.disjunct d ∧
      Derives Call .conjunction conjunction (frame.conjoin e) ∧ held ++ ts = d ++ conjunction := by
  obtain ⟨d, f, hd, hf, rfl⟩ := hheld
  have hnegated : Derives Call .unary (List.replicate frame.negations .not ++ ts)
      (Frame.negate frame.negations e) := derives_negate (.ofPrimary h)
  obtain ⟨disjunct, conjunct, negations⟩ := frame
  cases conjunct with
  | none =>
      cases hf
      exact ⟨d, _, hd, .ofUnary hnegated, by simp⟩
  | some left =>
      obtain ⟨tokens, hleft, rfl⟩ := hf
      exact ⟨d, _, hd, .and hleft hnegated, by simp⟩

/-- A text that is read to its end is derived from what has been read and what is left. -/
theorem derives_of_parse (hleaf : ∀ name body e, leaf name body = .ok e → Call name body e)
    (ts : List Token) :
    (∀ frame outer before held, parseOperand leaf frame outer ts = .ok t → Opened Call outer before →
      frame.Holds Call held → Derives Call .disjunction (before ++ held ++ ts) t) ∧
    (∀ frame c outer before d conjunction, parseOperator leaf frame c outer ts = .ok t →
      Opened Call outer before → Joined Call .disjunction .or frame.disjunct d →
      Derives Call .conjunction conjunction c →
      Derives Call .disjunction (before ++ d ++ conjunction ++ ts) t) := by
  induction ts with
  | nil =>
      refine ⟨nofun, fun frame c outer before d conjunction h hbefore hd hc => ?_⟩
      cases hbefore with
      | nil =>
          cases h
          simpa using derives_disjoin hd hc
      | cons => cases h
  | cons token rest ih =>
      obtain ⟨ihoperand, ihoperator⟩ := ih
      constructor
      · intro frame outer before held h hbefore hheld
        cases token with
        | and | or | close => cases h
        | «open» =>
            have hempty : Frame.empty.Holds Call [] := ⟨[], [], rfl, rfl, rfl⟩
            simpa using ihoperand _ _ _ _ h (.cons hbefore hheld) hempty
        | not =>
            obtain ⟨d, f, hd, hf, rfl⟩ := hheld
            have := ihoperand _ _ _ _ h hbefore ⟨d, f, hd, hf, rfl⟩
            simpa [List.replicate_succ'] using this
        | call name body =>
            simp only [parseOperand] at h
            split at h
            · cases h
            · next operand hoperand =>
                obtain ⟨d, conjunction, hd, hc, heq⟩ :=
                  derives_conjoin hheld (.call (hleaf name body operand hoperand))
                have := ihoperator _ _ _ _ _ _ h hbefore hd hc
                rw [List.append_assoc before, ← heq] at this
                simpa using this
      · intro frame c outer before d conjunction h hbefore hd hc
        cases token with
        | and =>
            have hheld : Frame.Holds Call { frame with conjunct := some c, negations := 0 }
                (d ++ (conjunction ++ [.and])) := ⟨d, _, hd, ⟨_, hc, rfl⟩, by simp⟩
            simpa using ihoperand _ _ _ _ h hbefore hheld
        | or =>
            have hheld : Frame.Holds Call ⟨some (frame.disjoin c), none, 0⟩ (d ++ conjunction ++ [.or]) :=
              ⟨_, [], ⟨_, derives_disjoin hd hc, rfl⟩, rfl, by simp⟩
            simpa using ihoperand _ _ _ _ h hbefore hheld
        | «open» | not | call => cases hbefore <;> cases h
        | close =>
            cases hbefore with
            | nil => cases h
            | @cons enclosing outer before held hbefore hheld =>
                obtain ⟨d', conjunction', hd', hc', heq⟩ :=
                  derives_conjoin hheld (.parens (derives_disjoin hd hc))
                have := ihoperator _ _ _ _ _ _ h hbefore hd' hc'
                rw [List.append_assoc before, ← heq] at this
                simpa using this

theorem Derives.ne_nil (h : Derives Call level ts e) : ts ≠ [] := by
  induction h with
  | call | parens | not => exact List.cons_ne_nil _ _
  | ofPrimary _ ih | ofUnary _ ih | ofConjunction _ ih => exact ih
  | and | or => exact List.append_ne_nil_of_right_ne_nil _ (List.cons_ne_nil _ _)

/-- Reading accepts exactly what the grammar derives. -/
theorem parseTokens_eq_ok_iff (hleaf : ∀ name body e, leaf name body = .ok e ↔ Call name body e) :
    parseTokens leaf ts = .ok t ↔ Derives Call .disjunction ts t := by
  constructor
  · intro h
    unfold parseTokens at h
    split at h
    · cases h
    · exact (derives_of_parse (fun name body e => (hleaf name body e).1) ts).1 _ _ [] [] h .nil
        ⟨[], [], rfl, rfl, rfl⟩
  · intro h
    obtain ⟨d, c, hjoin, hread⟩ := reads_of_derives (fun name body e => (hleaf name body e).2) h
    have hparse := hread [] []
    rw [List.append_nil, parseOperator, hjoin] at hparse
    rw [parseTokens, if_neg (by simpa using h.ne_nil), hparse]

end Expr

end Weaving
