import Mathlib.Logic.Function.Iterate
import Weaving.Proofs.ExpressionWriting
import Weaving.Proofs.NameLists
import Weaving.Proofs.Reachability

namespace Weaving

namespace Expr

/-- A call that refers to the pointcut of a name: its last segment counts. -/
def IsReference (call body name : String) : Prop :=
  designator? call body = none ∧ body.isEmpty = true ∧ Text.lastSegment call = name

/-- Which tree a call stands for if `Tree` says so for expressions. A reference stands for the tree
of its definition and, like any call, counts as one operand. -/
def CallTree (references : References) (Tree : String → Expr → Prop) (call body : String) (e : Expr) :
    Prop :=
  IsCall call body e ∨ ∃ name definition, IsReference call body name ∧
    references.lookup name = some definition ∧ Tree definition e

/-- The tree of an expression with every reference replaced, if references nest less than `depth` deep. -/
def Unfolds (references : References) : Nat → String → Expr → Prop
  | 0, _, _ => False
  | depth + 1, text, t => ∃ ts, Token.scan text = .ok ts ∧
    Derives (CallTree references (Unfolds references depth)) .disjunction ts t

/-- The tokens with every reference written out as its definition in parentheses. -/
inductive WrittenOut (references : References) : List Token → List Token → Prop
  | nil : WrittenOut references [] []
  | keep {token : Token} {ts us : List Token}
      (htoken : ∀ call body name, token = .call call body → ¬ IsReference call body name)
      (h : WrittenOut references ts us) : WrittenOut references (token :: ts) (token :: us)
  | reference {call body name definition : String} {inner written ts us : List Token}
      (href : IsReference call body name) (hlookup : references.lookup name = some definition)
      (hscan : Token.scan definition = .ok inner) (hinner : WrittenOut references inner written)
      (h : WrittenOut references ts us) :
      WrittenOut references (.call call body :: ts) (.open :: written ++ .close :: us)

/-- The text is an expression, whatever its references stand for. -/
def IsExpression (text : String) : Prop :=
  ∃ ts t, Token.scan text = .ok ts ∧
    Derives (fun call body e => IsCall call body e ∨ ∃ name, IsReference call body name) .disjunction ts t

def Refers (text name : String) : Prop :=
  ∃ ts call body, Token.scan text = .ok ts ∧ .call call body ∈ ts ∧ IsReference call body name

/-- The definition of a name refers to another. -/
def Uses (references : References) (name other : String) : Prop :=
  ∃ definition, references.lookup name = some definition ∧ Refers definition other

/-- The names that a text refers to, itself or through the definitions of others. -/
def Reaches (references : References) (text name : String) : Prop :=
  ∃ first, Refers text first ∧ Relation.ReflTransGen (Uses references) first name

structure Resolvable (references : References) (text : String) : Prop where
  isExpression : IsExpression text
  definition_isExpression : ∀ name definition, Reaches references text name →
    references.lookup name = some definition → IsExpression definition
  isDefined : ∀ name, Reaches references text name → ∃ definition, references.lookup name = some definition
  acyclic : ∀ name, Reaches references text name → ¬ Relation.TransGen (Uses references) name name

variable {Call Other : String → String → Expr → Prop} {references : References} {level : Level}
  {ts : List Token} {e t : Expr} {text name call body definition : String} {available : List String}
  {depth : Nat}

theorem not_isCall_of_isReference (h : IsReference call body name) : ¬ IsCall call body e := by
  intro hcall
  rw [isCall_iff, h.1] at hcall
  cases hcall

theorem Derives.mono (h : Derives Call level ts e)
    (hcalls : ∀ call body e, .call call body ∈ ts → Call call body e → Other call body e) :
    Derives Other level ts e := by
  induction h with
  | call hcall => exact .call (hcalls _ _ _ List.mem_cons_self hcall)
  | parens _ ih =>
      exact .parens (ih fun call body e hmem =>
        hcalls call body e (List.mem_append_left _ (List.mem_cons_of_mem _ hmem)))
  | ofPrimary _ ih => exact .ofPrimary (ih hcalls)
  | not _ ih => exact .not (ih fun call body e hmem => hcalls call body e (List.mem_cons_of_mem _ hmem))
  | ofUnary _ ih => exact .ofUnary (ih hcalls)
  | and _ _ ihl ihr =>
      refine .and (ihl fun call body e hmem => ?_) (ihr fun call body e hmem => ?_)
      · exact hcalls call body e (List.mem_append_left _ hmem)
      · exact hcalls call body e (List.mem_append_right _ (List.mem_cons_of_mem _ hmem))
  | ofConjunction _ ih => exact .ofConjunction (ih hcalls)
  | or _ _ ihl ihr =>
      refine .or (ihl fun call body e hmem => ?_) (ihr fun call body e hmem => ?_)
      · exact hcalls call body e (List.mem_append_left _ hmem)
      · exact hcalls call body e (List.mem_append_right _ (List.mem_cons_of_mem _ hmem))

theorem Derives.exists_of_mem (h : Derives Call level ts e) (hmem : .call call body ∈ ts) :
    ∃ e', Call call body e' := by
  induction h with
  | call hcall =>
      cases List.mem_singleton.1 hmem
      exact ⟨_, hcall⟩
  | parens _ ih => exact ih (by simpa using hmem)
  | ofPrimary _ ih | ofUnary _ ih | ofConjunction _ ih => exact ih hmem
  | not _ ih => exact ih (by simpa using hmem)
  | and _ _ ihl ihr | or _ _ ihl ihr =>
      rcases List.mem_append.1 hmem with hleft | hright
      · exact ihl hleft
      · exact ihr (by simpa using hright)

/-- The tree of a call while some names are being resolved, the available ones not among them. -/
def CallWithin (references : References) (available : List String) : String → String → Expr → Prop :=
  fun call body e => IsCall call body e ∨ ∃ name definition, IsReference call body name ∧
    references.lookup name = some definition ∧ name ∈ available ∧
      parseWithin references (available.erase name) definition = .ok e

theorem parseWithin_eq_ok_iff : parseWithin references available text = .ok t ↔
    ∃ ts, Token.scan text = .ok ts ∧ Derives (CallWithin references available) .disjunction ts t := by
  rw [parseWithin]
  cases hscan : Token.scan text with
  | error e =>
      constructor
      · intro h
        cases h
      · rintro ⟨_, heq, -⟩
        cases heq
  | ok tokens =>
      refine Iff.trans (b := Derives (CallWithin references available) .disjunction tokens t)
        (parseTokens_eq_ok_iff ?_) ?_
      · intro call body e
        simp only [CallWithin, isCall_iff, IsReference]
        cases designator? call body with
        | some result => simp
        | none =>
            by_cases hbody : body.isEmpty = true
            · cases hlookup : references.lookup (Text.lastSegment call) with
              | none => simp [hbody, hlookup]
              | some definition =>
                  by_cases havailable : Text.lastSegment call ∈ available <;>
                    simp [hbody, hlookup, havailable]
            · simp [hbody]
      · simp only [Except.ok.injEq, exists_eq_left']

theorem unfolds_of_parseWithin (h : parseWithin references available text = .ok t) :
    Unfolds references (available.length + 1) text t := by
  -- each reference that is followed takes its name out of the available ones
  induction hn : available.length using Nat.strong_induction_on generalizing available text t with
  | _ n ih =>
      obtain ⟨ts, hscan, hd⟩ := parseWithin_eq_ok_iff.1 h
      refine ⟨ts, hscan, hd.mono fun call body e _ hcall => ?_⟩
      rcases hcall with hcall | ⟨name, definition, href, hlookup, havailable, hparse⟩
      · exact .inl hcall
      · have hlength := List.length_erase_add_one havailable
        have htree := ih (available.erase name).length (by omega) hparse rfl
        rw [hlength, hn] at htree
        exact .inr ⟨name, definition, href, hlookup, htree⟩

theorem reaches_of_refers (h : Refers text name) : Reaches references text name := ⟨name, h, .refl⟩

theorem transGen_of_reaches {other : String} (hlookup : references.lookup name = some definition)
    (h : Reaches references definition other) : Relation.TransGen (Uses references) name other := by
  obtain ⟨first, hfirst, hpath⟩ := h
  exact .head' ⟨definition, hlookup, hfirst⟩ hpath

theorem Refers.reaches {other : String} (h : Refers text name)
    (hlookup : references.lookup name = some definition) (hother : Reaches references definition other) :
    Reaches references text other :=
  ⟨name, h, (transGen_of_reaches hlookup hother).to_reflTransGen⟩

theorem Resolvable.of_refers (h : Resolvable references text) (hrefers : Refers text name)
    (hlookup : references.lookup name = some definition) : Resolvable references definition where
  isExpression := h.definition_isExpression name definition (reaches_of_refers hrefers) hlookup
  definition_isExpression other inner hother :=
    h.definition_isExpression other inner (hrefers.reaches hlookup hother)
  isDefined other hother := h.isDefined other (hrefers.reaches hlookup hother)
  acyclic other hother := h.acyclic other (hrefers.reaches hlookup hother)

/-- No name that the text reaches is being resolved already, or leads back to itself. -/
def Unhindered (references : References) (available : List String) (text : String) : Prop :=
  ∀ name, Reaches references text name →
    name ∈ available ∧ ¬ Relation.TransGen (Uses references) name name

theorem Unhindered.of_refers (h : Unhindered references available text) (hrefers : Refers text name)
    (hlookup : references.lookup name = some definition) :
    Unhindered references (available.erase name) definition := by
  intro other hother
  obtain ⟨havailable, hacyclic⟩ := h other (hrefers.reaches hlookup hother)
  refine ⟨(List.mem_erase_of_ne ?_).2 havailable, hacyclic⟩
  rintro rfl
  exact hacyclic (transGen_of_reaches hlookup hother)

theorem parseWithin_of_unfolds (h : Unfolds references depth text t)
    (hfree : Unhindered references available text) : parseWithin references available text = .ok t := by
  induction depth generalizing text t available with
  | zero => exact h.elim
  | succ depth ih =>
      obtain ⟨ts, hscan, hd⟩ := h
      refine parseWithin_eq_ok_iff.2 ⟨ts, hscan, hd.mono fun call body e hmem hcall => ?_⟩
      rcases hcall with hcall | ⟨name, definition, href, hlookup, htree⟩
      · exact .inl hcall
      · have hrefers : Refers text name := ⟨ts, call, body, hscan, hmem, href⟩
        have havailable := (hfree name (reaches_of_refers hrefers)).1
        exact .inr ⟨name, definition, href, hlookup, havailable,
          ih htree (hfree.of_refers hrefers hlookup)⟩

theorem Unfolds.of_refers (h : Unfolds references depth text t) (hrefers : Refers text name) :
    ∃ less definition e, less < depth ∧ references.lookup name = some definition ∧
      Unfolds references less definition e := by
  cases depth with
  | zero => exact h.elim
  | succ depth =>
      obtain ⟨ts, hscan, hd⟩ := h
      obtain ⟨ts', call, body, hscan', hmem, href⟩ := hrefers
      obtain rfl : ts = ts' := Except.ok.inj (hscan.symm.trans hscan')
      obtain ⟨e, hcall | ⟨name', definition, href', hlookup, htree⟩⟩ := hd.exists_of_mem hmem
      · exact absurd hcall (not_isCall_of_isReference href)
      · obtain rfl : name' = name := href'.2.2.symm.trans href.2.2
        exact ⟨depth, definition, e, Nat.lt_succ_self depth, hlookup, htree⟩

theorem Unfolds.isExpression (h : Unfolds references depth text t) : IsExpression text := by
  cases depth with
  | zero => exact h.elim
  | succ depth =>
      obtain ⟨ts, hscan, hd⟩ := h
      refine ⟨ts, t, hscan, hd.mono fun call body e _ hcall => ?_⟩
      rcases hcall with hcall | ⟨name, -, href, -, -⟩
      · exact .inl hcall
      · exact .inr ⟨name, href⟩

theorem Unfolds.exists_definition (h : Unfolds references depth text t)
    (hreaches : Reaches references text name) :
    ∃ less definition e, references.lookup name = some definition ∧ Unfolds references less definition e := by
  obtain ⟨first, hfirst, hpath⟩ := hreaches
  induction hpath with
  | refl =>
      obtain ⟨less, definition, e, -, hlookup, htree⟩ := h.of_refers hfirst
      exact ⟨less, definition, e, hlookup, htree⟩
  | tail _ hstep ih =>
      obtain ⟨less, definition, e, hlookup, htree⟩ := ih
      obtain ⟨definition', hlookup', hrefers⟩ := hstep
      obtain rfl : definition = definition' := Option.some.inj (hlookup.symm.trans hlookup')
      obtain ⟨less', inner, e', -, hinner, htree'⟩ := htree.of_refers hrefers
      exact ⟨less', inner, e', hinner, htree'⟩

theorem WrittenOut.append {us ts' us' : List Token} (h : WrittenOut references ts us)
    (h' : WrittenOut references ts' us') : WrittenOut references (ts ++ ts') (us ++ us') := by
  induction h with
  | nil => exact h'
  | keep htoken _ ih => exact .keep htoken ih
  | reference href hlookup hscan hinner _ _ ih =>
      have hout := WrittenOut.reference href hlookup hscan hinner ih
      simpa using hout

/-- References that nest to some depth only do not go in a circle. -/
theorem Unfolds.acc (h : Unfolds references depth text t) (hrefers : Refers text name) :
    Acc (fun other name => Uses references name other) name := by
  -- the depth is a rank: a definition unfolds to a lesser depth than the text that refers to it
  induction depth using Nat.strong_induction_on generalizing text t name with
  | _ depth ih =>
      obtain ⟨less, definition, e, hless, hlookup, htree⟩ := h.of_refers hrefers
      refine Acc.intro name fun other hother => ?_
      obtain ⟨definition', hlookup', hrefers'⟩ := hother
      obtain rfl : definition = definition' := Option.some.inj (hlookup.symm.trans hlookup')
      exact ih less hless htree hrefers'

theorem Unfolds.resolvable (h : Unfolds references depth text t) : Resolvable references text where
  isExpression := h.isExpression
  definition_isExpression name definition hreaches hlookup := by
    obtain ⟨less, definition', e, hlookup', htree⟩ := h.exists_definition hreaches
    obtain rfl : definition = definition' := Option.some.inj (hlookup.symm.trans hlookup')
    exact htree.isExpression
  isDefined name hreaches := by
    obtain ⟨less, definition, e, hlookup, htree⟩ := h.exists_definition hreaches
    exact ⟨definition, hlookup⟩
  acyclic name hreaches := by
    obtain ⟨first, hfirst, hpath⟩ := hreaches
    exact acyclicFrom_of_acc (h.acc hfirst) name hpath

def References.names (references : References) : List String := (references.map (·.1)).eraseDups

theorem References.mem_names (hlookup : references.lookup name = some definition) :
    name ∈ references.names := by
  obtain ⟨before, behind, rfl, -⟩ := List.lookup_eq_some_iff.1 hlookup
  simp [References.names, List.mem_eraseDups]

theorem Resolvable.unhindered (h : Resolvable references text) :
    Unhindered references references.names text := by
  intro name hreaches
  obtain ⟨definition, hlookup⟩ := h.isDefined name hreaches
  exact ⟨References.mem_names hlookup, h.acyclic name hreaches⟩

theorem parse_eq_ok_iff_unfolds : parse references text = .ok t ↔ ∃ depth, Unfolds references depth text t := by
  constructor
  · intro h
    exact ⟨_, unfolds_of_parseWithin h⟩
  · rintro ⟨depth, h⟩
    exact parseWithin_of_unfolds h h.resolvable.unhindered

end Expr

namespace ExpressionPointcut

end ExpressionPointcut

end Weaving
