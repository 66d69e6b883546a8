import Weaving.Expression.ExpressionPointcut
import Weaving.Proofs.MatcherStages

namespace Weaving

namespace Expr

variable {formals : Formals} {method : Method} {target : TypeInfo} {args : List Value}

/-- What is captured on the way does not change whether an argument list fits. -/
theorem captureArgs_answer (pairs : List (ArgPattern × Nat)) (c d : Captures) :
    (captureArgs formals method args pairs c).1 = (captureArgs formals method args pairs d).1 := by
  induction pairs generalizing c d with
  | nil => rfl
  | cons pair rest ih =>
      obtain ⟨pattern, index⟩ := pair
      cases pattern with
      | any | ellipsis => exact ih c d
      | named name =>
          simp only [captureArgs]
          split
          · rfl
          · split
            · split
              · exact ih _ _
              · rfl
            · split
              · exact ih c d
              · rfl

theorem matchArgs_answer (patterns : List ArgPattern) (c d : Captures) :
    (matchArgs patterns formals method args c).1 = (matchArgs patterns formals method args d).1 := by
  simp only [matchArgs]
  split
  · rfl
  · exact captureArgs_answer _ c d

theorem run_answer (e : Expr) (c d : Captures) :
    (e.run formals method target args c).1 = (e.run formals method target args d).1 := by
  induction e generalizing c d with
  | execution | within => rfl
  | args source patterns => exact matchArgs_answer patterns c d
  | and l r ihl ihr =>
      simp only [run]
      have hl := ihl c d
      split <;> split <;> simp_all
      exact ihr _ _
  | or l r =>
      simp only [run]
      split
      · rfl
      · split <;> rfl
  | not e => rfl

/-- Whether a call matches an expression, whatever is captured from it. -/
def holds (formals : Formals) (method : Method) (target : TypeInfo) (args : List Value)
    (e : Expr) : Bool := (e.run formals method target args .empty).1

theorem captures?_isSome (e : Expr) :
    (e.captures? formals method target args).isSome = e.holds formals method target args := by
  simp only [captures?, holds]
  split <;> simp_all

theorem holds_and (l r : Expr) :
    (l.and r).holds formals method target args =
      (l.holds formals method target args && r.holds formals method target args) := by
  simp only [holds, run]
  split
  · next c h => simp [h, run_answer r c .empty]
  · next h => simp [h]

theorem holds_or (l r : Expr) :
    (l.or r).holds formals method target args =
      (l.holds formals method target args || r.holds formals method target args) := by
  simp only [holds, run]
  split
  · next h => simp [h]
  · next h => split <;> simp_all

theorem holds_not (e : Expr) :
    e.not.holds formals method target args = !e.holds formals method target args := rfl

/-- An element that takes its argument takes a parameter declared as the argument's. -/
theorem fits_of_captureArgs {pairs : List (ArgPattern × Nat)} {c : Captures}
    (h : (captureArgs formals method args pairs c).1 = true) :
    (pairs.all fun
      | (.named name, index) =>
        (formals.typeOf? name.text).isSome || (method.parameters[index]?).any name.acceptsType
      | _ => true) = true := by
  induction pairs generalizing c with
  | nil => rfl
  | cons pair rest ih =>
      obtain ⟨pattern, index⟩ := pair
      cases pattern with
      | any | ellipsis => simpa using ih h
      | named name =>
          simp only [captureArgs] at h
          split at h
          · simp at h
          · cases htype : formals.typeOf? name.text with
            | some type =>
                simp only [htype] at h
                split at h
                · simpa [htype] using ih h
                · simp at h
            | none =>
                simp only [htype] at h
                split at h
                · next hfit =>
                    simp only [Option.any_eq_true, Bool.and_eq_true] at hfit
                    obtain ⟨t, ht, hname, _⟩ := hfit
                    simpa [htype, ht, hname] using ih h
                · simp at h

/-- An argument list that fits the arguments of a call fits the declared parameters, if
there are as many of them. -/
theorem argsFitDeclared_of_matchArgs {patterns : List ArgPattern} {c : Captures}
    (hlen : args.length = method.parameters.length)
    (h : (matchArgs patterns formals method args c).1 = true) :
    argsFitDeclared patterns formals method = true := by
  simp only [matchArgs, hlen] at h
  simp only [argsFitDeclared]
  split at h
  · simp at h
  · exact fits_of_captureArgs h

theorem matcher_staged (e : Expr) (hlen : args.length = method.parameters.length) :
    (e.matcher formals).Staged method target args := by
  induction e with
  | execution | within => intro d hd; simp [matcher, MethodMatcher.leaves] at hd
  | args source patterns =>
      intro d hd hrun
      obtain rfl := List.mem_singleton.1 hd
      exact argsFitDeclared_of_matchArgs hlen hrun
  | and l r ihl ihr | or l r ihl ihr =>
      intro d hd
      exact (List.mem_append.1 hd).elim (ihl d) (ihr d)
  | not e ih => exact fun d hd => ih d (by simpa [matcher, MethodMatcher.leaves] using hd)

end Expr

namespace ExecutionPattern

/-- Whether the owner of the pattern accepts the type of the target, and not merely the
type that declares the method. -/
def admitsTarget (p : ExecutionPattern) (target : TypeInfo) : Bool :=
  match p.owner with
  | none => true
  | some owner => owner.acceptsType target

end ExecutionPattern

namespace Expr

variable {formals : Formals} {method : Method} {target : TypeInfo} {args : List Value}

/-- The reading of an expression in which the owner of an execution pattern has to accept
the type of the target. -/
def holdsOnTarget (formals : Formals) (method : Method) (target : TypeInfo) (args : List Value) :
    Expr → Bool
  | execution p => p.admitsTarget target && p.accepts method target
  | within p => p.acceptsType target
  | .args _ patterns => (matchArgs patterns formals method args .empty).1
  | and l r => l.holdsOnTarget formals method target args && r.holdsOnTarget formals method target args
  | or l r => l.holdsOnTarget formals method target args || r.holdsOnTarget formals method target args
  | not e => !e.holdsOnTarget formals method target args

theorem accepts_classFilter_execution (p : ExecutionPattern) :
    (execution p).classFilter.accepts target = p.admitsTarget target := by
  simp only [classFilter, ExecutionPattern.admitsTarget]
  split <;> simp_all

/-- The derived filter and matcher read an expression on the type of the target. The filter
of a disjunction is implied by the filters that guard its sides, and that of a negation
has been folded into its matcher. -/
theorem selects_eq_holdsOnTarget (e : Expr) :
    (Pointcut.mk e.classFilter (e.matcher formals)).selects method target args =
      e.holdsOnTarget formals method target args := by
  simp only [Pointcut.selects]
  induction e with
  | execution p => rw [accepts_classFilter_execution]; rfl
  | within p => simp [classFilter, matcher, holdsOnTarget, MethodMatcher.evaluate]
  | args source patterns => simp [classFilter, matcher, holdsOnTarget, MethodMatcher.evaluate]
  | and l r ihl ihr =>
      simp only [classFilter, matcher, holdsOnTarget, ClassFilter.accepts_inter_pair,
        MethodMatcher.answer_inter, ← ihl, ← ihr]
      ac_rfl
  | or l r ihl ihr =>
      simp only [classFilter, matcher, holdsOnTarget, ClassFilter.accepts_union_pair,
        MethodMatcher.answer_union, MethodMatcher.guardAdmits, ← ihl, ← ihr]
      cases l.classFilter.accepts target <;> cases r.classFilter.accepts target <;> simp
  | not e ih =>
      simp only [classFilter, matcher, holdsOnTarget, ClassFilter.accepts_all, Bool.true_and,
        MethodMatcher.answer_not, MethodMatcher.answer_inter, ← ih]
      rfl

/-- A type that answers to every name of another is accepted by every pattern that accepts
the other. -/
theorem acceptsType_of_names_subset {p : NamePattern} {t u : TypeInfo}
    (h : t.names ⊆ u.names) (ht : p.acceptsType t = true) : p.acceptsType u = true := by
  simp only [NamePattern.acceptsType, List.any_eq_true] at ht ⊢
  obtain ⟨name, hname, hp⟩ := ht
  exact ⟨name, h hname, hp⟩

theorem admitsTarget_of_accepts {p : ExecutionPattern} (h : method.owner.names ⊆ target.names)
    (hp : p.accepts method target = true) : p.admitsTarget target = true := by
  simp only [ExecutionPattern.accepts, Bool.and_eq_true, ExecutionPattern.acceptsOwner] at hp
  simp only [ExecutionPattern.admitsTarget]
  split
  · rfl
  · next owner howner =>
      have ho := hp.1.1.1
      simp only [howner, Bool.or_eq_true] at ho
      exact ho.elim id (acceptsType_of_names_subset h)

/-- On a target that answers to every name of the declaring type, both readings agree. -/
theorem holdsOnTarget_eq_holds (e : Expr) (h : method.owner.names ⊆ target.names) :
    e.holdsOnTarget formals method target args = e.holds formals method target args := by
  induction e with
  | execution p =>
      change (p.admitsTarget target && p.accepts method target) = p.accepts method target
      cases hp : p.accepts method target with
      | false => simp
      | true => simp [admitsTarget_of_accepts h hp]
  | within p => rfl
  | args source patterns => rfl
  | and l r ihl ihr => simp only [holdsOnTarget, holds_and, ihl, ihr]
  | or l r ihl ihr => simp only [holdsOnTarget, holds_or, ihl, ihr]
  | not e ih => simp only [holdsOnTarget, holds_not, ih]

end Expr

namespace ExpressionPointcut

/-- Deciding a call in stages, by class filter, method and arguments, agrees with evaluating
the expression on it, whatever expression was read and whatever formal parameters it was
given. -/
theorem acceptsCall_agrees_with_captures (p : ExpressionPointcut) (method : Method)
    (target : TypeInfo) (args : List Value) (hlen : args.length = method.parameters.length)
    (hnames : method.owner.names ⊆ target.names) :
    ∃ verdict, p.toPointcut.acceptsCall method target args = .ok verdict ∧
      (verdict.answer = true ↔ (p.captures? method target args).isSome = true) := by
  obtain ⟨verdict, hv, ha⟩ :=
    Pointcut.acceptsCall_eq_selects (p := p.toPointcut) (p.root.matcher_staged hlen)
  refine ⟨verdict, hv, ?_⟩
  rw [ha, toPointcut, p.root.selects_eq_holdsOnTarget, p.root.holdsOnTarget_eq_holds hnames, captures?,
    p.root.captures?_isSome]

/-- A negated argument list behind a named pointcut, on a method of a supertype. -/
theorem acceptsCall_agrees_behind_reference :
    let root : Expr := .and (.within ⟨"Service"⟩) (.not (.args "id" [.named ⟨"id"⟩]))
    let p : ExpressionPointcut :=
      ⟨"services() && !args(id)", root, ⟨["id"], [.value (.ofRuntime .word32)]⟩⟩
    let method : Method := ⟨⟨"Orders", none, ["Service"]⟩, "find", [.any], none⟩
    let target : TypeInfo := ⟨"CachedOrders", none, ["Service", "Orders"]⟩
    (Expr.parse [("services", "within(app.Service)")] p.expression).toOption = some root ∧
      [Value.text "a"].length = method.parameters.length ∧ method.owner.names ⊆ target.names ∧
      ∃ verdict, p.toPointcut.acceptsCall method target [.text "a"] = .ok verdict ∧
        (verdict.answer = true ↔ (p.captures? method target [.text "a"]).isSome = true) :=
  ⟨by decide +kernel, rfl, by decide,
    acceptsCall_agrees_with_captures _ _ _ _ rfl (by decide)⟩

end ExpressionPointcut

end Weaving
