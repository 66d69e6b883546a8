import Weaving.Matching.Check
import Weaving.Proofs.MatcherStages

namespace Weaving

/-- How the conditions of a matcher are put together, whatever they are. -/
inductive MatcherShape where
  | static
  | dynamic
  | union (left right : MatcherShape)
  | inter (left right : MatcherShape)
  | not (inner : MatcherShape)

namespace MatcherShape

def isRuntime : MatcherShape → Bool
  | static => false
  | dynamic => true
  | union l r | inter l r => l.isRuntime || r.isRuntime
  | not s => s.isRuntime

/-- No condition on arguments stands below a negation or on the left of a union. -/
def isOrderly : MatcherShape → Bool
  | static | dynamic => true
  | union l r => !l.isRuntime && r.isOrderly
  | inter l r => l.isOrderly && r.isOrderly
  | not s => !s.isRuntime

theorem isRuntime_of_not_isOrderly {s : MatcherShape} (h : s.isOrderly = false) : s.isRuntime = true := by
  induction s with
  | static | dynamic => simp [isOrderly] at h
  | union l r _ ihr =>
      simp only [isOrderly, Bool.and_eq_false_iff, Bool.not_eq_false'] at h
      simp only [isRuntime, Bool.or_eq_true]
      exact h.imp id ihr
  | inter l r ihl ihr =>
      simp only [isOrderly, Bool.and_eq_false_iff] at h
      simp only [isRuntime, Bool.or_eq_true]
      exact h.imp ihl ihr
  | not s _ => simpa [isOrderly, isRuntime] using h

end MatcherShape

namespace MethodMatcher

variable {method : Method} {target : TypeInfo} {args : List Value}

def shape : MethodMatcher → MatcherShape
  | all | static _ _ | ofClass _ => .static
  | dynamic _ => .dynamic
  | union l _ r _ => .union l.shape r.shape
  | inter l r => .inter l.shape r.shape
  | not m => .not m.shape

theorem isRuntime_shape (m : MethodMatcher) : m.shape.isRuntime = m.isRuntime := by
  induction m with
  | all | static | dynamic | ofClass => rfl
  | union l f r g ihl ihr | inter l r ihl ihr => simp [shape, isRuntime, MatcherShape.isRuntime, ihl, ihr]
  | not m ih => simp [shape, isRuntime, MatcherShape.isRuntime, ih]

/-- Every leaf whose second part is checked for the verdict passes its first part. -/
def ProbesFollow (m : MethodMatcher) (method : Method) (target : TypeInfo) (args : List Value) : Prop :=
  ∀ d ∈ (m.evaluate method target args).probes, d.staticCheck method target = true

theorem probesFollow_of_not_isRuntime {m : MethodMatcher} (h : m.isRuntime = false) :
    m.ProbesFollow method target args := by
  intro d hd
  rw [evaluate_of_not_isRuntime h] at hd
  exact absurd hd List.not_mem_nil

/-- The right side of a union is reached only if the left side refuses. Without a condition on
arguments the left side refuses at both stages, so that the first stage passed on the right. -/
theorem probesFollow_of_accepts {m : MethodMatcher} (hm : m.shape.isOrderly = true)
    (h : m.accepts method target = true) : m.ProbesFollow method target args := by
  induction m with
  | all | static | ofClass => exact probesFollow_of_not_isRuntime rfl
  | dynamic leaf =>
      intro d hd
      obtain rfl := List.mem_singleton.1 hd
      exact h
  | union l f r g _ ihr =>
      simp only [shape, MatcherShape.isOrderly, Bool.and_eq_true, Bool.not_eq_true', isRuntime_shape] at hm
      obtain ⟨hl, hr⟩ := hm
      intro d hd
      simp only [evaluate, evaluate_of_not_isRuntime hl] at hd
      simp only [accepts] at h
      cases hleft : guardAdmits f target && l.accepts method target with
      | true =>
          rw [Bool.and_eq_true] at hleft
          simp [hleft] at hd
      | false =>
          rw [hleft, Bool.false_or, Bool.and_eq_true] at h
          apply ihr hr h.2
          cases hf : guardAdmits f target <;> simp_all
  | inter l r ihl ihr =>
      simp only [shape, MatcherShape.isOrderly, Bool.and_eq_true] at hm
      simp only [accepts, Bool.and_eq_true] at h
      intro d hd
      exact (List.mem_append.1 hd).elim (ihl hm.1 h.1 d) (ihr hm.2 h.2 d)
  | not m _ =>
      simp only [shape, MatcherShape.isOrderly, Bool.not_eq_true', isRuntime_shape] at hm
      exact probesFollow_of_not_isRuntime hm

/-- A shape without a condition on arguments can give either answer. -/
theorem exists_shape_accepts_eq (method : Method) (target : TypeInfo) {s : MatcherShape}
    (h : s.isRuntime = false) (answer : Bool) :
    ∃ m : MethodMatcher, m.shape = s ∧ m.accepts method target = answer := by
  induction s generalizing answer with
  | static => exact ⟨.static "" fun _ _ => answer, rfl, rfl⟩
  | dynamic => simp [MatcherShape.isRuntime] at h
  | union l r ihl ihr =>
      simp only [MatcherShape.isRuntime, Bool.or_eq_false_iff] at h
      obtain ⟨l, rfl, hl⟩ := ihl h.1 answer
      obtain ⟨r, rfl, hr⟩ := ihr h.2 answer
      exact ⟨.union l none r none, rfl, by simp [accepts, guardAdmits, hl, hr]⟩
  | inter l r ihl ihr =>
      simp only [MatcherShape.isRuntime, Bool.or_eq_false_iff] at h
      obtain ⟨l, rfl, hl⟩ := ihl h.1 answer
      obtain ⟨r, rfl, hr⟩ := ihr h.2 answer
      exact ⟨.inter l r, rfl, by simp [accepts, hl, hr]⟩
  | not s ih =>
      obtain ⟨m, rfl, hm⟩ := ih h (!answer)
      have hr : m.isRuntime = false := by rwa [← isRuntime_shape]
      exact ⟨.not m, rfl, by simp [accepts, hr, hm]⟩

theorem exists_shape_accepts (method : Method) (target : TypeInfo) (s : MatcherShape) :
    ∃ m : MethodMatcher, m.shape = s ∧ m.accepts method target = true := by
  induction s with
  | static => exact ⟨.all, rfl, rfl⟩
  | dynamic => exact ⟨.dynamic ⟨"", none, fun _ _ => true, fun _ _ _ => true⟩, rfl, rfl⟩
  | union l r ihl ihr =>
      obtain ⟨l, rfl, hl⟩ := ihl
      obtain ⟨r, rfl, -⟩ := ihr
      exact ⟨.union l none r none, rfl, by simp [accepts, guardAdmits, hl]⟩
  | inter l r ihl ihr =>
      obtain ⟨l, rfl, hl⟩ := ihl
      obtain ⟨r, rfl, hr⟩ := ihr
      exact ⟨.inter l r, rfl, by simp [accepts, hl, hr]⟩
  | not s ih =>
      cases hs : s.isRuntime with
      | true =>
          obtain ⟨m, rfl, -⟩ := ih
          exact ⟨.not m, rfl, by simp [accepts, ← isRuntime_shape, hs]⟩
      | false => exact exists_shape_accepts_eq method target (s := .not s) hs true

section Probes

variable {l r : MethodMatcher}

theorem ProbesFollow.left_of_union (h : (union l none r none).ProbesFollow method target args) :
    l.ProbesFollow method target args := by
  intro d hd
  apply h d
  simp only [evaluate, guardAdmits, if_true]
  split
  · exact hd
  · exact List.mem_append_left _ hd

theorem ProbesFollow.right_of_union (h : (union l none r none).ProbesFollow method target args)
    (hl : l.isRuntime = false) (hrefuse : l.accepts method target = false) :
    r.ProbesFollow method target args := by
  intro d hd
  apply h d
  simpa [evaluate, guardAdmits, evaluate_of_not_isRuntime hl, hrefuse] using hd

theorem ProbesFollow.left_of_inter (h : (inter l r).ProbesFollow method target args) :
    l.ProbesFollow method target args := fun d hd => h d (List.mem_append_left _ hd)

theorem ProbesFollow.right_of_inter (h : (inter l r).ProbesFollow method target args) :
    r.ProbesFollow method target args := fun d hd => h d (List.mem_append_right _ hd)

end Probes

/-- In any shape a condition on arguments can be checked out of turn. If the shape is not
orderly, this can happen although the first stage lets the call through. -/
theorem exists_shape_not_probesFollow (method : Method) (target : TypeInfo) (args : List Value)
    {s : MatcherShape} (h : s.isRuntime = true) :
    ∃ m : MethodMatcher, m.shape = s ∧ ¬ m.ProbesFollow method target args ∧
      (s.isOrderly = false → m.accepts method target = true) := by
  induction s with
  | static => simp [MatcherShape.isRuntime] at h
  | dynamic =>
      refine ⟨.dynamic ⟨"", none, fun _ _ => false, fun _ _ _ => false⟩, rfl, fun hp => ?_, nofun⟩
      exact absurd (hp _ (List.mem_singleton_self _)) Bool.false_ne_true
  | union l r ihl ihr =>
      cases hl : l.isRuntime with
      | true =>
          obtain ⟨l, rfl, hp, -⟩ := ihl hl
          obtain ⟨r, rfl, hr⟩ := exists_shape_accepts method target r
          exact ⟨.union l none r none, rfl, fun hu => hp hu.left_of_union,
            fun _ => by simp [accepts, guardAdmits, hr]⟩
      | false =>
          obtain ⟨l, rfl, hrefuse⟩ := exists_shape_accepts_eq method target hl false
          obtain ⟨r, rfl, hp, hr⟩ := ihr (by simpa [MatcherShape.isRuntime, hl] using h)
          have hl' : l.isRuntime = false := by rwa [← isRuntime_shape]
          refine ⟨.union l none r none, rfl, fun hu => hp (hu.right_of_union hl' hrefuse), fun hs => ?_⟩
          have hr := hr (by simpa [MatcherShape.isOrderly, hl] using hs)
          simp [accepts, guardAdmits, hr]
  | inter l r ihl ihr =>
      obtain ⟨l₀, hl₀, hl₁⟩ := exists_shape_accepts method target l
      obtain ⟨r₀, hr₀, hr₁⟩ := exists_shape_accepts method target r
      -- The side out of turn is one that is not orderly, if there is one.
      by_cases hside : r.isRuntime = true ∧ l.isOrderly = true
      · obtain ⟨r, rfl, hp, hr⟩ := ihr hside.1
        refine ⟨.inter l₀ r, by rw [shape, hl₀], fun hi => hp hi.right_of_inter, fun hs => ?_⟩
        have hr := hr (by simpa [MatcherShape.isOrderly, hside.2] using hs)
        simp [accepts, hr, hl₁]
      · have hl : l.isRuntime = true := by
          cases hlo : l.isOrderly with
          | false => exact MatcherShape.isRuntime_of_not_isOrderly hlo
          | true => simp_all [MatcherShape.isRuntime]
        obtain ⟨l, rfl, hp, hl⟩ := ihl hl
        refine ⟨.inter l r₀, by rw [shape, hr₀], fun hi => hp hi.left_of_inter, fun hs => ?_⟩
        have hl := hl (by
          cases hlo : l.shape.isOrderly with
          | false => rfl
          | true =>
              have hr : r.isOrderly = false := by simpa [MatcherShape.isOrderly, hlo] using hs
              exact absurd ⟨MatcherShape.isRuntime_of_not_isOrderly hr, hlo⟩ hside)
        simp [accepts, hl, hr₁]
  | not s ih =>
      obtain ⟨m, rfl, hp, -⟩ := ih h
      have hr : m.isRuntime = true := by rwa [← isRuntime_shape]
      exact ⟨.not m, rfl, hp, fun _ => by simp [accepts, hr]⟩

end MethodMatcher

namespace Pointcut

variable {method : Method} {target : TypeInfo} {args : List Value}

theorem probes_acceptsCall {p : Pointcut} {verdict : Verdict}
    (h : p.acceptsCall method target args = .ok verdict) :
    verdict.probes = [] ∨
      p.matcher.accepts method target = true ∧ verdict = p.matcher.evaluate method target args := by
  simp only [acceptsCall, MethodMatcher.acceptsArgs] at h
  split at h
  · exact .inl (congrArg Verdict.probes (Except.ok.inj h).symm)
  · next hc =>
      split at h
      · simp only [canApply, Bool.not_eq_true', Bool.not_eq_false, Bool.and_eq_true] at hc
        exact .inr ⟨hc.2, (Except.ok.inj h).symm⟩
      · exact .inl (congrArg Verdict.probes (Except.ok.inj h).symm)

/-- The second part of a condition is checked only where the first part passes, whatever the
conditions are, exactly if they are put together orderly. -/
theorem static_check_first_iff_isOrderly (s : MatcherShape) (method : Method) (target : TypeInfo)
    (args : List Value) :
    (∀ p : Pointcut, p.matcher.shape = s → ∀ verdict, p.acceptsCall method target args = .ok verdict →
      ∀ d ∈ verdict.probes, d.staticCheck method target = true) ↔ s.isOrderly = true := by
  constructor
  · intro h
    cases hs : s.isOrderly with
    | true => rfl
    | false =>
        have hruntime := MatcherShape.isRuntime_of_not_isOrderly hs
        obtain ⟨m, rfl, hprobes, haccepts⟩ :=
          MethodMatcher.exists_shape_not_probesFollow method target args hruntime
        rw [MethodMatcher.isRuntime_shape] at hruntime
        refine absurd (h ⟨.all, m⟩ rfl (m.evaluate method target args) ?_) hprobes
        simp [acceptsCall, canApply, haccepts hs, MethodMatcher.acceptsArgs, hruntime]
  · rintro hs p rfl verdict hv d hd
    rcases probes_acceptsCall hv with hnone | ⟨haccepts, rfl⟩
    · rw [hnone] at hd
      exact absurd hd List.not_mem_nil
    · exact MethodMatcher.probesFollow_of_accepts hs haccepts d hd

/-- `known` lets the method through, and the arguments are held against `large` first, which
refuses the method. -/
theorem refused_condition_checked_in_union :
    let large : DynamicMatcher := ⟨"large", some "large", (MethodCheck.arity 2).holds,
      fun _ _ => (CallCheck.exceeds 1 10).holds⟩
    let known : DynamicMatcher := ⟨"known", some "known", (MethodCheck.arity 1).holds,
      fun _ _ => (CallCheck.arity 1).holds⟩
    let p : Pointcut := ⟨.all, .union (.dynamic large) none (.dynamic known) none⟩
    let find : Method := ⟨.ofName "Accounts", "find", [.ofName "Id"], none⟩
    large.staticCheck find find.owner = false ∧
      (p.acceptsCall find find.owner [.word32 7]).map
        (fun verdict => DynamicMatcher.tally verdict.probes "large") = .ok 1 :=
  ⟨rfl, rfl⟩

end Pointcut

end Weaving
