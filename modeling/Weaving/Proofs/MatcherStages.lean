import Weaving.Matching.Pointcut

namespace Weaving

namespace ClassFilter

@[simp] theorem accepts_all (t : TypeInfo) : all.accepts t = true := by simp [accepts]

@[simp] theorem accepts_pattern (p : NamePattern) (t : TypeInfo) :
    (pattern p).accepts t = p.acceptsType t := by simp [accepts]

@[simp] theorem accepts_union_pair (f g : ClassFilter) (t : TypeInfo) :
    (union [f, g]).accepts t = (f.accepts t || g.accepts t) := by simp [accepts, someAccepts]

@[simp] theorem accepts_inter_pair (f g : ClassFilter) (t : TypeInfo) :
    (inter [f, g]).accepts t = (f.accepts t && g.accepts t) := by simp [accepts, everyAccepts]

end ClassFilter

namespace MethodMatcher

variable {method : Method} {target : TypeInfo} {args : List Value}

/-- The conditions on arguments in a matcher, from left to right. -/
def leaves : MethodMatcher → List DynamicMatcher
  | dynamic leaf => [leaf]
  | union left _ right _ | inter left right => left.leaves ++ right.leaves
  | not inner => inner.leaves
  | all | static _ _ | ofClass _ => []

/-- On a call, what passes the second part of a condition passes its first part. -/
def Staged (m : MethodMatcher) (method : Method) (target : TypeInfo) (args : List Value) : Prop :=
  ∀ d ∈ m.leaves, d.runtimeCheck method target args = true → d.staticCheck method target = true

theorem Staged.left_of_union {l r : MethodMatcher} {f g : Option ClassFilter}
    (h : (union l f r g).Staged method target args) : l.Staged method target args :=
  fun d hd => h d (List.mem_append_left _ hd)

theorem Staged.right_of_union {l r : MethodMatcher} {f g : Option ClassFilter}
    (h : (union l f r g).Staged method target args) : r.Staged method target args :=
  fun d hd => h d (List.mem_append_right _ hd)

theorem Staged.left_of_inter {l r : MethodMatcher}
    (h : (inter l r).Staged method target args) : l.Staged method target args :=
  fun d hd => h d (List.mem_append_left _ hd)

theorem Staged.right_of_inter {l r : MethodMatcher}
    (h : (inter l r).Staged method target args) : r.Staged method target args :=
  fun d hd => h d (List.mem_append_right _ hd)

theorem answer_union (l r : MethodMatcher) (f g : Option ClassFilter) :
    ((union l f r g).evaluate method target args).answer =
      (guardAdmits f target && (l.evaluate method target args).answer ||
        guardAdmits g target && (r.evaluate method target args).answer) := by
  simp only [evaluate]
  cases guardAdmits f target <;> cases guardAdmits g target <;>
    cases h : (l.evaluate method target args).answer <;> simp [h]

theorem answer_inter (l r : MethodMatcher) :
    ((inter l r).evaluate method target args).answer =
      ((l.evaluate method target args).answer && (r.evaluate method target args).answer) := rfl

theorem answer_not (m : MethodMatcher) :
    (m.not.evaluate method target args).answer = !(m.evaluate method target args).answer := rfl

/-- Without a condition on arguments the two decisions agree and nothing is probed. -/
theorem evaluate_of_not_isRuntime {m : MethodMatcher} (h : m.isRuntime = false) :
    m.evaluate method target args = ⟨m.accepts method target, []⟩ := by
  induction m with
  | all | static | ofClass => rfl
  | dynamic => simp [isRuntime] at h
  | union l f r g ihl ihr =>
      simp only [isRuntime, Bool.or_eq_false_iff] at h
      simp only [evaluate, accepts, ihl h.1, ihr h.2]
      cases guardAdmits f target <;> cases guardAdmits g target <;>
        cases l.accepts method target <;> simp
  | inter l r ihl ihr =>
      simp only [isRuntime, Bool.or_eq_false_iff] at h
      simp [evaluate, accepts, ihl h.1, ihr h.2]
  | not m ih =>
      have hm : m.isRuntime = false := h
      simp [evaluate, accepts, ih hm, hm]

/-- The decision without arguments lets through whatever the arguments allow. A negation
passes either because it cannot be decided yet, or because both decisions agree below it. -/
theorem accepts_of_answer {m : MethodMatcher} (hm : m.Staged method target args)
    (h : (m.evaluate method target args).answer = true) : m.accepts method target = true := by
  induction m with
  | all => rfl
  | static | ofClass => exact h
  | dynamic leaf => exact hm leaf (List.mem_singleton_self leaf) h
  | union l f r g ihl ihr =>
      simp only [answer_union, Bool.or_eq_true, Bool.and_eq_true] at h
      simp only [accepts, Bool.or_eq_true, Bool.and_eq_true]
      exact h.imp (fun hl => ⟨hl.1, ihl hm.left_of_union hl.2⟩)
        (fun hr => ⟨hr.1, ihr hm.right_of_union hr.2⟩)
  | inter l r ihl ihr =>
      simp only [answer_inter, Bool.and_eq_true] at h
      simp only [accepts, Bool.and_eq_true]
      exact ⟨ihl hm.left_of_inter h.1, ihr hm.right_of_inter h.2⟩
  | not m _ =>
      cases hr : m.isRuntime with
      | true => simp [accepts, hr]
      | false =>
          rw [answer_not, evaluate_of_not_isRuntime hr] at h
          simpa [accepts, hr] using h

end MethodMatcher

namespace Pointcut

variable {method : Method} {target : TypeInfo} {args : List Value}

/-- The reading of a pointcut on a call: its two conditions at once. -/
def selects (p : Pointcut) (method : Method) (target : TypeInfo) (args : List Value) : Bool :=
  p.classFilter.accepts target && (p.matcher.evaluate method target args).answer

theorem canApply_of_selects {p : Pointcut} (hp : p.matcher.Staged method target args)
    (h : p.selects method target args = true) : p.canApply method target = true := by
  simp only [selects, Bool.and_eq_true] at h
  simp only [canApply, Bool.and_eq_true]
  exact ⟨h.1, MethodMatcher.accepts_of_answer hp h.2⟩

theorem selects_of_canApply {p : Pointcut} (hr : p.matcher.isRuntime = false)
    (h : p.canApply method target = true) : p.selects method target args = true := by
  simpa [selects, canApply, MethodMatcher.evaluate_of_not_isRuntime hr] using h

/-- Deciding a call in two stages gives the reading of the pointcut and is never a
mistake of the caller. -/
theorem acceptsCall_eq_selects {p : Pointcut} (hp : p.matcher.Staged method target args) :
    ∃ verdict, p.acceptsCall method target args = .ok verdict ∧
      verdict.answer = p.selects method target args := by
  cases hc : p.canApply method target with
  | false =>
      refine ⟨⟨false, []⟩, by simp [acceptsCall, hc], ?_⟩
      cases hs : p.selects method target args with
      | false => rfl
      | true => simp [canApply_of_selects hp hs] at hc
  | true =>
      cases hr : p.matcher.isRuntime with
      | false =>
          exact ⟨⟨true, []⟩, by simp [acceptsCall, hc, hr], (selects_of_canApply hr hc).symm⟩
      | true =>
          refine ⟨p.matcher.evaluate method target args,
            by simp [acceptsCall, MethodMatcher.acceptsArgs, hc, hr], ?_⟩
          simp only [canApply, Bool.and_eq_true] at hc
          simp [selects, hc.1]

end Pointcut

end Weaving
