import Weaving.Matching.Check
import Weaving.Proofs.MatcherStages

namespace Weaving

namespace MethodMatcher

variable {method : Method} {target : TypeInfo} {args : List Value}

/-- The Boolean reading of a matcher on a call. A condition on arguments counts as its second
part, and a side of a union counts on the types that its filter admits. -/
def reading (method : Method) (target : TypeInfo) (args : List Value) : MethodMatcher → Bool
  | all => true
  | static _ check => check method target
  | dynamic leaf => leaf.runtimeCheck method target args
  | ofClass filter => filter.accepts target
  | union l f r g =>
    (guardAdmits f target && l.reading method target args) ||
      (guardAdmits g target && r.reading method target args)
  | inter l r => l.reading method target args && r.reading method target args
  | not m => !m.reading method target args

theorem answer_evaluate (m : MethodMatcher) :
    (m.evaluate method target args).answer = m.reading method target args := by
  induction m with
  | all | static | dynamic | ofClass => rfl
  | union l f r g ihl ihr => rw [answer_union, ihl, ihr, reading]
  | inter l r ihl ihr => rw [answer_inter, ihl, ihr, reading]
  | not m ih => rw [answer_not, ih, reading]

theorem isRuntime_iff_leaves (m : MethodMatcher) : m.isRuntime = true ↔ m.leaves ≠ [] := by
  induction m with
  | all | static | ofClass => simp [isRuntime, leaves]
  | dynamic leaf => simp [isRuntime, leaves]
  | union l f r g ihl ihr | inter l r ihl ihr =>
      simp only [isRuntime, leaves, Bool.or_eq_true, ihl, ihr, ne_eq, List.append_eq_nil_iff]
      exact Classical.not_and_iff_not_or_not.symm
  | not m ih => simpa only [isRuntime, leaves] using ih

theorem isRuntime_eq_false_of_leaves {m : MethodMatcher} (h : m.leaves = []) : m.isRuntime = false :=
  Bool.eq_false_iff.2 fun hr => m.isRuntime_iff_leaves.1 hr h

theorem acceptsArgs_of_leaves {m : MethodMatcher} (h : m.leaves ≠ []) :
    (m.acceptsArgs method target args).map Verdict.answer = .ok (m.reading method target args) := by
  rw [acceptsArgs, if_pos (m.isRuntime_iff_leaves.2 h), ← answer_evaluate]
  rfl

theorem acceptsArgs_of_no_leaves {m : MethodMatcher} (h : m.leaves = []) :
    m.acceptsArgs method target args = .error (.usage ("static method matcher " ++ m.render ++
      " cannot be evaluated against runtime arguments")) := by
  rw [acceptsArgs, if_neg (by simp [isRuntime_eq_false_of_leaves h])]

theorem reading_eq_accepts {m : MethodMatcher} (h : m.leaves = []) :
    m.reading method target args = m.accepts method target := by
  rw [← answer_evaluate, evaluate_of_not_isRuntime (isRuntime_eq_false_of_leaves h)]

end MethodMatcher

namespace Pointcut

variable {method : Method} {target : TypeInfo} {args : List Value} {p q : Pointcut}

theorem selects_eq_reading (p : Pointcut) : p.selects method target args =
    (p.classFilter.accepts target && p.matcher.reading method target args) := by
  rw [selects, MethodMatcher.answer_evaluate]

theorem staged_union (hp : p.matcher.Staged method target args) (hq : q.matcher.Staged method target args) :
    (p.union q).matcher.Staged method target args :=
  fun d hd => (List.mem_append.1 hd).elim (hp d) (hq d)

theorem staged_inter (hp : p.matcher.Staged method target args) (hq : q.matcher.Staged method target args) :
    (p.inter q).matcher.Staged method target args :=
  fun d hd => (List.mem_append.1 hd).elim (hp d) (hq d)

/-- The guards of a union are the class filters of its sides, so the filter of the union asks for
nothing that the guards do not. -/
theorem selects_union (p q : Pointcut) : (p.union q).selects method target args =
    (p.selects method target args || q.selects method target args) := by
  simp only [selects_eq_reading, union, ClassFilter.accepts_union_pair, MethodMatcher.reading,
    MethodMatcher.guardAdmits]
  cases p.classFilter.accepts target <;> cases q.classFilter.accepts target <;> simp

theorem selects_inter (p q : Pointcut) : (p.inter q).selects method target args =
    (p.selects method target args && q.selects method target args) := by
  simp only [selects_eq_reading, inter, ClassFilter.accepts_inter_pair, MethodMatcher.reading]
  ac_rfl

theorem answer_acceptsCall (hp : p.matcher.Staged method target args) :
    (p.acceptsCall method target args).map Verdict.answer = .ok (p.selects method target args) := by
  obtain ⟨verdict, hv, ha⟩ := acceptsCall_eq_selects hp
  rw [hv, ← ha]
  rfl

end Pointcut

/-- Matching is Boolean. With arguments a matcher answers by its reading and refuses to be asked
if it does not look at arguments; without arguments it lets through whatever the reading does,
and nothing else if it does not look at arguments. A call is in the union of two pointcuts if it
is in one of them, and in their intersection if it is in both. -/
theorem matching_is_boolean (method : Method) (target : TypeInfo) (args : List Value) :
    (∀ m : MethodMatcher, m.Staged method target args →
      (m.leaves ≠ [] →
        (m.acceptsArgs method target args).map Verdict.answer = .ok (m.reading method target args)) ∧
      (m.leaves = [] → m.acceptsArgs method target args = .error (.usage ("static method matcher " ++
        m.render ++ " cannot be evaluated against runtime arguments"))) ∧
      (m.reading method target args = true → m.accepts method target = true) ∧
      (m.leaves = [] → m.reading method target args = m.accepts method target)) ∧
    (∀ p q : Pointcut, p.matcher.Staged method target args → q.matcher.Staged method target args →
      ∃ inP inQ,
        (p.acceptsCall method target args).map Verdict.answer = .ok inP ∧
        (q.acceptsCall method target args).map Verdict.answer = .ok inQ ∧
        ((p.union q).acceptsCall method target args).map Verdict.answer = .ok (inP || inQ) ∧
        ((p.inter q).acceptsCall method target args).map Verdict.answer = .ok (inP && inQ)) := by
  constructor
  · intro m hm
    refine ⟨MethodMatcher.acceptsArgs_of_leaves, MethodMatcher.acceptsArgs_of_no_leaves, ?_,
      MethodMatcher.reading_eq_accepts⟩
    rw [← MethodMatcher.answer_evaluate]
    exact MethodMatcher.accepts_of_answer hm
  · intro p q hp hq
    refine ⟨p.selects method target args, q.selects method target args,
      Pointcut.answer_acceptsCall hp, Pointcut.answer_acceptsCall hq, ?_, ?_⟩
    · rw [Pointcut.answer_acceptsCall (Pointcut.staged_union hp hq), Pointcut.selects_union]
    · rw [Pointcut.answer_acceptsCall (Pointcut.staged_inter hp hq), Pointcut.selects_inter]

/-- Small transfers, which a negated condition on arguments selects, beside the look-ups of
services. -/
theorem matching_is_boolean_on_small_transfers :
    let large : DynamicMatcher :=
      ⟨"large", none, (MethodCheck.arity 1).holds, fun _ _ => (CallCheck.exceeds 0 10).holds⟩
    let small : Pointcut := ⟨.exact "Accounts", .not (.dynamic large)⟩
    let lookups : Pointcut := ⟨.pattern ⟨"*Service"⟩, .ofName "find*"⟩
    let transfer : Method := ⟨.ofName "Accounts", "transfer", [.ofRuntime .word32], none⟩
    let args : List Value := [.word32 7]
    small.matcher.Staged transfer transfer.owner args ∧
      lookups.matcher.Staged transfer transfer.owner args ∧
      (small.matcher.acceptsArgs transfer transfer.owner args).map Verdict.answer = .ok true ∧
      ∃ inSmall inLookups,
        (small.acceptsCall transfer transfer.owner args).map Verdict.answer = .ok inSmall ∧
        (lookups.acceptsCall transfer transfer.owner args).map Verdict.answer = .ok inLookups ∧
        ((small.union lookups).acceptsCall transfer transfer.owner args).map Verdict.answer =
          .ok (inSmall || inLookups) ∧
        ((small.inter lookups).acceptsCall transfer transfer.owner args).map Verdict.answer =
          .ok (inSmall && inLookups) := by
  intro large small lookups transfer args
  have hsmall : small.matcher.Staged transfer transfer.owner args := by
    intro d hd _
    obtain rfl := List.mem_singleton.1 hd
    rfl
  have hlookups : lookups.matcher.Staged transfer transfer.owner args := nofun
  have h := matching_is_boolean transfer transfer.owner args
  exact ⟨hsmall, hlookups, (h.1 small.matcher hsmall).1 (List.cons_ne_nil _ _),
    h.2 small lookups hsmall hlookups⟩

end Weaving
