import Mathlib.Data.List.Nodup
import Weaving.Proofs.CheckOrder
import Weaving.Proofs.MatcherAlgebra

namespace Weaving

namespace MethodMatcher

/-- A step from a matcher to one of its operands. -/
inductive Branch where
  | unionLeft | unionRight | interLeft | interRight | negated
  deriving DecidableEq

def Branch.isUnion : Branch → Bool
  | unionLeft | unionRight => true
  | interLeft | interRight | negated => false

/-- A condition on arguments at its place in a matcher. One condition can stand at several places. -/
structure Occurrence where
  path : List Branch
  leaf : DynamicMatcher

def behind (b : Branch) (places : List Occurrence) : List Occurrence :=
  places.map fun o => ⟨b :: o.path, o.leaf⟩

/-- The condition on arguments at the end of a path. -/
def leafAt? : MethodMatcher → List Branch → Option DynamicMatcher
  | dynamic leaf, [] => some leaf
  | union l _ _ _, .unionLeft :: path | inter l _, .interLeft :: path => l.leafAt? path
  | union _ _ r _, .unionRight :: path | inter _ r, .interRight :: path => r.leafAt? path
  | not m, .negated :: path => m.leafAt? path
  | _, _ => none

/-- The conditions on arguments at their places, from left to right. -/
def occurrences : MethodMatcher → List Occurrence
  | dynamic leaf => [⟨[], leaf⟩]
  | union l _ r _ => behind .unionLeft l.occurrences ++ behind .unionRight r.occurrences
  | inter l r => behind .interLeft l.occurrences ++ behind .interRight r.occurrences
  | not m => behind .negated m.occurrences
  | all | static _ _ | ofClass _ => []

/-- Whether a call is held against the condition at the end of a path. A side of a union is passed over
on the types that its filter does not admit, and the right side also if the left one accepts the call. -/
def reaches (method : Method) (target : TypeInfo) (args : List Value) : MethodMatcher → List Branch → Bool
  | dynamic _, [] => true
  | union l f _ _, .unionLeft :: path => guardAdmits f target && l.reaches method target args path
  | union l f r g, .unionRight :: path =>
    !(guardAdmits f target && l.reading method target args) && guardAdmits g target &&
      r.reaches method target args path
  | inter l _, .interLeft :: path => l.reaches method target args path
  | inter _ r, .interRight :: path => r.reaches method target args path
  | not m, .negated :: path => m.reaches method target args path
  | _, _ => false

/-- The places that a call is held against. -/
def reached (m : MethodMatcher) (method : Method) (target : TypeInfo) (args : List Value) : List Occurrence :=
  m.occurrences.filter fun o => m.reaches method target args o.path

/-- The conditions that were checked for an answer. A mistake of the caller is noticed before any is. -/
def checksOf : Except EngineError Verdict → List DynamicMatcher
  | .ok verdict => verdict.probes
  | .error _ => []

/-- The matcher with other conditions on arguments in place of its own. -/
def recheck (check : DynamicMatcher → Method → TypeInfo → List Value → Bool) : MethodMatcher → MethodMatcher
  | dynamic leaf => dynamic { leaf with runtimeCheck := check leaf }
  | union l f r g => union (l.recheck check) f (r.recheck check) g
  | inter l r => inter (l.recheck check) (r.recheck check)
  | not m => not (m.recheck check)
  | m => m

variable {method : Method} {target : TypeInfo} {args : List Value}

section Places

theorem path_behind (b : Branch) (places : List Occurrence) :
    (behind b places).map Occurrence.path = (places.map Occurrence.path).map (b :: ·) := by
  rw [behind, List.map_map, List.map_map]
  rfl

theorem leaf_behind (b : Branch) (places : List Occurrence) :
    (behind b places).map Occurrence.leaf = places.map Occurrence.leaf := by
  rw [behind, List.map_map]
  rfl

theorem nodup_behind {paths : List (List Branch)} (h : paths.Nodup) (b : Branch) : (paths.map (b :: ·)).Nodup :=
  h.map (List.cons_injective)

theorem nodup_behind_append {paths others : List (List Branch)} {b b' : Branch} (h : paths.Nodup)
    (h' : others.Nodup) (hne : b ≠ b') : (paths.map (b :: ·) ++ others.map (b' :: ·)).Nodup := by
  refine List.nodup_append.2 ⟨nodup_behind h b, nodup_behind h' b', fun p hp q hq heq => ?_⟩
  obtain ⟨p, -, rfl⟩ := List.mem_map.1 hp
  obtain ⟨q, -, rfl⟩ := List.mem_map.1 hq
  exact hne (List.cons.inj heq).1

/-- Paths to different places are different. -/
theorem nodup_paths (m : MethodMatcher) : (m.occurrences.map Occurrence.path).Nodup := by
  induction m with
  | all | static | ofClass => exact List.nodup_nil
  | dynamic leaf => exact List.nodup_singleton _
  | union l f r g ihl ihr | inter l r ihl ihr =>
      rw [occurrences, List.map_append, path_behind, path_behind]
      exact nodup_behind_append ihl ihr (by decide)
  | not m ih =>
      rw [occurrences, path_behind]
      exact nodup_behind ih _

theorem mem_behind {b : Branch} {places : List Occurrence} {o : Occurrence} (h : o ∈ places) :
    ⟨b :: o.path, o.leaf⟩ ∈ behind b places := List.mem_map_of_mem h

theorem mem_occurrences {m : MethodMatcher} {path : List Branch} {leaf : DynamicMatcher}
    (h : m.leafAt? path = some leaf) : ⟨path, leaf⟩ ∈ m.occurrences := by
  fun_induction leafAt? m path with
  | case1 own =>
      obtain rfl := Option.some.inj h
      exact List.mem_singleton_self _
  | case2 l f r g path ih | case3 l r path ih => exact List.mem_append_left _ (mem_behind (ih h))
  | case4 l f r g path ih | case5 l r path ih => exact List.mem_append_right _ (mem_behind (ih h))
  | case6 m path ih => exact mem_behind (ih h)
  | case7 => cases h

theorem leafAt?_of_mem {m : MethodMatcher} {o : Occurrence} (h : o ∈ m.occurrences) :
    m.leafAt? o.path = some o.leaf := by
  induction m generalizing o with
  | all | static | ofClass => cases h
  | dynamic leaf =>
      obtain rfl := List.mem_singleton.1 h
      rfl
  | union l f r g ihl ihr | inter l r ihl ihr =>
      rcases List.mem_append.1 h with h | h
      · obtain ⟨o, ho, rfl⟩ := List.mem_map.1 h
        exact ihl ho
      · obtain ⟨o, ho, rfl⟩ := List.mem_map.1 h
        exact ihr ho
  | not m ih =>
      obtain ⟨o, ho, rfl⟩ := List.mem_map.1 h
      exact ih ho

end Places

theorem filter_behind {m inner : MethodMatcher} {b : Branch} {admitted : Bool} (places : List Occurrence)
    (h : ∀ path, m.reaches method target args (b :: path) = (admitted && inner.reaches method target args path)) :
    (behind b places).filter (fun o => m.reaches method target args o.path) =
      if admitted then behind b (places.filter fun o => inner.reaches method target args o.path) else [] := by
  rw [behind, List.filter_map]
  cases admitted <;> simp [behind, Function.comp_def, h]

theorem reached_union (l r : MethodMatcher) (f g : Option ClassFilter) :
    (union l f r g).reached method target args =
      (if guardAdmits f target then behind .unionLeft (l.reached method target args) else []) ++
        if !(guardAdmits f target && l.reading method target args) && guardAdmits g target then
          behind .unionRight (r.reached method target args)
        else [] := by
  rw [reached, occurrences, List.filter_append, filter_behind _ fun _ => rfl, filter_behind _ fun _ => rfl]
  rfl

theorem reached_inter (l r : MethodMatcher) :
    (inter l r).reached method target args =
      behind .interLeft (l.reached method target args) ++ behind .interRight (r.reached method target args) := by
  rw [reached, occurrences, List.filter_append, behind, behind, List.filter_map, List.filter_map]
  rfl

theorem reached_not (m : MethodMatcher) :
    m.not.reached method target args = behind .negated (m.reached method target args) := by
  rw [reached, occurrences, behind, List.filter_map]
  rfl

/-- The conditions that are checked for a verdict are those at the places that the call is held against. -/
theorem probes_evaluate (m : MethodMatcher) :
    (m.evaluate method target args).probes = (m.reached method target args).map Occurrence.leaf := by
  induction m with
  | all | static | dynamic | ofClass => rfl
  | union l f r g ihl ihr =>
      rw [reached_union, List.map_append]
      simp only [evaluate]
      cases guardAdmits f target <;> cases guardAdmits g target <;>
        cases hl : l.reading method target args <;> simp [hl, answer_evaluate, leaf_behind, ihl, ihr]
  | inter l r ihl ihr =>
      rw [reached_inter, List.map_append, leaf_behind, leaf_behind, ← ihl, ← ihr]
      rfl
  | not m ih =>
      rw [reached_not, leaf_behind, ← ih]
      rfl

/-- What does not stand in a union is reached, whatever stands beside it. -/
theorem reaches_of_no_union {m : MethodMatcher} {path : List Branch} {leaf : DynamicMatcher}
    (h : m.leafAt? path = some leaf) (hpath : ∀ b ∈ path, b.isUnion = false) :
    m.reaches method target args path = true := by
  fun_induction leafAt? m path with
  | case1 leaf => rfl
  | case2 l f r g path | case4 l f r g path => cases (List.forall_mem_cons.1 hpath).1
  | case3 l r path ih | case5 l r path ih => exact ih h (List.forall_mem_cons.1 hpath).2
  | case6 m path ih => exact ih h (List.forall_mem_cons.1 hpath).2
  | case7 => cases h

theorem isRuntime_recheck (check : DynamicMatcher → Method → TypeInfo → List Value → Bool) (m : MethodMatcher) :
    (m.recheck check).isRuntime = m.isRuntime := by
  induction m with
  | all | static | dynamic | ofClass => rfl
  | union l f r g ihl ihr | inter l r ihl ihr => rw [recheck, isRuntime, isRuntime, ihl, ihr]
  | not m ih => rw [recheck, isRuntime, isRuntime, ih]

theorem accepts_recheck (check : DynamicMatcher → Method → TypeInfo → List Value → Bool) (m : MethodMatcher) :
    (m.recheck check).accepts method target = m.accepts method target := by
  induction m with
  | all | static | dynamic | ofClass => rfl
  | union l f r g ihl ihr | inter l r ihl ihr => rw [recheck, accepts, accepts, ihl, ihr]
  | not m ih => rw [recheck, accepts, accepts, isRuntime_recheck, ih]

theorem leaf_occurrences (m : MethodMatcher) : m.occurrences.map Occurrence.leaf = m.leaves := by
  induction m with
  | all | static | dynamic | ofClass => rfl
  | union l f r g ihl ihr | inter l r ihl ihr =>
      rw [occurrences, List.map_append, leaf_behind, leaf_behind, ihl, ihr, leaves]
  | not m ih => rw [occurrences, leaf_behind, ih, leaves]

theorem reached_of_no_leaves {m : MethodMatcher} (h : m.leaves = []) : m.reached method target args = [] := by
  rw [← leaf_occurrences, List.map_eq_nil_iff] at h
  rw [reached, h, List.filter_nil]

theorem checksOf_acceptsArgs (m : MethodMatcher) : checksOf (m.acceptsArgs method target args) =
    (m.reached method target args).map Occurrence.leaf := by
  by_cases h : m.leaves = []
  · rw [acceptsArgs_of_no_leaves h, reached_of_no_leaves h]
    rfl
  · rw [acceptsArgs, if_pos (m.isRuntime_iff_leaves.2 h), ← probes_evaluate]
    rfl

theorem checksOf_acceptsCall (p : Pointcut) : checksOf (p.acceptsCall method target args) =
    if p.canApply method target then (p.matcher.reached method target args).map Occurrence.leaf else [] := by
  rw [Pointcut.acceptsCall]
  cases p.canApply method target with
  | false => rfl
  | true =>
      by_cases h : p.matcher.leaves = []
      · rw [isRuntime_eq_false_of_leaves h, reached_of_no_leaves h]
        rfl
      · rw [p.matcher.isRuntime_iff_leaves.2 h, if_pos rfl, if_pos rfl, ← checksOf_acceptsArgs]
        rfl

/-- What has been counted before does not matter for what is counted now. -/
theorem tally_append (before : List DynamicMatcher) (places : List Occurrence) (counter : String) :
    DynamicMatcher.tally (before ++ places.map Occurrence.leaf) counter =
      DynamicMatcher.tally before counter + places.countP fun o => o.leaf.counter == some counter := by
  rw [DynamicMatcher.tally, List.countP_append, List.countP_map]
  rfl

/-- Conditions on arguments are counted. The first stage and the kind of a matcher do not hang on them.
With arguments, each is checked at most once at each of its places, and exactly once at a place that no
union holds; a counter grows by the number of places at which its conditions are checked. A pointcut that
cannot apply to a method leaves all counters alone. -/
theorem checks_counted (method : Method) (target : TypeInfo) (args : List Value) :
    (∀ (m : MethodMatcher) (check : DynamicMatcher → Method → TypeInfo → List Value → Bool),
      (m.recheck check).accepts method target = m.accepts method target ∧
      (m.recheck check).isRuntime = m.isRuntime ∧ (m.recheck check).kind = m.kind) ∧
    (∀ m : MethodMatcher,
      let run := m.reached method target args
      let answer := m.acceptsArgs method target args
      checksOf answer = run.map Occurrence.leaf ∧ (m.leaves = [] → checksOf answer = []) ∧
      (∀ o ∈ run, m.leafAt? o.path = some o.leaf) ∧ (run.map Occurrence.path).Nodup ∧
      (∀ path leaf, m.leafAt? path = some leaf → (∀ b ∈ path, b.isUnion = false) → ⟨path, leaf⟩ ∈ run) ∧
      ∀ before counter, DynamicMatcher.tally (before ++ checksOf answer) counter =
        DynamicMatcher.tally before counter + run.countP fun o => o.leaf.counter == some counter) ∧
    ∀ p : Pointcut,
      let answer := p.acceptsCall method target args
      checksOf answer = (if p.canApply method target then
        (p.matcher.reached method target args).map Occurrence.leaf else []) ∧
      (p.canApply method target = false → ∀ before counter,
        DynamicMatcher.tally (before ++ checksOf answer) counter = DynamicMatcher.tally before counter) := by
  refine ⟨fun m check => ⟨accepts_recheck check m, isRuntime_recheck check m, ?_⟩, fun m => ?_, fun p => ?_⟩
  · rw [kind, isRuntime_recheck, kind]
  · intro run answer
    have hchecks : checksOf answer = run.map Occurrence.leaf := checksOf_acceptsArgs m
    refine ⟨hchecks, fun h => ?_, fun o ho => ?_, ?_, fun path leaf hleaf hpath => ?_, fun before counter => ?_⟩
    · rw [hchecks, show run = [] from reached_of_no_leaves h, List.map_nil]
    · exact leafAt?_of_mem (List.mem_of_mem_filter ho)
    · exact m.nodup_paths.sublist (List.filter_sublist.map Occurrence.path)
    · exact List.mem_filter.2 ⟨mem_occurrences hleaf, reaches_of_no_union hleaf hpath⟩
    · rw [hchecks, tally_append]
  · refine ⟨checksOf_acceptsCall p, fun h before counter => ?_⟩
    rw [checksOf_acceptsCall, h, if_neg Bool.false_ne_true, List.append_nil]

/-- A large amount stands on the left of a union, so that the right side is not asked, and once more beside
the union. -/
theorem large_checked_twice :
    let large : DynamicMatcher :=
      ⟨"large", some "amounts", (MethodCheck.arity 1).holds, fun _ _ => (CallCheck.exceeds 0 10).holds⟩
    let single : DynamicMatcher :=
      ⟨"single", some "arities", (MethodCheck.arity 1).holds, fun _ _ => (CallCheck.arity 1).holds⟩
    let m : MethodMatcher := .inter (.union (.dynamic large) none (.dynamic single) none) (.not (.dynamic large))
    let p : Pointcut := ⟨.exact "Ledger", m⟩
    let transfer : Method := ⟨.ofName "Accounts", "transfer", [.ofRuntime .word32], none⟩
    let answer := m.acceptsArgs transfer transfer.owner [.word32 50]
    m.leafAt? [.interRight, .negated] = some large ∧
      ⟨[.interRight, .negated], large⟩ ∈ m.reached transfer transfer.owner [.word32 50] ∧
      DynamicMatcher.tally ([single] ++ checksOf answer) "amounts" = 2 ∧
      DynamicMatcher.tally ([single] ++ checksOf answer) "arities" = 1 ∧
      p.canApply transfer transfer.owner = false ∧
      DynamicMatcher.tally ([single] ++ checksOf (p.acceptsCall transfer transfer.owner [.word32 50])) "arities" = 1 := by
  intro large single m p transfer answer
  obtain ⟨-, hm, hp⟩ := checks_counted transfer transfer.owner [.word32 50]
  obtain ⟨-, -, -, -, hreached, hcount⟩ := hm m
  refine ⟨rfl, hreached _ _ rfl (by decide), ?_, ?_, by decide, ?_⟩
  · rw [hcount]
    rfl
  · rw [hcount]
    rfl
  · rw [(hp p).2 (by decide)]
    rfl

end MethodMatcher

end Weaving
