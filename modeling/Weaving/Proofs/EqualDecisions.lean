import Weaving.Matching.Check
import Weaving.Proofs.MatcherAlgebra
import Weaving.Proofs.MatcherEquality

namespace Weaving

namespace ClassFilter

mutual

/-- The custom conditions in a filter, by their keys. -/
def customs : ClassFilter → List (String × (TypeInfo → Bool))
  | custom key accepts => [(key, accepts)]
  | union filters | inter filters => customsIn filters
  | not filter => filter.customs
  | all | exact _ | assignable _ | pattern _ => []

def customsIn : List ClassFilter → List (String × (TypeInfo → Bool))
  | [] => []
  | f :: fs => f.customs ++ customsIn fs

end

/-- Custom conditions of one key are the same condition. -/
def KeysAgree (f g : ClassFilter) : Prop :=
  ∀ p ∈ f.customs, ∀ q ∈ g.customs, p.1 = q.1 → p.2 = q.2

variable {f g : ClassFilter} {fs gs : List ClassFilter} {t : TypeInfo}

theorem customs_subset (h : f ∈ fs) : f.customs ⊆ customsIn fs := by
  induction fs with
  | nil => cases h
  | cons g fs ih =>
      rw [customsIn]
      rcases List.mem_cons.1 h with rfl | h
      · exact List.subset_append_left _ _
      · exact List.Subset.trans (ih h) (List.subset_append_right _ _)

theorem someAccepts_eq_any (fs : List ClassFilter) : someAccepts fs t = (fs.map (·.accepts t)).any id := by
  induction fs with
  | nil => rfl
  | cons f fs ih => rw [someAccepts, ih, List.map_cons, List.any_cons, id]

theorem everyAccepts_eq_all (fs : List ClassFilter) : everyAccepts fs t = (fs.map (·.accepts t)).all id := by
  induction fs with
  | nil => rfl
  | cons f fs ih => rw [everyAccepts, ih, List.map_cons, List.all_cons, id]

/-- Paired operands give the same answers, though in another order. -/
theorem accepts_perm_of_pairsOff (h : pairsOff same fs gs = true)
    (hkeys : ∀ p ∈ customsIn fs, ∀ q ∈ customsIn gs, p.1 = q.1 → p.2 = q.2)
    (hfs : ∀ f ∈ fs, ∀ g, f.same g = true → f.KeysAgree g → f.accepts t = g.accepts t) :
    (fs.map (·.accepts t)).Perm (gs.map (·.accepts t)) := by
  apply map_perm_of_pairsOff h
  intro f hf g hg hfg
  refine hfs f hf g hfg fun p hp q hq => ?_
  exact hkeys p (customs_subset hf hp) q (customs_subset hg hq)

theorem accepts_eq_of_same (h : f.same g = true) (hkeys : f.KeysAgree g) : f.accepts t = g.accepts t := by
  induction f using operand_induction generalizing g with
  | all | exact | assignable | pattern =>
      rw [same_iff_alike] at h
      cases h
      rfl
  | custom key accepts =>
      rw [same_iff_alike] at h
      cases h with
      | custom _ _ accepts' =>
          have heq : accepts = accepts' :=
            hkeys (key, accepts) (List.mem_singleton_self _) (key, accepts') (List.mem_singleton_self _) rfl
          rw [heq]
  | union fs ih =>
      rw [same_iff_alike] at h
      cases h with
      | union h =>
          rw [accepts, accepts, someAccepts_eq_any, someAccepts_eq_any]
          exact (accepts_perm_of_pairsOff h hkeys fun f hf g => ih f hf).any_eq
  | inter fs ih =>
      rw [same_iff_alike] at h
      cases h with
      | inter h =>
          rw [accepts, accepts, everyAccepts_eq_all, everyAccepts_eq_all]
          exact (accepts_perm_of_pairsOff h hkeys fun f hf g => ih f hf).all_eq
  | not f ih =>
      rw [same_iff_alike] at h
      cases h with
      | not h => rw [accepts, accepts, ih h hkeys]

end ClassFilter

namespace MethodMatcher

variable {m n m' n' : MethodMatcher}

/-- The class filters in a matcher, those of the sides of unions included. -/
def filters : MethodMatcher → List ClassFilter
  | ofClass filter => [filter]
  | union left leftFilter right rightFilter =>
    leftFilter.toList ++ rightFilter.toList ++ (left.filters ++ right.filters)
  | inter left right => left.filters ++ right.filters
  | not inner => inner.filters
  | all | static _ _ | dynamic _ => []

/-- The static conditions in a matcher, by their keys. -/
def statics : MethodMatcher → List (String × (Method → TypeInfo → Bool))
  | static key check => [(key, check)]
  | union left _ right _ | inter left right => left.statics ++ right.statics
  | not inner => inner.statics
  | all | dynamic _ | ofClass _ => []

/-- Leaves of one kind and one key hold the same conditions. Their counters may differ. -/
structure KeysAgree (m n : MethodMatcher) : Prop where
  custom : ∀ f ∈ m.filters, ∀ g ∈ n.filters, f.KeysAgree g
  static : ∀ p ∈ m.statics, ∀ q ∈ n.statics, p.1 = q.1 → p.2 = q.2
  dynamic : ∀ d ∈ m.leaves, ∀ e ∈ n.leaves, d.key = e.key →
    d.staticCheck = e.staticCheck ∧ d.runtimeCheck = e.runtimeCheck

/-- All leaves and filters of one matcher are found in another. -/
structure Within (m n : MethodMatcher) : Prop where
  filters : m.filters ⊆ n.filters
  statics : m.statics ⊆ n.statics
  leaves : m.leaves ⊆ n.leaves

theorem KeysAgree.within (h : KeysAgree m n) (hm : Within m' m) (hn : Within n' n) : KeysAgree m' n' where
  custom f hf g hg := h.custom f (hm.filters hf) g (hn.filters hg)
  static p hp q hq := h.static p (hm.statics hp) q (hn.statics hq)
  dynamic d hd e he := h.dynamic d (hm.leaves hd) e (hn.leaves he)

section Sides

variable (l r : MethodMatcher) (f g : Option ClassFilter)

theorem within_union_left : Within l (union l f r g) :=
  ⟨fun _ h => by simp [filters, h], List.subset_append_left _ _, List.subset_append_left _ _⟩

theorem within_union_right : Within r (union l f r g) :=
  ⟨fun _ h => by simp [filters, h], List.subset_append_right _ _, List.subset_append_right _ _⟩

theorem leftFilter_subset : f.toList ⊆ (union l f r g).filters :=
  fun _ h => List.mem_append_left _ (List.mem_append_left _ h)

theorem rightFilter_subset : g.toList ⊆ (union l f r g).filters :=
  fun _ h => List.mem_append_left _ (List.mem_append_right _ h)

theorem within_inter_left : Within l (inter l r) :=
  ⟨List.subset_append_left _ _, List.subset_append_left _ _, List.subset_append_left _ _⟩

theorem within_inter_right : Within r (inter l r) :=
  ⟨List.subset_append_right _ _, List.subset_append_right _ _, List.subset_append_right _ _⟩

end Sides

theorem Alike.isRuntime_eq (h : Alike m n) : m.isRuntime = n.isRuntime := by
  induction h with
  | all | static | dynamic | ofClass => rfl
  | union _ _ _ _ ihl ihr => rw [isRuntime, isRuntime, ihl, ihr]
  | unionCrossed _ _ _ _ ihl ihr => rw [isRuntime, isRuntime, ihl, ihr, Bool.or_comm]
  | inter _ _ ihl ihr => rw [isRuntime, isRuntime, ihl, ihr]
  | interCrossed _ _ ihl ihr => rw [isRuntime, isRuntime, ihl, ihr, Bool.or_comm]
  | not _ ih => rw [isRuntime, isRuntime, ih]

theorem KeysAgree.guardAdmits_eq (h : KeysAgree m n) {f g : Option ClassFilter} (hf : f.toList ⊆ m.filters)
    (hg : g.toList ⊆ n.filters) (heq : (f == g) = true) (target : TypeInfo) :
    guardAdmits f target = guardAdmits g target := by
  cases f <;> cases g
  case none.none => rfl
  case some.some a b =>
    exact ClassFilter.accepts_eq_of_same heq (h.custom a (hf (by simp)) b (hg (by simp)))
  all_goals cases heq

variable {method : Method} {target : TypeInfo} {args : List Value}

/-- A decision of one matcher and the same decision of another, without arguments and with them. -/
structure DecidesAlike (m n : MethodMatcher) (method : Method) (target : TypeInfo) (args : List Value) :
    Prop where
  accepts : m.accepts method target = n.accepts method target
  reading : m.reading method target args = n.reading method target args

/-- Sides that are crossed change nothing, since both stages put their sides together by an operation
in which the sides may be exchanged. -/
theorem Alike.decidesAlike (h : Alike m n) (hkeys : m.KeysAgree n) : m.DecidesAlike n method target args := by
  induction h with
  | all => exact ⟨rfl, rfl⟩
  | static key check check' =>
      have heq : check = check' :=
        hkeys.static (key, check) (List.mem_singleton_self _) (key, check') (List.mem_singleton_self _) rfl
      rw [heq]
      exact ⟨rfl, rfl⟩
  | @dynamic d e h =>
      obtain ⟨hstatic, hruntime⟩ :=
        hkeys.dynamic d (List.mem_singleton_self _) e (List.mem_singleton_self _) h
      exact ⟨by rw [accepts, accepts, hstatic], by rw [reading, reading, hruntime]⟩
  | @ofClass f g h =>
      have heq := ClassFilter.accepts_eq_of_same (t := target) h
        (hkeys.custom f (List.mem_singleton_self _) g (List.mem_singleton_self _))
      exact ⟨heq, heq⟩
  | union _ hf _ hg ihl ihr =>
      obtain ⟨hla, hlr⟩ := ihl (hkeys.within (within_union_left ..) (within_union_left ..))
      obtain ⟨hra, hrr⟩ := ihr (hkeys.within (within_union_right ..) (within_union_right ..))
      have hfa := hkeys.guardAdmits_eq (leftFilter_subset ..) (leftFilter_subset ..) hf target
      have hga := hkeys.guardAdmits_eq (rightFilter_subset ..) (rightFilter_subset ..) hg target
      exact ⟨by rw [accepts, accepts, hla, hra, hfa, hga], by rw [reading, reading, hlr, hrr, hfa, hga]⟩
  | unionCrossed _ hf _ hg ihl ihr =>
      obtain ⟨hla, hlr⟩ := ihl (hkeys.within (within_union_left ..) (within_union_right ..))
      obtain ⟨hra, hrr⟩ := ihr (hkeys.within (within_union_right ..) (within_union_left ..))
      have hfa := hkeys.guardAdmits_eq (leftFilter_subset ..) (rightFilter_subset ..) hf target
      have hga := hkeys.guardAdmits_eq (rightFilter_subset ..) (leftFilter_subset ..) hg target
      exact ⟨by rw [accepts, accepts, hla, hra, hfa, hga, Bool.or_comm],
        by rw [reading, reading, hlr, hrr, hfa, hga, Bool.or_comm]⟩
  | inter _ _ ihl ihr =>
      obtain ⟨hla, hlr⟩ := ihl (hkeys.within (within_inter_left ..) (within_inter_left ..))
      obtain ⟨hra, hrr⟩ := ihr (hkeys.within (within_inter_right ..) (within_inter_right ..))
      exact ⟨by rw [accepts, accepts, hla, hra], by rw [reading, reading, hlr, hrr]⟩
  | interCrossed _ _ ihl ihr =>
      obtain ⟨hla, hlr⟩ := ihl (hkeys.within (within_inter_left ..) (within_inter_right ..))
      obtain ⟨hra, hrr⟩ := ihr (hkeys.within (within_inter_right ..) (within_inter_left ..))
      exact ⟨by rw [accepts, accepts, hla, hra, Bool.and_comm],
        by rw [reading, reading, hlr, hrr, Bool.and_comm]⟩
  | not h ih =>
      obtain ⟨ha, hr⟩ := ih ⟨hkeys.custom, hkeys.static, hkeys.dynamic⟩
      exact ⟨by rw [accepts, accepts, h.isRuntime_eq, ha], by rw [reading, reading, hr]⟩

theorem Alike.answers (h : Alike m n) (hkeys : m.KeysAgree n) :
    (∃ v w, m.acceptsArgs method target args = .ok v ∧ n.acceptsArgs method target args = .ok w ∧
        v.answer = w.answer) ∨
      ∃ text text', m.acceptsArgs method target args = .error (.usage text) ∧
        n.acceptsArgs method target args = .error (.usage text') := by
  rw [acceptsArgs, acceptsArgs, ← h.isRuntime_eq]
  cases m.isRuntime with
  | false => exact .inr ⟨_, _, rfl, rfl⟩
  | true =>
      refine .inl ⟨_, _, rfl, rfl, ?_⟩
      rw [answer_evaluate, answer_evaluate]
      exact (h.decidesAlike hkeys).reading

end MethodMatcher

/-- Equal class filters accept the same types. Equal matchers are of one kind and accept the same
methods; with arguments they give the same answer, or it is a mistake to ask either. This holds if
leaves of one key hold the same conditions. -/
theorem equal_conditions_decide_alike :
    (∀ f g : ClassFilter, (f == g) = true → f.KeysAgree g → ∀ t, f.accepts t = g.accepts t) ∧
      ∀ m n : MethodMatcher, (m == n) = true → m.KeysAgree n →
        m.isRuntime = n.isRuntime ∧
        (∀ method target, m.accepts method target = n.accepts method target) ∧
        ∀ method target args,
          (∃ v w, m.acceptsArgs method target args = .ok v ∧ n.acceptsArgs method target args = .ok w ∧
            v.answer = w.answer) ∨
          ∃ text text', m.acceptsArgs method target args = .error (.usage text) ∧
            n.acceptsArgs method target args = .error (.usage text') := by
  constructor
  · intro f g h hkeys t
    exact ClassFilter.accepts_eq_of_same h hkeys
  · intro m n h hkeys
    have halike := MethodMatcher.beq_iff_alike.1 h
    refine ⟨halike.isRuntime_eq, fun method target => ?_, fun method target args => ?_⟩
    · have hdecides : m.DecidesAlike n method target [] := halike.decidesAlike hkeys
      exact hdecides.accepts
    · exact halike.answers hkeys

/-- Sides are crossed and operands turned, and the counters of a condition on arguments differ. -/
theorem turned_conditions_decide_alike :
    let services : ClassFilter := .union [.pattern ⟨"*Service"⟩, .custom "short" fun t => t.name.length < 8]
    let turned : ClassFilter := .union [.custom "short" fun t => t.name.length < 8, .pattern ⟨"*Service"⟩]
    let large (counter : Option String) : MethodMatcher := .dynamic
      ⟨"large", counter, (MethodCheck.arity 1).holds, fun _ _ => (CallCheck.exceeds 0 10).holds⟩
    let finds : MethodMatcher := .ofName "find*"
    let m : MethodMatcher :=
      .union (.inter (large none) finds) (some services) (.not (large (some "seen"))) none
    let n : MethodMatcher :=
      .union (.not (large (some "seen"))) none (.inter finds (large (some "seen"))) (some turned)
    let find : Method := ⟨.ofName "Orders", "find", [.ofRuntime .word32], none⟩
    (services == turned) = true ∧ services.KeysAgree turned ∧ (m == n) = true ∧ m.KeysAgree n ∧
      services.accepts find.owner = turned.accepts find.owner ∧ m.isRuntime = n.isRuntime ∧
      m.accepts find find.owner = n.accepts find find.owner ∧
      ∃ v w, m.acceptsArgs find find.owner [.word32 7] = .ok v ∧
        n.acceptsArgs find find.owner [.word32 7] = .ok w ∧ v.answer = w.answer := by
  intro services turned large finds m n find
  have hfilters : (services == turned) = true := by decide +kernel
  have hmatchers : (m == n) = true := by decide +kernel
  have hservices : services.KeysAgree turned := by
    intro p hp q hq _
    rw [List.mem_singleton.1 hp, List.mem_singleton.1 hq]
  have hkeys : m.KeysAgree n := by
    refine ⟨?_, ?_, ?_⟩
    · intro f hf g hg
      rw [List.mem_singleton.1 hf, List.mem_singleton.1 hg]
      exact hservices
    · intro p hp q hq _
      rw [List.mem_singleton.1 hp, List.mem_singleton.1 hq]
    · intro d hd e he _
      rcases List.mem_pair.1 hd with rfl | rfl <;> rcases List.mem_pair.1 he with rfl | rfl <;>
        exact ⟨rfl, rfl⟩
  obtain ⟨hclass, hmethod⟩ := equal_conditions_decide_alike
  obtain ⟨hkind, haccepts, hanswers⟩ := hmethod m n hmatchers hkeys
  refine ⟨hfilters, hservices, hmatchers, hkeys, hclass services turned hfilters hservices _, hkind,
    haccepts find find.owner, ?_⟩
  rcases hanswers find find.owner [.word32 7] with hboth | ⟨text, -, herror, -⟩
  · exact hboth
  · cases herror

end Weaving
