import Weaving.Advice.Script
import Weaving.Proofs.BoundArguments
import Weaving.Proofs.ProxyHistory

namespace Weaving

/-- The type of the parameter that a join point is handed to. -/
def JoinPointSlot.type : JoinPointSlot → ParameterType
  | joinPoint => .joinPoint
  | proceeding => .proceedingJoinPoint
  | staticPart => .staticPart

theorem JoinPointSlot.eq_type {slot : JoinPointSlot} {type : ParameterType}
    (h : JoinPointSlot.ofType? type = some slot) : type = slot.type := by
  cases type with
  | joinPoint | proceedingJoinPoint | staticPart =>
      cases h
      rfl
  | error | value => cases h

namespace BindingPlan

/-- Behind the join point a parameter that is not for the error is for a value. It is misplaced if
its type is not a type of values. -/
def IsMisplaced (p : BindingPlan) (index : Nat) (type : ParameterType) : Prop :=
  p.offset ≤ index ∧ p.throwing.map NamedSlot.index ≠ some index ∧ ∀ t, type ≠ .value t

variable {method : AdviceMethod} {spec : AdviceSpecification} {discoverer : Discoverer}
  {pointcut pointcut' : ExpressionPointcut} {p : BindingPlan} {slot : NamedSlot}

theorem exists_error_of_isError {type : ParameterType} (h : type.isError = true) :
    ∃ error, type = .error error := by
  cases type with
  | error e => exact ⟨e, rfl⟩
  | joinPoint | proceedingJoinPoint | staticPart | value => cases h

theorem acceptsReturn_of_some (h : p.returning = some slot) (v : Value) :
    Advice.acceptsReturn p v = slot.type.admits v := by
  rw [Advice.acceptsReturn, h, Option.map_some]
  cases slot.type <;> rfl

theorem acceptsThrown_of_some {type : ErrorType} (h : p.throwing = some slot)
    (htype : slot.type = .error type) (e : Thrown) : Advice.acceptsThrown p e = type.accepts e := by
  rw [Advice.acceptsThrown, h, Option.map_some, htype]

section Made

variable (hmade : Made method spec discoverer pointcut p pointcut')

include hmade

theorem Made.joinPoint_eq : p.joinPoint = method.parameterTypes.head?.bind JoinPointSlot.ofType? := by
  cases hmade <;> rfl

/-- Each parameter that is supplied by name is that of a slot behind the join point. -/
theorem Made.exists_slot {e : String × Nat} (he : e ∈ p.bound) : ∃ names slot,
    names.length = method.parameters.length ∧ slot ∈ slotsBehind method names ∧ slot.entry = e := by
  cases hmade with
  | front => cases he
  | named names _ _ hlength hassigned =>
      obtain ⟨slot, hslot, heq⟩ := List.mem_map.1 ((bound_perm_kept hassigned).subset he)
      exact ⟨names, slot, hlength, (spec.slotsIn_perm _).subset ((kept_sublist spec _).subset hslot), heq⟩

theorem Made.offset_le {e : String × Nat} (he : e ∈ p.bound) : p.offset ≤ e.2 := by
  obtain ⟨names, slot, hlength, hmem, rfl⟩ := hmade.exists_slot he
  have hoffset : p.offset = (BindingPlan.front method).offset := by cases hmade <;> rfl
  have hindex := List.mem_map_of_mem (f := NamedSlot.index) hmem
  rw [slotsBehind, index_slots (length_names hlength), List.mem_range'_1] at hindex
  rw [NamedSlot.entry_snd]
  omega

/-- A formal parameter has the type that is declared for the parameter of its name. -/
theorem Made.typeOf?_eq {e : String × Nat} (he : e ∈ p.bindings) :
    ∃ type, p.formals.typeOf? e.1 = some type ∧ method.parameterTypes[e.2]? = some type := by
  cases hmade with
  | front => cases he
  | named names _ _ hlength hassigned =>
      rw [fill_front] at he ⊢
      obtain ⟨slot, hslot, rfl⟩ := List.mem_map.1 (Table.mem_ofList he)
      refine ⟨slot.type, Formals.typeOf?_map hassigned.nodup hslot, ?_⟩
      exact type_of_mem_slots (spec.mem_slotsIn.1 hslot).1

theorem Made.type_eq (hslot : slot ∈ p.returning.toList ++ p.throwing.toList) :
    method.parameterTypes[slot.index]? = some slot.type := by
  cases hmade with
  | front => cases hslot
  | named names _ _ hlength _ =>
      rw [fill_front] at hslot
      have hlast (r : SlotRole) (h : slot ∈ (spec.slotsIn r (slotsBehind method names)).getLast?.toList) :
          slot ∈ slotsBehind method names :=
        (spec.mem_slotsIn.1 ((toList_getLast?_sublist _).subset h)).1
      rcases List.mem_append.1 hslot with hslot | hslot
      · exact type_of_mem_slots (hlast .returned hslot)
      · exact type_of_mem_slots (hlast .thrown hslot)

theorem Made.isError_throwing (hslot : p.throwing = some slot) : slot.type.isError = true := by
  cases hmade with
  | front => cases hslot
  | named names _ _ _ hassigned =>
      rw [fill_front] at hslot
      exact hassigned.isError slot (List.mem_of_getLast? hslot)

theorem Made.formals_eq {e : String × Nat} (he : e ∈ p.bindings) : pointcut'.formals = p.formals := by
  cases hmade with
  | front => cases he
  | named => rfl

/-- The parameter for the error is for nothing else. -/
theorem Made.throwing_ne {e : String × Nat} (he : e ∈ p.bindings ++ p.returning.toList.map NamedSlot.entry) :
    p.throwing.map NamedSlot.index ≠ some e.2 := by
  intro hsame
  obtain ⟨other, hother, hindex⟩ := Option.map_eq_some_iff.1 hsame
  have hnodup := hmade.indices_nodup
  rw [indices, bound, List.map_append, ← List.append_assoc] at hnodup
  refine List.disjoint_of_nodup_append hnodup (a := e.2) ?_ ?_
  · exact List.mem_append_right _ (List.mem_map_of_mem he)
  · rw [hother, ← hindex]
    exact List.mem_singleton_self _

end Made

end BindingPlan

namespace CallSite

variable (s : CallSite)

/-- Whether a join point is one of the call. -/
def Hosts (j : JoinPoint) : Prop :=
  j.method = s.method ∧ j.targetType = s.targetType ∧ j.target = s.target.map Target.value

/-- Whether an argument is what a parameter of the type is there for. -/
def Conforms (kind : AdviceKind) : ParameterType → Argument → Prop
  | .joinPoint, .joinPoint j => s.Hosts j
  | .proceedingJoinPoint, .proceeding j => s.Hosts j ∧ j.canProceed = true ∧ kind = .around
  | .staticPart, .staticPart method => method = s.method
  | .error type, .error e => type.accepts e = true
  | .value type, .value v => type.isInstance v = true
  | _, _ => False

end CallSite

def Advice.planned (a : Advice) : Planning :=
  Planning.compute a.method a.specification a.discoverer a.pointcut

namespace CallSite

variable (s : CallSite)

/-- One argument for each parameter, of its type unless the parameter is misplaced. -/
def Handed (a : Advice) (args : Arguments) : Prop :=
  ∃ plan, a.planned.result = .ok plan ∧ args.length = a.method.parameters.length ∧
    ∀ (i : Nat) (type : ParameterType) (arg : Argument), a.method.parameterTypes[i]? = some type →
      args[i]? = some arg → (s.Conforms a.kind type arg ↔ ¬ plan.IsMisplaced i type)

/-- A join point at which the advice is ready to run its body. -/
structure Fits (a : Advice) (plan : BindingPlan) (j : JoinPoint) : Prop where
  hosts : s.Hosts j
  canProceed : a.kind = .around → j.canProceed = true
  captured : ∀ c, j.captured = some c → ∀ e ∈ plan.bindings, ∀ v, c.get? e.1 = some v →
    ∃ type, a.method.parameterTypes[e.2]? = some type ∧ type.admits v = true
  returned : ∀ v, j.returnValue = some v → Advice.acceptsReturn plan v = true
  thrown : ∀ e, j.thrown = some e → Advice.acceptsThrown plan e = true

variable {s} {a : Advice} {plan : BindingPlan} {j : JoinPoint} {args : Arguments}

theorem conforms_value {kind : AdviceKind} {type : ParameterType} {v : Value}
    (h : type.admits v = true) : s.Conforms kind type (.value v) ↔ ∃ t, type = .value t := by
  cases type with
  | value t => exact ⟨fun _ => ⟨t, rfl⟩, fun _ => h⟩
  | joinPoint | proceedingJoinPoint | staticPart | error => exact ⟨nofun, nofun⟩

theorem kind_of_canProceed {kind : AdviceKind} (h : kind.canProceed = true) : kind = .around := by
  cases kind with
  | around => rfl
  | pointcut | before | after | afterReturning | afterThrowing => cases h

theorem conforms_of_acceptsThrown {kind : AdviceKind} {slot : NamedSlot} {e : Thrown}
    (hslot : plan.throwing = some slot) (herror : slot.type.isError = true)
    (h : Advice.acceptsThrown plan e = true) : s.Conforms kind slot.type (.error e) := by
  obtain ⟨type, htype⟩ := BindingPlan.exists_error_of_isError herror
  rw [BindingPlan.acceptsThrown_of_some hslot htype] at h
  rw [htype]
  exact h

theorem conforms_iff_placed (hplan : a.planned.result = .ok plan) {e : String × Nat}
    (he : e ∈ plan.bindings ++ plan.returning.toList.map NamedSlot.entry) {type : ParameterType} {v : Value}
    (hv : type.admits v = true) :
    s.Conforms a.kind type (.value v) ↔ ¬ plan.IsMisplaced e.2 type := by
  obtain ⟨-, hmade⟩ := BindingPlan.made_of_compute hplan
  have hbound : e ∈ plan.bound := List.mem_append_left _ he
  rw [conforms_value hv]
  constructor
  · rintro ⟨t, ht⟩ hmisplaced
    exact hmisplaced.2.2 t ht
  · intro hplaced
    by_contra hnone
    exact hplaced ⟨hmade.offset_le hbound, hmade.throwing_ne he, fun t ht => hnone ⟨t, ht⟩⟩

theorem conforms_of_supplies (hplan : a.planned.result = .ok plan) (hj : s.Fits a plan j) {i : Nat}
    {type : ParameterType} {arg : Argument} (htype : a.method.parameterTypes[i]? = some type)
    (harg : plan.Supplies j i arg) : s.Conforms a.kind type arg ↔ ¬ plan.IsMisplaced i type := by
  obtain ⟨hproceed, hmade⟩ := BindingPlan.made_of_compute hplan
  have hfront : ∀ slot, plan.joinPoint = some slot → ¬ plan.IsMisplaced 0 type := by
    intro slot hslot hmisplaced
    have hoffset := hmisplaced.1
    simp [BindingPlan.offset, hslot] at hoffset
  have hhead : ∀ slot, plan.joinPoint = some slot → a.method.parameterTypes[0]? = some type →
      type = slot.type := by
    intro slot hslot hzero
    rw [hmade.joinPoint_eq, List.head?_eq_getElem?, hzero] at hslot
    exact JoinPointSlot.eq_type hslot
  have hnamed : ∀ slot ∈ plan.returning.toList ++ plan.throwing.toList,
      a.method.parameterTypes[slot.index]? = some type → type = slot.type := by
    intro slot hslot hindex
    exact Option.some.inj (hindex.symm.trans (hmade.type_eq hslot))
  cases harg with
  | joinPoint h =>
      obtain rfl := hhead _ h htype
      exact iff_of_true hj.hosts (hfront _ h)
  | proceeding h =>
      obtain rfl := hhead _ h htype
      have haround : a.kind = .around := kind_of_canProceed (hproceed h)
      exact iff_of_true ⟨hj.hosts, hj.canProceed haround, haround⟩ (hfront _ h)
  | staticPart h =>
      obtain rfl := hhead _ h htype
      exact iff_of_true hj.hosts.1 (hfront _ h)
  | @captured name index c v hbinding hc hv =>
      obtain ⟨declared, hdeclared, hadmits⟩ := hj.captured c hc _ hbinding v hv
      obtain rfl := Option.some.inj (hdeclared.symm.trans htype)
      exact conforms_iff_placed hplan (List.mem_append_left _ hbinding) hadmits
  | @returned slot v hslot hv =>
      obtain rfl := hnamed slot (by simp [hslot]) htype
      have hadmits := hj.returned v hv
      rw [BindingPlan.acceptsReturn_of_some hslot] at hadmits
      exact conforms_iff_placed hplan (e := slot.entry) (by simp [hslot]) hadmits
  | @thrown slot e hslot he =>
      obtain rfl := hnamed slot (by simp [hslot]) htype
      have hplaced : ¬ plan.IsMisplaced slot.index slot.type := by
        intro hmisplaced
        exact hmisplaced.2.1 (by rw [hslot]; rfl)
      exact iff_of_true (conforms_of_acceptsThrown hslot (hmade.isError_throwing hslot) (hj.thrown e he))
        hplaced

theorem handed_of_bind (hplan : a.planned.result = .ok plan) (hj : s.Fits a plan j)
    (hbind : plan.bind j = .ok args) : s.Handed a args := by
  obtain ⟨-, hmade⟩ := BindingPlan.made_of_compute hplan
  have hsub := hmade.indices_subperm
  rw [← hmade.parameterCount_eq] at hsub
  obtain ⟨hlength, hsupplies⟩ := BindingPlan.bind_eq_ok hsub hbind
  exact ⟨plan, hplan, hlength.trans hmade.parameterCount_eq,
    fun i type arg htype harg => conforms_of_supplies hplan hj htype (hsupplies i arg harg)⟩

end CallSite

namespace Loom

/-- Advice that is not made yet has no plan. -/
def IsFresh (l : Loom) : Prop := ∀ id, l.nextAdvice ≤ id → l.plans id = none

theorem isFresh_empty (depth : Nat) : (empty depth).IsFresh := fun _ _ => rfl

theorem planning_of_none {l : Loom} {a : Advice} (h : l.plans a.id = none) :
    (l.planning a).1 = a.planned ∧ (l.planning a).2.plans = change l.plans a.id (some a.planned) ∧
      (l.planning a).2.nextAdvice = l.nextAdvice := by
  simp only [planning, h]
  refine ⟨rfl, ?_, ?_⟩
  · rw [Advice.planned]
    split <;> rfl
  · split <;> rfl

/-- The new advice takes the next number, so its plan is made when it is first asked for. -/
theorem IsFresh.newAdvice {l : Loom} (h : l.IsFresh) (method : AdviceMethod)
    (specification : AdviceSpecification) (pointcut : ExpressionPointcut) (factory : Factory)
    (discoverer : Discoverer) (position : Nat) :
    let made := l.newAdvice method specification pointcut factory discoverer position
    (made.2.planning made.1).1 = made.1.planned ∧ (made.2.planning made.1).2.IsFresh := by
  intro made
  have hnone : made.2.plans made.1.id = none := h l.nextAdvice (Nat.le_refl _)
  obtain ⟨hplan, hchange, hcount⟩ := planning_of_none hnone
  refine ⟨hplan, fun id hle => ?_⟩
  rw [hcount] at hle
  have hlater : l.nextAdvice + 1 ≤ id := hle
  have hne : id ≠ made.1.id := Nat.ne_of_gt hlater
  rw [hchange, change, if_neg hne]
  exact h id (Nat.le_of_succ_le hlater)

end Loom

/-- The plan of an advice is made and without fault. -/
def Advice.Planned (l : Loom) (a : Advice) : Prop :=
  l.plans a.id = some a.planned ∧ ∃ plan, a.planned.result = .ok plan

theorem Advice.Planned.later {l l' : Loom} {a : Advice} (h : a.Planned l) (hl : l.Keeps l') :
    a.Planned l' := ⟨hl a.id _ h.1, h.2⟩

theorem Advice.Planned.planning_eq {l : Loom} {a : Advice} (h : a.Planned l) :
    l.planning a = (a.planned, l) := by
  simp only [Loom.planning, h.1]

namespace AspectDefinition

variable {factory : Factory} {discoverer : Discoverer} {l l' : Loom} {advisors : List Advisor}

theorem planned_of_advisorsOf {references : Expr.References}
    {declared : List (AdviceMethod × Nat × AdviceSpecification)} (hfresh : l.IsFresh)
    (h : advisorsOf factory discoverer references declared l = (.ok advisors, l')) :
    l'.IsFresh ∧ ∀ a ∈ advisors, a.advice.Planned l' := by
  induction declared generalizing l advisors with
  | nil =>
      cases h
      exact ⟨hfresh, fun _ ha => absurd ha List.not_mem_nil⟩
  | cons d rest ih =>
      obtain ⟨pointcut, others, ⟨plan, hok⟩, rfl, hothers⟩ := advisorsOf_cons_eq_ok h
      obtain ⟨hplanned, hfresh'⟩ := hfresh.newAdvice d.1 d.2.2 pointcut factory discoverer d.2.1
      obtain ⟨hlast, hrest⟩ := ih hfresh' hothers
      have hkeeps := (plans_of_advisorsOf hothers).1
      refine ⟨hlast, List.forall_mem_cons.2 ⟨?_, hrest⟩⟩
      rw [hplanned] at hok
      refine ⟨hkeeps _ _ ?_, plan, hok⟩
      rw [Loom.plans_planning, hplanned]

end AspectDefinition

/-- Some aspect has given the advisor away, with a plan of its own. -/
def Advisor.Accepted (l : Loom) (a : Advisor) : Prop :=
  ∃ (d : AspectDefinition) (factory : Factory) (discoverer : Discoverer) (l₀ l₁ : Loom)
    (advisors : List Advisor), l₀.IsFresh ∧
    d.advisors factory discoverer l₀ = (.ok advisors, l₁) ∧ a ∈ advisors ∧ l₁.Keeps l

namespace Advisor

variable {l : Loom} {a : Advisor}

theorem Accepted.returned (h : a.Accepted l) : a.Returned l := by
  obtain ⟨d, factory, discoverer, l₀, l₁, advisors, -, hd, ha, hl⟩ := h
  exact ⟨d, factory, discoverer, l₀, l₁, advisors, hd, ha, hl⟩

theorem Accepted.planned (h : a.Accepted l) : a.advice.Planned l := by
  obtain ⟨d, factory, discoverer, l₀, l₁, advisors, hfresh, hd, ha, hl⟩ := h
  obtain ⟨declared, references, -, hof⟩ := AspectDefinition.advisors_eq_ok hd
  exact ((AspectDefinition.planned_of_advisorsOf hfresh hof).2 a ha).later hl

end Advisor

theorem AspectDefinition.accepted_of_advisors (d : AspectDefinition) (factory : Factory)
    (discoverer : Discoverer) {l : Loom} (hfresh : l.IsFresh) :
    ∀ a ∈ (d.advisors factory discoverer l).1.toOption.getD [],
      a.Accepted (d.advisors factory discoverer l).2 := by
  intro a ha
  obtain ⟨advisors, heq, hmem⟩ := d.eq_ok_of_mem_advisors ha
  exact ⟨d, factory, discoverer, l, _, advisors, hfresh, heq, hmem, .refl _⟩

def Advice.withBody (a : Advice) (body : AdviceBody) : Advice := { a with method := { a.method with body } }

def ChainElement.withBody (bodies : Advice → AdviceBody) (e : ChainElement) : ChainElement :=
  { e with advisor := { e.advisor with advice := e.advisor.advice.withBody (bodies e.advisor.advice) } }

namespace CallSite

variable {s : CallSite} {a : Advice} {l l' : Loom} {plan : BindingPlan} {captured : Captures}
  {arguments : List Value}

def capturing (s : CallSite) (arguments : List Value) (captured : Captures) : JoinPoint :=
  { s.joinPoint arguments with captured := some captured }

theorem admits_of_captures (ha : a.Planned l) (hplan : a.planned.result = .ok plan)
    {e : String × Nat} (he : e ∈ plan.bindings) {v : Value}
    (hv : (((l.pointcut a).captures? s.method s.targetType arguments).getD .empty).get? e.1 = some v) :
    ∃ type, a.method.parameterTypes[e.2]? = some type ∧ type.admits v = true := by
  obtain ⟨-, hmade⟩ := BindingPlan.made_of_compute hplan
  have hpointcut : l.pointcut a = a.pointcut.withFormals plan.formals := by
    rw [Loom.pointcut, ha.1, ← hmade.formals_eq he]
    rfl
  rw [hpointcut] at hv
  cases hmatch : (a.pointcut.withFormals plan.formals).captures? s.method s.targetType arguments with
  | none =>
      rw [hmatch] at hv
      cases hv
  | some captured =>
      rw [hmatch] at hv
      have hadmitted : captured.Admitted plan.formals := Expr.captures?_admitted hmatch
      obtain ⟨type, htype, hadmits⟩ := hadmitted.get? hv
      obtain ⟨declared, hformal, hdeclared⟩ := hmade.typeOf?_eq he
      obtain rfl := Option.some.inj (hformal.symm.trans htype)
      exact ⟨declared, hdeclared, hadmits⟩

theorem fits_of_reaches (ha : a.Planned l) (hplan : a.planned.result = .ok plan)
    (hcaptured : ∀ e ∈ plan.bindings, ∀ v, captured.get? e.1 = some v →
      ∃ type, a.method.parameterTypes[e.2]? = some type ∧ type.admits v = true)
    {reached : JoinPoint} (h : a.Reaches l (s.capturing arguments captured) reached) :
    s.Fits a plan reached := by
  have hhosts : s.Hosts (s.capturing arguments captured) := ⟨rfl, rfl, rfl⟩
  have hcaptured' : ∀ c, some captured = some c → ∀ e ∈ plan.bindings, ∀ v, c.get? e.1 = some v →
      ∃ type, a.method.parameterTypes[e.2]? = some type ∧ type.admits v = true := by
    intro c hc
    cases hc
    exact hcaptured
  have hsame : ∀ {l' other}, l.Keeps l' → (l'.planning a).1.result = .ok other → other = plan := by
    intro l' other hl hother
    rw [(ha.later hl).planning_eq, hplan] at hother
    exact (Except.ok.inj hother).symm
  cases h with
  | plain hkind => exact ⟨hhosts, fun h => absurd h hkind, hcaptured', nofun, nofun⟩
  | around => exact ⟨hhosts, fun _ => rfl, hcaptured', nofun, nofun⟩
  | returned hkind hl hother hv =>
      obtain rfl := hsame hl hother
      have hnot : a.kind ≠ .around := by simp [hkind]
      refine ⟨hhosts, fun h => absurd h hnot, hcaptured', fun v h => ?_, nofun⟩
      cases h
      exact hv
  | thrown hkind hl hother he =>
      obtain rfl := hsame hl hother
      have hnot : a.kind ≠ .around := by simp [hkind]
      refine ⟨hhosts, fun h => absurd h hnot, hcaptured', nofun, fun e h => ?_⟩
      cases h
      exact he

theorem perform_withBody {body : AdviceBody} {context : JoinPoint} {aspect : Value} {args : Arguments}
    (h : body aspect args = a.method.body aspect args) (next : Continuation) :
    (a.withBody body).perform context aspect args next l = a.perform context aspect args next l := by
  have hbody : (a.withBody body).method.body aspect args = a.method.body aspect args := h
  simp only [Advice.perform, hbody]
  rfl

theorem planning_withBody (ha : a.Planned l) (body : AdviceBody) :
    l.planning (a.withBody body) = l.planning a := by
  have hplans : l.plans (a.withBody body).id = some a.planned := ha.1
  rw [ha.planning_eq]
  simp only [Loom.planning, hplans]

/-- A body can be exchanged for one that differs only on arguments that are never handed over. -/
theorem replaceable_withBody (ha : a.Planned l) {body : AdviceBody}
    (hbody : ∀ aspect args, s.Handed a args → body aspect args = a.method.body aspect args) :
    a.Replaceable (a.withBody body) l (s.capturing arguments
      (((l.pointcut a).captures? s.method s.targetType arguments).getD .empty)) where
  factory_eq := rfl
  kind_eq := rfl
  planning_eq l' hl := planning_withBody (ha.later hl) body
  invoke {reached} hreached aspect next other l' hl hnext := by
    obtain ⟨plan, hplan⟩ := ha.2
    have hplans : l'.planning a = (a.planned, l') := (ha.later hl).planning_eq
    have hplans' : l'.planning (a.withBody body) = (a.planned, l') :=
      (planning_withBody (ha.later hl) body).trans hplans
    have hfits := fits_of_reaches ha hplan (fun _ he _ hv => admits_of_captures ha hplan he hv) hreached
    simp only [Advice.invoke_eq, hplans, hplans', hplan]
    split
    · exact (Loom.Keeps.refl l').alike _
    · next args hbind =>
        have hhanded : s.Handed a args := handed_of_bind hplan hfits hbind
        rw [perform_withBody (hbody aspect args hhanded)]
        exact Advice.perform_alike aspect args hnext

theorem run_withBody {chain : List ChainElement} {bodies : Advice → AdviceBody}
    (ha : ∀ e ∈ chain, e.advisor.advice.Planned l)
    (hbody : ∀ a aspect args, s.Handed a args → bodies a aspect args = a.method.body aspect args) :
    l.Alike (s.run chain arguments l) (s.run (chain.map (·.withBody bodies)) arguments l) := by
  induction chain generalizing arguments l with
  | nil => exact (keeps_run [] arguments l).alike _
  | cons e rest ih =>
      obtain ⟨he, hrest⟩ := List.forall_mem_cons.1 ha
      have hnext : Continuation.Alike l (s.replace arguments (s.run rest))
          (s.replace arguments (s.run (rest.map (·.withBody bodies)))) :=
        replace_alike fun others l' _ hl => ih fun e' he' => (hrest e' he').later hl
      have hpointcut : l.pointcut (e.withBody bodies).advisor.advice = l.pointcut e.advisor.advice := rfl
      have hadmits (pointcut : ExpressionPointcut) :
          s.admits (e.withBody bodies) pointcut arguments = s.admits e pointcut arguments := rfl
      simp only [List.map_cons, run, hpointcut, hadmits]
      split
      · exact (Loom.Keeps.refl l).alike _
      · exact ih hrest
      · exact (replaceable_withBody he fun aspect args => hbody _ aspect args).intercept_alike s.target hnext

end CallSite

namespace Proxy

/-- In a call a body is handed one argument for each parameter, of the parameter's type unless the
parameter is misplaced: other bodies, which agree on such arguments only, do the same. -/
theorem invoke_withBody_of_handed (targetType : TypeInfo) (target : Option Target)
    (advisors : List Advisor) (l : Loom) (ha : ∀ a ∈ advisors, a.Accepted l) (p : Proxy) (l' : Loom)
    (h : (build targetType target advisors).Leads l p l') (method : Method) (arguments : List Value)
    (respond : List Value → Except Thrown (Option Value)) (bodies : Advice → AdviceBody)
    (hbody : ∀ a aspect args, (p.site method respond).Handed a args →
      bodies a aspect args = a.method.body aspect args) :
    (p.site method respond).run ((p.chainFor method l').1.map (·.withBody bodies)) arguments l' =
      ((p.invoke method arguments respond l').1, (p.invoke method arguments respond l').2.2) := by
  have hr : ∀ a ∈ advisors, a.Returned l := fun a hmem => (ha a hmem).returned
  obtain ⟨hl, hserves⟩ := h.serves (build_serves l targetType target advisors) hr
  have hplanned : ∀ e ∈ (p.chainFor method l').1, e.advisor.advice.Planned l' := by
    intro e he
    obtain ⟨hmem, -⟩ := hserves.mem_chainFor hr hl he
    exact (ha _ hmem).planned.later hl
  have hsite : (p.chainFor method l').2.site method respond = p.site method respond := by
    simp only [chainFor]
    split <;> rfl
  simp only [invoke, hsite]
  exact (CallSite.run_withBody hplanned hbody).1.symm

/-- The second parameter is for a join point that can proceed. The advice runs before the call, and
is handed the second argument of the call. -/
theorem second_argument_for_proceeding :
    let check : AdviceMethod :=
      ⟨"check", .ofName "Guard", [⟨some "n", .value (.ofRuntime .word32)⟩, ⟨some "p", .proceedingJoinPoint⟩],
        [(Marker.ofName "Before").set "pointcut" "execution(* find(..)) && args(n, p)"],
        Action.body [.count, .raw 1]⟩
    let guard : AspectDefinition :=
      ⟨"guard", .ofName "Guard", false, some 0, [check], 0, fun _ => .done (.ok .unit)⟩
    let given := guard.advisors (guard.factory (.empty 0)).1 (.standard true) (.empty 0)
    let advisors := given.1.toOption.getD []
    let find : Method := ⟨.ofName "Orders", "find", [.ofRuntime .word32, .ofRuntime .word32], none⟩
    let p := build (.ofName "Orders") none advisors
    let call := p.invoke find [.word32 7, .word32 8] (fun _ => .ok none) given.2
    let counting (a : Advice) : AdviceBody := fun aspect args =>
      if args.length = a.method.parameters.length then a.method.body aspect args
      else .done (.error (.thrown .auditRejected))
    (∀ a ∈ advisors, a.Accepted given.2) ∧
      (p.site find (fun _ => .ok none)).run ((p.chainFor find given.2).1.map (·.withBody counting))
        [.word32 7, .word32 8] given.2 = (call.1, call.2.2) ∧
      call.2.2.journal = ["argc 2 false", "raw u32:8", "target [u32:7, u32:8]"] := by
  intro check guard given advisors find p call counting
  have ha : ∀ a ∈ advisors, a.Accepted given.2 :=
    guard.accepted_of_advisors (guard.factory (.empty 0)).1 (.standard true) (Loom.isFresh_empty 0)
  refine ⟨ha, ?_, ?_⟩
  · refine invoke_withBody_of_handed _ none advisors given.2 ha p given.2 .refl find _ _ counting ?_
    rintro a aspect args ⟨plan, -, hlength, -⟩
    simp only [counting, hlength, if_true]
  · decide +kernel

end Proxy

end Weaving
