import Weaving.Proofs.SettledPlans

namespace Weaving

/-- What is asked for once the advisors of an aspect are there. Advisors and proxies go by number. -/
inductive Request where
  | proxy (targetType : TypeInfo) (target : Option Target) (used : List Nat)
  | invoke (proxy : Nat) (method : Method) (arguments : List Value)
      (respond : List Value → Except Thrown (Option Value))
  | plan (advisor : Nat)

inductive Reply where
  | made
  | result (r : CallResult)
  | plan (r : Except EngineError BindingPlan)
  | unknown

def Reply.error? : Reply → Option EngineError
  | .result (.error e) | .plan (.error e) => some e
  | _ => none

/-- The advisors of an aspect with the proxies that were made of them. -/
structure Session where
  advisors : List Advisor
  proxies : List Proxy
  loom : Loom

namespace Session

def perform (s : Session) : Request → Reply × Session
  | .proxy targetType target used =>
    let p := Proxy.build targetType target (used.filterMap (s.advisors[·]?))
    (.made, { s with proxies := s.proxies ++ [p] })
  | .invoke index method arguments respond =>
    match s.proxies[index]? with
    | none => (.unknown, s)
    | some p =>
      let (result, p, l) := p.invoke method arguments respond s.loom
      (.result result, { s with proxies := s.proxies.set index p, loom := l })
  | .plan index =>
    match s.advisors[index]? with
    | none => (.unknown, s)
    | some a =>
      let (planning, l) := s.loom.planning a.advice
      (.plan planning.result, { s with loom := l })

def run : List Request → Session → List (Request × Reply) × Session
  | [], s => ([], s)
  | request :: rest, s =>
    let (reply, s) := s.perform request
    let (replies, s) := run rest s
    ((request, reply) :: replies, s)

end Session

/-- A reply without an error of configuration. A plan that is asked for is the one made in `l`. -/
structure Reply.Settled (advisors : List Advisor) (l : Loom) (request : Request) (reply : Reply) : Prop where
  sound : ∀ e, reply.error? = some e → e.isConfiguration = false
  plan : ∀ index a, request = .plan index → advisors[index]? = some a →
    ∃ plan, (l.plans a.advice.id).map Planning.result = some (.ok plan) ∧ reply = .plan (.ok plan)

theorem Reply.Settled.of_ne_plan {advisors : List Advisor} {l : Loom} {request : Request} {reply : Reply}
    (h : ∀ e, reply.error? = some e → e.isConfiguration = false)
    (hrequest : ∀ index, request ≠ .plan index) : reply.Settled advisors l request :=
  ⟨h, fun index _ heq _ => absurd heq (hrequest index)⟩

namespace Session

variable {advisors : List Advisor} {l : Loom} {s : Session}

/-- A session since `l`: its proxies are made of the advisors, and no plan was made. -/
structure Holds (advisors : List Advisor) (l : Loom) (s : Session) : Prop where
  advisors_eq : s.advisors = advisors
  weaves : l.Weaves advisors s.loom
  serves : ∀ p ∈ s.proxies, p.Serves l p.targetType advisors

theorem holds_begin (advisors : List Advisor) (l : Loom) : Holds advisors l ⟨advisors, [], l⟩ :=
  ⟨rfl, .refl, fun _ hp => absurd hp List.not_mem_nil⟩

section Advisors

variable (hreturned : ∀ a ∈ advisors, a.Returned l) (hsettled : ∀ a ∈ advisors, a.Settled l)

include hreturned hsettled

theorem invoke_settles {p : Proxy} {l' : Loom} (hp : p.Serves l p.targetType advisors)
    (hl : l.Weaves advisors l') (method : Method) (arguments : List Value)
    (respond : List Value → Except Thrown (Option Value)) :
    let called := p.invoke method arguments respond l'
    l.Settles advisors (called.1, called.2.2) ∧ called.2.1.Serves l called.2.1.targetType advisors := by
  intro called
  have hchain : ∀ e ∈ (p.chainFor method l').1, e.advisor ∈ advisors ∧ e.advisor.Settled l := by
    intro e he
    obtain ⟨hmem, -⟩ := hp.mem_chainFor hreturned hl.keeps he
    exact ⟨hmem, hsettled _ hmem⟩
  refine ⟨CallSite.run_settles hchain hl, ?_⟩
  have hserves := hp.chainFor hreturned hl.keeps method
  have htype : (p.chainFor method l').2.targetType = p.targetType := hserves.targetType_eq
  rw [← htype] at hserves
  exact hserves

theorem Holds.perform (h : s.Holds advisors l) (request : Request) :
    (s.perform request).2.Holds advisors l ∧ (s.perform request).1.Settled advisors l request := by
  obtain ⟨hadvisors, hl, hserves⟩ := h
  cases request with
  | proxy targetType target used =>
      constructor
      · refine ⟨hadvisors, hl, ?_⟩
        intro p hp
        rcases List.mem_append.1 hp with hp | hp
        · exact hserves p hp
        · obtain rfl := List.mem_singleton.1 hp
          refine (Proxy.build_serves l targetType target _).mono ?_
          intro a ha
          obtain ⟨i, -, hi⟩ := List.mem_filterMap.1 ha
          rw [← hadvisors]
          exact List.mem_of_getElem? hi
      · exact .of_ne_plan nofun nofun
  | invoke index method arguments respond =>
      simp only [Session.perform]
      split
      · exact ⟨⟨hadvisors, hl, hserves⟩, .of_ne_plan nofun nofun⟩
      · next p hp =>
          obtain ⟨⟨hweaves, hsound⟩, hserves'⟩ := invoke_settles hreturned hsettled
            (hserves p (List.mem_of_getElem? hp)) hl method arguments respond
          generalize p.invoke method arguments respond s.loom = called at hweaves hsound hserves'
          obtain ⟨result, p', l'⟩ := called
          refine ⟨⟨hadvisors, hweaves, ?_⟩, .of_ne_plan ?_ nofun⟩
          · intro q hq
            rcases List.mem_or_eq_of_mem_set hq with hq | rfl
            · exact hserves q hq
            · exact hserves'
          · intro e he
            cases result with
            | ok v => cases he
            | error e' =>
                obtain rfl := Option.some.inj he
                exact hsound e' rfl
  | plan index =>
      simp only [Session.perform, hadvisors]
      cases ha : advisors[index]? with
      | none =>
          refine ⟨⟨hadvisors, hl, hserves⟩, nofun, ?_⟩
          rintro _ a ⟨⟩ hsome
          rw [ha] at hsome
          cases hsome
      | some a =>
          have hmem := List.mem_of_getElem? ha
          obtain ⟨⟨hplans, plan, hplan⟩, -⟩ := hsettled a hmem
          simp only [Advice.planning_of_settled (hsettled a hmem) hl, hplan]
          refine ⟨⟨rfl, hl, hserves⟩, nofun, ?_⟩
          rintro _ b ⟨⟩ hb
          rw [ha] at hb
          obtain rfl := Option.some.inj hb
          exact ⟨plan, by rw [hplans, Option.map_some, hplan], rfl⟩

theorem Holds.run (h : s.Holds advisors l) (requests : List Request) :
    (Session.run requests s).2.Holds advisors l ∧
      ∀ answered ∈ (Session.run requests s).1, answered.2.Settled advisors l answered.1 := by
  induction requests generalizing s with
  | nil => exact ⟨h, fun _ ha => absurd ha List.not_mem_nil⟩
  | cons request rest ih =>
      obtain ⟨hstep, hreply⟩ := h.perform hreturned hsettled request
      obtain ⟨hend, hrest⟩ := ih hstep
      exact ⟨hend, List.forall_mem_cons.2 ⟨hreply, hrest⟩⟩

end Advisors

end Session

namespace Loom

theorem trace_planning {l : Loom} {a : Advice} (h : l.plans a.id = none) :
    (l.planning a).2.world.trace =
      if a.planned.consulted = true then .discovery a.id :: l.world.trace else l.world.trace := by
  simp only [planning, h]
  rw [Advice.planned]
  split <;> rfl

theorem discoveries_planning {l : Loom} {a : Advice} (h : l.plans a.id = none) (b : Advice) :
    (l.planning a).2.discoveries b =
      l.discoveries b + if b.id = a.id ∧ a.planned.consulted = true then 1 else 0 := by
  rw [discoveries, trace_planning h]
  by_cases hconsulted : a.planned.consulted = true
  · rw [if_pos hconsulted]
    by_cases hid : b.id = a.id
    · simp [discoveries, hconsulted, hid]
    · have hne : a.id ≠ b.id := Ne.symm hid
      simp [discoveries, hid, hne]
  · rw [if_neg hconsulted, if_neg fun h => hconsulted h.2]
    rfl

theorem isTacit_planning {l : Loom} (h : l.world.IsTacit) (a : Advice) :
    (l.planning a).2.world.IsTacit := by
  cases hplan : l.plans a.id with
  | some p =>
      rw [Loom.planning, hplan]
      exact h
  | none =>
      simp only [Loom.planning, hplan]
      split <;> exact ⟨h.definitions, h.factories⟩

/-- The advice that is made next and planned at once. -/
theorem IsFresh.discoveries_newAdvice {l : Loom} (h : l.IsFresh) (method : AdviceMethod)
    (specification : AdviceSpecification) (pointcut : ExpressionPointcut) (factory : Factory)
    (discoverer : Discoverer) (position : Nat) :
    let made := l.newAdvice method specification pointcut factory discoverer position
    made.1.id = l.nextAdvice ∧ (made.2.planning made.1).2.nextAdvice = l.nextAdvice + 1 ∧
      ∀ b : Advice, (made.2.planning made.1).2.discoveries b =
        l.discoveries b + if b.id = l.nextAdvice ∧ made.1.planned.consulted = true then 1 else 0 := by
  intro made
  have hnone : made.2.plans made.1.id = none := h l.nextAdvice (Nat.le_refl _)
  obtain ⟨-, -, hnext⟩ := planning_of_none hnone
  exact ⟨rfl, hnext, fun b => discoveries_planning hnone b⟩

end Loom

namespace AspectDefinition

variable {factory : Factory} {discoverer : Discoverer} {l l' : Loom} {advisors : List Advisor}

section AdvisorsOf

variable {references : Expr.References} {declared : List (AdviceMethod × Nat × AdviceSpecification)}

/-- New advice is numbered from `l` on. Its discoverer is asked once or not at all. -/
theorem discoveries_of_advisorsOf (hfresh : l.IsFresh)
    (h : advisorsOf factory discoverer references declared l = (.ok advisors, l')) :
    (∀ b : Advice, b.id < l.nextAdvice → l'.discoveries b = l.discoveries b) ∧
      ∀ a ∈ advisors, l.nextAdvice ≤ a.advice.id ∧ l'.discoveries a.advice =
        l.discoveries a.advice + if a.advice.planned.consulted = true then 1 else 0 := by
  induction declared generalizing l advisors with
  | nil =>
      cases h
      exact ⟨fun _ _ => rfl, fun _ ha => absurd ha List.not_mem_nil⟩
  | cons d rest ih =>
      obtain ⟨pointcut, others, -, rfl, hof⟩ := advisorsOf_cons_eq_ok h
      obtain ⟨-, hfresh'⟩ := hfresh.newAdvice d.1 d.2.2 pointcut factory discoverer d.2.1
      obtain ⟨hid, hnext, hcount⟩ :=
        hfresh.discoveries_newAdvice d.1 d.2.2 pointcut factory discoverer d.2.1
      -- The rest is numbered behind this advice, so neither is counted for the other.
      obtain ⟨hbefore, hothers⟩ := ih hfresh' hof
      rw [hnext] at hbefore hothers
      refine ⟨?_, List.forall_mem_cons.2 ⟨⟨Nat.le_of_eq hid.symm, ?_⟩, ?_⟩⟩
      · intro b hb
        rw [hbefore b (by omega), hcount, if_neg (by omega), Nat.add_zero]
      · rw [hbefore _ (Nat.lt_succ_of_le (Nat.le_of_eq hid)), hcount]
        simp [hid]
      · intro a ha
        obtain ⟨hlater, hdiscoveries⟩ := hothers a ha
        refine ⟨by omega, ?_⟩
        rw [hdiscoveries, hcount, if_neg (by omega), Nat.add_zero]

theorem isTacit_of_advisorsOf (hl : l.world.IsTacit)
    (h : advisorsOf factory discoverer references declared l = (.ok advisors, l')) : l'.world.IsTacit := by
  induction declared generalizing l advisors with
  | nil =>
      cases h
      exact hl
  | cons d rest ih =>
      obtain ⟨pointcut, others, -, -, hof⟩ := advisorsOf_cons_eq_ok h
      have hmade : (l.newAdvice d.1 d.2.2 pointcut factory discoverer d.2.1).2.world.IsTacit := hl
      exact ih (Loom.isTacit_planning hmade _) hof

theorem mem_of_advisorsOf (h : advisorsOf factory discoverer references declared l = (.ok advisors, l')) :
    ∀ a ∈ advisors, a.advice.factory = factory ∧
      (a.advice.method, a.advice.position, a.advice.specification) ∈ declared := by
  induction declared generalizing l advisors with
  | nil =>
      cases h
      exact fun _ ha => absurd ha List.not_mem_nil
  | cons d rest ih =>
      obtain ⟨pointcut, others, -, rfl, hof⟩ := advisorsOf_cons_eq_ok h
      refine List.forall_mem_cons.2 ⟨⟨rfl, List.mem_cons_self⟩, ?_⟩
      intro a ha
      obtain ⟨hfactory, hmem⟩ := ih hof a ha
      exact ⟨hfactory, List.mem_cons_of_mem _ hmem⟩

end AdvisorsOf

theorem mem_declarations {methods : List (AdviceMethod × Nat)}
    {declared : List (AdviceMethod × Nat × AdviceSpecification)} {references : Expr.References}
    (h : declarations methods = .ok (declared, references)) :
    ∀ e ∈ declared, (e.1, e.2.1) ∈ methods := by
  induction methods generalizing declared references with
  | nil =>
      cases h
      exact fun _ he => absurd he List.not_mem_nil
  | cons m rest ih =>
      obtain ⟨method, position⟩ := m
      simp only [declarations] at h
      split at h
      · exact fun e he => List.mem_cons_of_mem _ (ih h e he)
      · split at h
        · cases h
        · split at h
          · cases h
          · next heq =>
              split at h
              · cases h
                exact fun e he => List.mem_cons_of_mem _ (ih heq e he)
              · cases h
                refine List.forall_mem_cons.2 ⟨List.mem_cons_self, ?_⟩
                exact fun e he => List.mem_cons_of_mem _ (ih heq e he)

section Advisors

variable {d : AspectDefinition} (h : d.advisors factory discoverer l = (.ok advisors, l'))

include h

theorem settled_of_advisors (hfresh : l.IsFresh) :
    ∀ a ∈ advisors, a.advice.Planned l' ∧ l'.discoveries a.advice =
      l.discoveries a.advice + if a.advice.planned.consulted = true then 1 else 0 := by
  intro a ha
  obtain ⟨declared, references, -, hof⟩ := advisors_eq_ok h
  exact ⟨(planned_of_advisorsOf hfresh hof).2 a ha, ((discoveries_of_advisorsOf hfresh hof).2 a ha).2⟩

theorem isTacit_of_advisors (hl : l.world.IsTacit) : l'.world.IsTacit := by
  obtain ⟨declared, references, -, hof⟩ := advisors_eq_ok h
  exact isTacit_of_advisorsOf hl hof

theorem mem_of_advisors : ∀ a ∈ advisors, a.advice.factory = factory ∧ a.advice.method ∈ d.methods := by
  intro a ha
  obtain ⟨declared, references, hdeclared, hof⟩ := advisors_eq_ok h
  obtain ⟨hfactory, hmem⟩ := mem_of_advisorsOf hof a ha
  have hposition := List.mem_zipIdx_iff_getElem?.1 (mem_declarations hdeclared _ hmem)
  exact ⟨hfactory, List.mem_of_getElem? hposition⟩

end Advisors

/-- An aspect that was accepted is in order: whatever is called and asked for later, there is no error
of configuration, each advice has the plan that was made with it, and no plan is made again.
Its discoverer was asked once at most, and is never asked again unless a constructor does it. -/
theorem settled_when_accepted (d : AspectDefinition) (factory : Factory) (discoverer : Discoverer)
    (l l' : Loom) (advisors : List Advisor) (hfresh : l.IsFresh)
    (h : d.advisors factory discoverer l = (.ok advisors, l'))
    (hbodies : ∀ a ∈ advisors, a.advice.PassesOn) (requests : List Request) :
    let later := Session.run requests ⟨advisors, [], l'⟩
    (∀ a ∈ advisors, a.advice.Planned l' ∧ l'.discoveries a.advice =
        l.discoveries a.advice + if a.advice.planned.consulted = true then 1 else 0) ∧
      (∀ answered ∈ later.1, answered.2.Settled advisors l' answered.1) ∧
      l'.Weaves advisors later.2.loom ∧
      (factory.IsTacit → l.world.IsTacit →
        ∀ a ∈ advisors, later.2.loom.discoveries a.advice = l'.discoveries a.advice) := by
  intro later
  have hsettled := settled_of_advisors h hfresh
  have hreturned : ∀ a ∈ advisors, a.Returned l' :=
    fun a ha => ⟨d, factory, discoverer, l, l', advisors, h, ha, .refl l'⟩
  obtain ⟨hend, hreplies⟩ := (Session.holds_begin advisors l').run hreturned
    (fun a ha => ⟨(hsettled a ha).1, hbodies a ha⟩) requests
  refine ⟨hsettled, hreplies, hend.weaves, ?_⟩
  intro hfactory hl a _
  refine hend.weaves.discoveries_eq ?_ (isTacit_of_advisors h hl) a.advice
  intro b hb
  rw [(mem_of_advisors h b hb).1]
  exact hfactory

/-- A call that fails and one that does not, with plans asked for before, between and behind them. -/
theorem calls_of_accepted_audit :
    let time : AdviceMethod := ⟨"time", .ofName "Audit",
      [⟨some "call", .proceedingJoinPoint⟩, ⟨some "id", .value (.ofRuntime .word32)⟩],
      [(Marker.ofName "Around").set "pointcut" "execution(* find(..)) && args(id)"],
      Action.body [.raw 1, .proceed none, .giveBackLast]⟩
    let report : AdviceMethod := ⟨"report", .ofName "Audit", [⟨some "failure", .error .any⟩],
      [((Marker.ofName "AfterThrowing").set "pointcut" "execution(* find(..))").set "throwing" "failure"],
      Action.body [.error 0]⟩
    let audit : AspectDefinition :=
      ⟨"audit", .ofName "Audit", false, some 0, [time, report], 0, Program.construction "audit" [] "down"⟩
    let created := audit.advisors (audit.factory (.empty 0)).1 (.standard true) (.empty 0)
    let advisors := created.1.toOption.getD []
    let find : Method := ⟨.ofName "Orders", "find", [.ofRuntime .word32], none⟩
    let requests : List Request := [.plan 0, .proxy (.ofName "Orders") none [0, 1],
      .invoke 0 find [.word32 7] (fun _ => .error (.orderNotFound 7)), .plan 1,
      .invoke 0 find [.word32 8] (fun _ => .ok none), .plan 0]
    let later := Session.run requests ⟨advisors, [], created.2⟩
    created = (.ok advisors, created.2) ∧
      later.1.map (fun answered => answered.2.error?) =
        [none, none, some (.thrown (.orderNotFound 7)), none, none, none] ∧
      (∀ answered ∈ later.1, answered.2.Settled advisors created.2 answered.1) ∧
      ∀ a ∈ advisors, later.2.loom.discoveries a.advice = created.2.discoveries a.advice := by
  intro time report audit created advisors find requests later
  have hcreated : created = (.ok advisors, created.2) := by
    have hsome : created.1.toOption.isSome = true := by decide +kernel
    have hgiven (r : Except EngineError (List Advisor)) (h : r.toOption.isSome = true) :
        r = .ok (r.toOption.getD []) := by
      cases r with
      | error e => cases h
      | ok given => rfl
    exact Prod.ext (hgiven created.1 hsome) rfl
  have hbodies : ∀ a ∈ advisors, a.advice.PassesOn := by
    intro a ha aspect args
    obtain ⟨-, hmethod⟩ := mem_of_advisors hcreated a ha
    have hscript {script : List Action} (h : ∀ e, Action.fail e ∉ script) :
        (Action.body script aspect args).PassesOn fun _ => False :=
      Action.passesOn_course h aspect args none _
    rcases List.mem_cons.1 hmethod with heq | hmethod
    · rw [heq]
      exact hscript (by simp)
    · rw [List.mem_singleton.1 hmethod]
      exact hscript (by simp)
  obtain ⟨-, hreplies, -, hdiscoveries⟩ := audit.settled_when_accepted (audit.factory (.empty 0)).1
    (.standard true) (.empty 0) created.2 advisors (Loom.isFresh_empty 0) hcreated hbodies requests
  refine ⟨hcreated, ?_, hreplies, ?_⟩
  · decide +kernel
  · intro a ha
    have htacit : (audit.factory (.empty 0)).1.IsTacit := Program.isTacit_construction "audit" [] "down"
    rw [← hdiscoveries htacit (World.isTacit_empty 0) a ha]

end AspectDefinition

end Weaving
