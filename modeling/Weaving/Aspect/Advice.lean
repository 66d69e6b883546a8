import Weaving.Advice.BindingPlan
import Weaving.Advice.Precedence
import Weaving.Lifecycle.Execution

namespace Weaving

/-- An advice of an aspect: its method, what the method's marker asks for, the pointcut
as it was parsed, and where the aspect comes from. The number tells its plan from the
plans of other advice. -/
structure Advice where
  id : Nat
  method : AdviceMethod
  specification : AdviceSpecification
  pointcut : ExpressionPointcut
  factory : Factory
  discoverer : Discoverer
  position : Nat

/-- An advice with the order of its aspect. -/
structure Advisor where
  advice : Advice
  order : Int

namespace Advice

def kind (a : Advice) : AdviceKind := a.specification.kind

def aspectName (a : Advice) : String := a.factory.name

def render (a : Advice) : String :=
  Text.record "AspectJAdvice"
    [("kind", a.kind.markerName), ("method", Text.quoted a.method.render),
      ("pointcut", Text.quoted a.pointcut.expression), ("aspect", Text.quoted a.aspectName),
      ("declaration_order", toString a.position)]

end Advice

namespace Advisor

/-- What two advisors have in common if one of them is superfluous. -/
def key (a : Advisor) : String × String × String :=
  (a.advice.aspectName, a.advice.method.name, a.advice.pointcut.expression)

def label (a : Advisor) : String := a.advice.aspectName ++ "." ++ a.advice.method.name

def rank (a : Advisor) : Rank :=
  ⟨a.order, some (a.advice.aspectName, a.advice.position, a.advice.kind)⟩

def render (a : Advisor) : String :=
  Text.record "Advisor"
    [("aspect", Text.quoted a.advice.aspectName), ("method", Text.quoted a.advice.method.name),
      ("kind", a.advice.kind.markerName),
      ("pointcut", Text.quoted a.advice.pointcut.expression), ("order", toString a.order),
      ("declaration_order", toString a.advice.position)]

end Advisor

/-- The state in which advice runs: the objects of the program, what the bodies of advice keep,
and the plans that were made for advice so far. A plan is made once and kept, even if making
it failed. -/
structure Loom where
  world : World
  memory : Memory
  plans : Nat → Option Planning
  nextAdvice : Nat

namespace Loom

def empty (depth : Nat) : Loom := ⟨.empty depth, fun _ => none, fun _ => none, 0⟩

def record (l : Loom) (e : Event) : Loom := { l with world := l.world.record e }

/-- What the bodies keep, which is changed as it is looked at. -/
def access (change : Memory → Memory) (l : Loom) : Memory × Loom :=
  (l.memory, { l with memory := change l.memory })

/-- The planning of an advice, made now if it was not made before. -/
def planning (a : Advice) (l : Loom) : Planning × Loom :=
  match l.plans a.id with
  | some p => (p, l)
  | none =>
    let p := Planning.compute a.method a.specification a.discoverer a.pointcut
    let l := if p.consulted then l.record (.discovery a.id) else l
    (p, { l with plans := change l.plans a.id (some p) })

/-- The pointcut of an advice, with formal parameters once its plan is made. A plan
changes nothing else about it. -/
def pointcut (l : Loom) (a : Advice) : ExpressionPointcut :=
  match l.plans a.id with
  | some p => a.pointcut.withFormals p.pointcut.formals
  | none => a.pointcut

/-- How often the discoverer of an advice was asked. -/
def discoveries (l : Loom) (a : Advice) : Nat := l.world.trace.count (.discovery a.id)

/-- The lines of the journal, oldest first. -/
def journal (l : Loom) : List String := l.world.trace.reverse.filterMap Event.line?

/-- The lines that a run added to the journal of an earlier state. -/
def journalSince (l earlier : Loom) : List String := l.journal.drop earlier.journal.length

/-- Makes an advice of a method. -/
def newAdvice (l : Loom) (method : AdviceMethod) (specification : AdviceSpecification)
    (pointcut : ExpressionPointcut) (factory : Factory) (discoverer : Discoverer)
    (position : Nat) : Advice × Loom :=
  (⟨l.nextAdvice, method, specification, pointcut, factory, discoverer, position⟩,
    { l with nextAdvice := l.nextAdvice + 1 })

/-- A factory with an instance that is there already. -/
def singletonFactory (l : Loom) (name : String) (v : Value) (order : Int) : Factory × Loom :=
  let (i, w) := l.world.allocate v
  (.singleton name i order, { l with world := w })

end Loom

end Weaving
