import Weaving.Aspect.Advice

namespace Weaving

/-- An aspect: how to make it and which methods it has. Its constructor counts its
calls in the cell `counter`. -/
structure AspectDefinition where
  name : String
  type : TypeInfo
  perTarget : Bool
  order : Option Int
  methods : List AdviceMethod
  counter : Nat
  constructor : Nat → Program

namespace AspectDefinition

def model (d : AspectDefinition) : String := if d.perTarget then "PerTarget" else "Singleton"

def render (d : AspectDefinition) : String :=
  Text.record "AspectDefinition"
    [("name", Text.quoted d.name), ("aspect_type", Text.quoted d.type.name),
      ("instantiation", d.model), ("order", Text.optional (d.order.map toString)),
      ("methods", toString d.methods.length)]

/-- The factory that the aspect's model asks for. -/
def factory (d : AspectDefinition) (w : World) : Factory × World :=
  let (cell, w) := w.newCell
  let simple := Factory.simple cell d.counter d.name (d.order.getD lowestPrecedence) d.constructor
  let (cell, w) := w.newCell
  (if d.perTarget then .perTarget cell simple else .lazy cell simple, w)

/-- The advice that the methods declare, with their positions, and the pointcuts that
they name. Methods that declare nothing are passed over. -/
def declarations : List (AdviceMethod × Nat) →
    Except EngineError (List (AdviceMethod × Nat × AdviceSpecification) × Expr.References)
  | [] => .ok ([], [])
  | (method, position) :: rest =>
    if (AdviceSpecification.recognized method).isEmpty then declarations rest
    else
      match AdviceSpecification.ofMethod method with
      | .error e => .error e
      | .ok specification =>
        match declarations rest with
        | .error e => .error e
        | .ok (advice, references) =>
          if specification.kind = .pointcut then
            .ok (advice, references ++ [(method.name, specification.expression)])
          else .ok ((method, position, specification) :: advice, references)

/-- Makes one advisor for each advice and plans its arguments at once. -/
def advisorsOf (factory : Factory) (discoverer : Discoverer) (references : Expr.References) :
    List (AdviceMethod × Nat × AdviceSpecification) → Loom →
      Except EngineError (List Advisor) × Loom
  | [], l => (.ok [], l)
  | (method, position, specification) :: rest, l =>
    match ExpressionPointcut.parse references specification.expression with
    | .error e => (.error e, l)
    | .ok pointcut =>
      let (advice, l) := l.newAdvice method specification pointcut factory discoverer position
      let (planning, l) := l.planning advice
      match planning.result with
      | .error e => (.error e, l)
      | .ok _ =>
        match advisorsOf factory discoverer references rest l with
        | (.error e, l) => (.error e, l)
        | (.ok advisors, l) => (.ok (⟨advice, factory.order⟩ :: advisors), l)

/-- The advisors of an aspect whose instances come from the factory. -/
def advisors (d : AspectDefinition) (factory : Factory) (discoverer : Discoverer) (l : Loom) :
    Except EngineError (List Advisor) × Loom :=
  match declarations d.methods.zipIdx with
  | .error e => (.error e, l)
  | .ok (advice, references) => advisorsOf factory discoverer references advice l

end AspectDefinition

end Weaving
