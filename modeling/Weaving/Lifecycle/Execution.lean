import Weaving.Lifecycle.Creation

namespace Weaving

/-- Runs the program of a constructor, given how to execute its operations. -/
def Program.run (execute : Operation → World → Outcome × World) :
    Program → World → Except String Value × World
  | .done result, w => (result, w)
  | .call operation next, w =>
    let answer := execute operation w
    (next answer.1).run execute answer.2
  | .report outcome rest, w => rest.run execute (w.report outcome)
  | .record event rest, w => rest.run execute (w.record event)

namespace World

def outcomeOf : Except EngineError Instance → Outcome
  | .ok i => .instance i
  | .error e => .engine e

/-- Looks a factory up by its name. -/
def withFactory (w : World) (id : String) (f : Handle → Outcome × World) : Outcome × World :=
  match w.factories.lookup id with
  | some h => f h
  | none => (.unknown id, w)

/-- Gives a new factory its name and answers with what it is. -/
def addFactory (w : World) (id : String) (f : Factory) (managed : Bool) : Outcome × World :=
  (.factory f.name f.order none, w.nameFactory id ⟨f, managed⟩)

def details? (w : World) (h : Handle) : Option FactoryDetails :=
  match h.managed, h.factory with
  | false, .lazy cell _ => some (.lazy (w.stored cell).isSome)
  | false, .perTarget cell _ => some (.perTarget (w.liveEntries cell).length)
  | _, _ => none

/-- Executes an operation, given how to run the programs of constructors. -/
def perform (build : Build) : Operation → World → Outcome × World
  | .define bean supplier, w =>
    match w.container.define bean supplier with
    | .error e => (.container e, w)
    | .ok c => (.text (bean.debug ++ " " ++ bean.scope.render), { w with container := c })
  | .register name v, w =>
    let (i, w) := w.allocate v
    match w.container.register name i with
    | .error e => (.container e, w)
    | .ok c => (.done, { w with container := c })
  | .bean name, w =>
    match getBean build name w with
    | (.error e, w) => (.container e, w)
    | (.ok i, w) => (.instance i, w)
  | .beanInfo name, w =>
    (.bean (w.container.contains name) (w.container.isSingleton name)
      (w.container.typeName name) (w.container.order? name), w)
  | .beanNames, w => (.names w.container.names w.container.definitions.length, w)
  | .destroy, w => (.done, { w with container := w.container.destroy })
  | .containerLock, w => (.lock (some .container), w)
  | .newSingleton id name v order, w =>
    let (i, w) := w.allocate v
    w.addFactory id (.singleton name i order) false
  | .newSimple id name order constructor, w =>
    let (cell, w) := w.newCell
    w.addFactory id (.simple cell cell name order constructor) false
  | .newBean id bean order plain, w =>
    let (cell, w) := w.newCell
    let declared := if plain then none else w.container.order? bean
    w.addFactory id (.bean cell bean ((order.or declared).getD lowestPrecedence) plain) false
  | .newPrototype id bean plain, w =>
    match w.container.isSingleton bean with
    | .ok true => (.engine (.configuration
        ("cannot use PrototypeAspectInstanceFactory with bean named '" ++ bean ++
          "': bean is not a prototype")), w)
    | _ =>
      match managedFactory bean plain w with
      | (.error e, w) => (.engine e, w)
      | (.ok f, w) => w.addFactory id f false
  | .newManaged id bean plain, w =>
    match managedFactory bean plain w with
    | (.error e, w) => (.engine e, w)
    | (.ok f, w) => w.addFactory id f true
  | .newLazy id delegate, w =>
    w.withFactory delegate fun h =>
      let (cell, w) := w.newCell
      w.addFactory id (.lazy cell h.factory) false
  | .newPerTarget id delegate, w =>
    w.withFactory delegate fun h =>
      let (cell, w) := w.newCell
      w.addFactory id (.perTarget cell h.factory) false
  | .get id, w =>
    w.withFactory id fun h =>
      let (r, w) := getInstance build h.factory w
      (outcomeOf r, w)
  | .getFor id target, w =>
    w.withFactory id fun h =>
      match target.bind (w.targets.lookup ·) with
      | none =>
        let (r, w) := getInstanceFor build h.factory none w
        (outcomeOf r, w)
      | some t =>
        let (r, w) := getInstanceFor build h.factory (some t) { w with held := t :: w.held }
        (outcomeOf r, { w with held := w.held.erase t })
  | .lock id, w => w.withFactory id fun h => (.lock (h.factory.lock w.container), w)
  | .info id, w =>
    w.withFactory id fun h => (.factory h.factory.name h.factory.order (w.details? h), w)
  | .purge id, w =>
    w.withFactory id fun h =>
      match h.managed, h.factory with
      | false, .perTarget cell _ =>
        let (n, w) := w.purge cell
        (.count (some n), w)
      | _, _ => (.count none, w)
  | .target name v, w =>
    let (t, w) := w.allocateTarget v
    (.done, w.nameTarget name t)
  | .alias name existing, w =>
    match w.targets.lookup existing with
    | none => (.unknown existing, w)
    | some t => (.done, w.nameTarget name t)
  | .drop name, w => (.flag (w.targets.lookup name).isSome, w.dropTarget name)

/-- Executes an operation whose constructors may nest to a given depth. -/
def execute : Nat → Operation → World → Outcome × World
  | 0, _, w => (.tooDeep, w)
  | depth + 1, operation, w => w.perform (Program.run (execute depth)) operation

/-- Runs the program of a constructor to the depth that the world allows. -/
def build (program : Program) (w : World) : Except String Value × World :=
  program.run (execute w.depth) w

/-- Executes an operation on its own. The outcomes that constructors reported on the
way come first, in the order in which they finished. -/
def step (operation : Operation) (w : World) : Outcome × List Outcome × World :=
  let (outcome, w) := execute w.depth operation { w with reports := [] }
  (outcome, w.reports.reverse, w)

/-- The world behind an operation whose outcome does not matter. -/
def after (w : World) (operation : Operation) : World := (step operation w).2.2

end World

end Weaving
