import Weaving.Advice.Course

namespace Weaving

/-- A step of a scripted advice body. Steps that read an argument end the body if
there is no such argument. -/
inductive Action where
  | log (text : String)
  | aspect
  | count
  | joinPoint (index : Nat)
  | proceeding (index : Nat)
  | staticPart (index : Nat)
  | raw (index : Nat)
  | value (type : RuntimeType) (index : Nat)
  | error (index : Nat)
  | proceed (arguments : Option (List Value))
  | attempt (arguments : Option (List Value))
  | giveBack (v : Option Value)
  | giveBackLast
  | throw (e : Thrown)
  | fail (e : EngineError)

namespace Action

def renderArguments (args : List Value) : String := Text.listing (args.map Value.render)

/-- The course of a script. `last` is what the latest successful proceeding gave. -/
def course (aspect : Value) (args : Arguments) : List Action → Option Value → Course
  | [], _ => .done (.ok none)
  | .log text :: rest, last => .log text (course aspect args rest last)
  | .aspect :: rest, last => .log ("aspect " ++ aspect.render) (course aspect args rest last)
  | .count :: rest, last =>
    .log ("argc " ++ toString args.length ++ " " ++ Text.truth args.isEmpty)
      (course aspect args rest last)
  | .joinPoint i :: rest, last =>
    .reading (args.joinPoint i) fun j =>
      .log ("jp " ++ j.render ++ " on " ++ j.targetType.name ++ " target=" ++
        Value.renderOptional j.target ++ " args=" ++ renderArguments j.arguments)
        (course aspect args rest last)
  | .proceeding i :: rest, last =>
    .reading (args.proceeding i) fun j =>
      .log ("pjp " ++ j.method.render ++ " args=" ++ renderArguments j.arguments)
        (course aspect args rest last)
  | .staticPart i :: rest, last =>
    .reading (args.staticPart i) fun method =>
      .log ("static " ++ JoinPoint.kind ++ " " ++ JoinPoint.renderStatic method)
        (course aspect args rest last)
  | .raw i :: rest, last =>
    .reading (args.raw i) fun v => .log ("raw " ++ v.render) (course aspect args rest last)
  | .value type i :: rest, last =>
    .reading (args.valueOf type i) fun v =>
      .log ("value " ++ v.render) (course aspect args rest last)
  | .error i :: rest, last =>
    .reading (args.error i) fun e => .log ("error " ++ e.message) (course aspect args rest last)
  | .proceed arguments :: rest, _ =>
    .reading (args.proceeding 0) fun _ =>
      .proceed arguments fun
        | .error e => .done (.error (.ofEngineError e))
        | .ok v => .log ("proceeded " ++ Value.renderOptional v) (course aspect args rest v)
  | .attempt arguments :: rest, last =>
    .reading (args.proceeding 0) fun _ =>
      .proceed arguments fun
        | .error e => .log ("caught " ++ e.label ++ " " ++ e.message) (course aspect args rest last)
        | .ok v => .log ("proceeded " ++ Value.renderOptional v) (course aspect args rest v)
  | .giveBack v :: _, _ => .done (.ok v)
  | .giveBackLast :: _, last => .done (.ok last)
  | .throw e :: _, _ => .done (.error (.thrown e))
  | .fail e :: _, _ => .done (.error (.engine e))

/-- The advice body that a script describes. -/
def body (script : List Action) : AdviceBody := fun aspect args => course aspect args script none

end Action

end Weaving
