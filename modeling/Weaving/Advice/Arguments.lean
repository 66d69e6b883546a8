import Weaving.Advice.JoinPoint

namespace Weaving

/-- One argument of an advice body. -/
inductive Argument where
  | joinPoint (j : JoinPoint)
  | proceeding (j : JoinPoint)
  | staticPart (method : Method)
  | value (v : Value)
  | error (e : Thrown)

/-- A body asked for an argument of another kind, or for one that is not there. -/
structure ArgumentMismatch where
  index : Nat
  expected : String
  found : String
  deriving DecidableEq

namespace ArgumentMismatch

def message (m : ArgumentMismatch) : String :=
  "argument " ++ toString m.index ++ " mismatch: expected " ++ m.expected ++ ", found " ++ m.found

end ArgumentMismatch

namespace Argument

def describe : Argument → String
  | joinPoint _ => "JoinPoint"
  | proceeding _ => "ProceedingJoinPoint"
  | staticPart _ => "JoinPoint.StaticPart"
  | value _ => "value"
  | error _ => "error"

end Argument

abbrev Arguments := List Argument

namespace Arguments

/-- The argument at an index, read by `view`. -/
def read {α : Type} (args : Arguments) (index : Nat) (expected : String)
    (view : Argument → Option α) : Except ArgumentMismatch α :=
  match args[index]? with
  | none => .error ⟨index, expected, "only " ++ toString args.length ++ " argument(s)"⟩
  | some arg =>
    match view arg with
    | some a => .ok a
    | none => .error ⟨index, expected, arg.describe⟩

def joinPoint (args : Arguments) (index : Nat) : Except ArgumentMismatch JoinPoint :=
  args.read index "JoinPoint" fun
    | .joinPoint j | .proceeding j => some j
    | _ => none

def proceeding (args : Arguments) (index : Nat) : Except ArgumentMismatch JoinPoint :=
  args.read index "ProceedingJoinPoint" fun
    | .proceeding j => some j
    | _ => none

def staticPart (args : Arguments) (index : Nat) : Except ArgumentMismatch Method :=
  args.read index "JoinPoint.StaticPart" fun
    | .staticPart method => some method
    | .joinPoint j => some j.method
    | _ => none

/-- A value of a given concrete type. -/
def valueOf (args : Arguments) (type : RuntimeType) (index : Nat) : Except ArgumentMismatch Value :=
  args.read index type.fullName fun
    | .value v => if v.type = type then some v else none
    | _ => none

def raw (args : Arguments) (index : Nat) : Except ArgumentMismatch Value :=
  args.read index "value" fun
    | .value v => some v
    | _ => none

def error (args : Arguments) (index : Nat) : Except ArgumentMismatch Thrown :=
  args.read index "error" fun
    | .error e => some e
    | _ => none

def render (args : Arguments) : String :=
  Text.record "AdviceArgs" [("arguments", Text.listing (args.map Argument.describe))]

end Arguments

end Weaving
