import Weaving.Expression.ArgPattern
import Weaving.Method

namespace Weaving

/-- The pattern of an `execution` call: the return type, the type that owns the
method, the method's name and its parameters. -/
structure ExecutionPattern where
  source : String
  returns : NamePattern
  owner : Option NamePattern
  method : NamePattern
  parameters : List ArgPattern
  deriving DecidableEq

namespace ExecutionPattern

def modifiers : List String := ["public", "protected", "private", "static", "final"]

/-- Splits the words before the parameter list into the return type and the
qualified method name. The last word that is not a modifier is the return type. -/
def splitHead (words : List String) : Option (NamePattern × String) :=
  match words.reverse with
  | [] => none
  | qualified :: earlier =>
    some (⟨(earlier.find? fun w => !modifiers.contains w).getD "*"⟩, qualified)

/-- Splits a qualified method name into the simple name of the owner and the name. -/
def splitOwner (qualified : String) : Option NamePattern × String :=
  match Text.splitLast '.' qualified.toList with
  | none => (none, qualified)
  | some (owner, method) =>
    (some ⟨Text.lastSegment (String.ofList owner)⟩, String.ofList method)

def parse (body : String) : Except ParseError ExecutionPattern := do
  let some (head, tail) := Text.splitFirst '(' body.toList | .error (.noParameterList body)
  if tail.getLast? ≠ some ')' then .error (.unterminatedParameterList body)
  let parameters ← ArgPattern.parse tail.dropLast
  let some (returns, qualified) := splitHead ((Text.words head).map String.ofList)
    | .error (.noMethodName body)
  let (owner, method) := splitOwner qualified
  if method.isEmpty then .error (.emptyMethodName body)
  .ok {
    source := body
    returns
    owner := owner.filter fun p => !p.isWildcard
    method := ⟨method⟩
    parameters }

def acceptsOwner (p : ExecutionPattern) (method : Method) (target : TypeInfo) : Bool :=
  match p.owner with
  | none => true
  | some owner => owner.acceptsType target || owner.acceptsType method.owner

/-- A method without a result returns `void`. -/
def acceptsReturn (p : ExecutionPattern) (method : Method) : Bool :=
  p.returns.isWildcard || p.returns.accepts ((method.returns.map TypeInfo.name).getD "void")

/-- Whether each named element accepts the declared type it is paired with. -/
def acceptsDeclared (pairs : List (ArgPattern × Nat)) (declared : List TypeInfo) : Bool :=
  pairs.all fun
    | (.named name, index) => (declared[index]?).any name.acceptsType
    | _ => true

def acceptsParameters (p : ExecutionPattern) (method : Method) : Bool :=
  match ArgPattern.align p.parameters method.parameters.length with
  | none => false
  | some pairs => acceptsDeclared pairs method.parameters

def accepts (p : ExecutionPattern) (method : Method) (target : TypeInfo) : Bool :=
  p.acceptsOwner method target && p.method.accepts method.name &&
    p.acceptsReturn method && p.acceptsParameters method

end ExecutionPattern

end Weaving
