import Weaving.Method
import Weaving.Value

namespace Weaving

/-- A condition on a method and the type of its target. -/
inductive MethodCheck where
  | always (answer : Bool)
  | namedFrom (start : String)
  | arity (n : Nat)
  | on (target : String)

/-- A condition on the arguments of a call. -/
inductive CallCheck where
  | always (answer : Bool)
  | exceeds (index limit : Nat)
  | arity (n : Nat)
  | reads (index : Nat) (text : String)

def MethodCheck.holds : MethodCheck → Method → TypeInfo → Bool
  | always answer, _, _ => answer
  | namedFrom start, method, _ => method.name.startsWith start
  | arity n, method, _ => method.parameters.length == n
  | on target, _, targetType => targetType.name == target

def CallCheck.holds : CallCheck → List Value → Bool
  | always answer, _ => answer
  | exceeds index limit, arguments =>
    match arguments[index]? with
    | some (.word32 n) => limit < n.toNat
    | _ => false
  | arity n, arguments => arguments.length == n
  | reads index text, arguments => (arguments[index]?).any (·.render == text)

end Weaving
