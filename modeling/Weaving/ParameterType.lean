import Weaving.TypeInfo
import Weaving.Thrown

namespace Weaving

/-- What a parameter of an advice method can receive. -/
inductive ParameterType where
  | joinPoint
  | proceedingJoinPoint
  | staticPart
  | error (type : ErrorType)
  | value (type : TypeInfo)
  deriving BEq

namespace ParameterType

def any : ParameterType := value .any

def isJoinPointLike : ParameterType → Bool
  | joinPoint | proceedingJoinPoint | staticPart => true
  | _ => false

def isError : ParameterType → Bool
  | error _ => true
  | _ => false

def render : ParameterType → String
  | joinPoint => "JoinPoint"
  | proceedingJoinPoint => "ProceedingJoinPoint"
  | staticPart => "JoinPoint.StaticPart"
  | error type => type.name
  | value type => type.name

instance : Hashable ParameterType where
  hash
    | joinPoint => 1
    | proceedingJoinPoint => 2
    | staticPart => 3
    | error type => mixHash 4 (hash type)
    | value type => mixHash 5 (hash type)

/-- Whether a captured value may be handed to a parameter of the type. Only the
types of values are checked. -/
def admits : ParameterType → Value → Bool
  | value type, v => type.isInstance v
  | _, _ => true

end ParameterType

end Weaving
