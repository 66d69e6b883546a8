import Weaving.TypeName

namespace Weaving

/-- An error raised by the business code that the engine surrounds. -/
inductive Thrown where
  | orderNotFound (id : UInt32)
  | auditRejected
  | custom (text : String)
  | formatting
  | other (type : ForeignType) (message : String)
  deriving DecidableEq

/-- The types of business errors. -/
inductive ThrownType where
  | orderNotFound | auditRejected | custom | formatting
  | other (type : ForeignType)
  deriving DecidableEq

namespace Thrown

def type : Thrown → ThrownType
  | orderNotFound _ => .orderNotFound
  | auditRejected => .auditRejected
  | custom _ => .custom
  | formatting => .formatting
  | other type _ => .other type

def message : Thrown → String
  | orderNotFound id => "order " ++ toString id.toNat ++ " not found"
  | auditRejected => "audit rejected"
  | custom text => text
  | formatting => "an error occurred when formatting an argument"
  | other _ message => message

end Thrown

/-- The types that are not foreign. -/
def ThrownType.known : List ThrownType := [.orderNotFound, .auditRejected, .custom, .formatting]

def ThrownType.name : ThrownType → String
  | .orderNotFound => "OrderNotFound"
  | .auditRejected => "AuditRejected"
  | .custom => "Custom"
  | .formatting => "Error"
  | .other type => shortName type.fullName

/-- The label that an error of the type carries in a journal. -/
def ThrownType.label : ThrownType → String
  | .formatting => "fmt"
  | type => type.name

/-- The errors that a parameter accepts: all of them, or those of one type. -/
inductive ErrorType where
  | any
  | only (type : ThrownType)

namespace ErrorType

def name : ErrorType → String
  | any => "Error"
  | only type => type.name

def isAny : ErrorType → Bool
  | any => true
  | only _ => false

/-- Two error types are the same when their names are, and when both of them or neither
accept all errors. -/
instance : BEq ErrorType := ⟨fun a b => a.name == b.name && a.isAny == b.isAny⟩

instance : Hashable ErrorType := ⟨fun t => hash t.name⟩

/-- Whether the error type accepts the error. -/
def accepts : ErrorType → Thrown → Bool
  | any, _ => true
  | only type, e => e.type == type

def render (t : ErrorType) : String := "ErrorType(" ++ t.name ++ ")"

end ErrorType

end Weaving
