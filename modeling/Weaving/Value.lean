import Weaving.TypeName

namespace Weaving

/-- The concrete types that the values of a call can have. -/
inductive RuntimeType where
  | text | literal | char | bool | word8 | word32 | word64 | int32 | int64 | unit
  | texts | maybeWord32 | entry
  | other (type : ForeignType)
  deriving DecidableEq

namespace RuntimeType

/-- The types that are not foreign. -/
def known : List RuntimeType :=
  [text, literal, char, bool, word8, word32, word64, int32, int64, unit, texts, maybeWord32, entry]

/-- The fully qualified name. -/
def fullName : RuntimeType → String
  | text => "alloc::string::String"
  | literal => "&str"
  | char => "char"
  | bool => "bool"
  | word8 => "u8"
  | word32 => "u32"
  | word64 => "u64"
  | int32 => "i32"
  | int64 => "i64"
  | unit => "()"
  | texts => "alloc::vec::Vec<alloc::string::String>"
  | maybeWord32 => "core::option::Option<u32>"
  | entry => "(alloc::string::String, u32)"
  | other type => type.fullName

/-- The name that a type goes by in signatures and patterns. -/
def name (r : RuntimeType) : String := shortName r.fullName

/-- The label that a value of the type carries in a journal. -/
def label : RuntimeType → String
  | texts => "Vec<String>"
  | maybeWord32 => "Option<u32>"
  | entry => "(String,u32)"
  | r => r.name

end RuntimeType

/-- A value that passes through a call: an argument, a result, a target or an aspect. -/
inductive Value where
  | text (s : String)
  | literal (s : String)
  | char (c : Char)
  | bool (b : Bool)
  | word8 (n : UInt8)
  | word32 (n : UInt32)
  | word64 (n : UInt64)
  | int32 (n : Int32)
  | int64 (n : Int64)
  | unit
  | texts (items : List String)
  | maybeWord32 (n : Option UInt32)
  | entry (key : String) (n : UInt32)
  | other (type : ForeignType) (content : String)
  deriving DecidableEq

namespace Value

def type : Value → RuntimeType
  | text _ => .text
  | literal _ => .literal
  | char _ => .char
  | bool _ => .bool
  | word8 _ => .word8
  | word32 _ => .word32
  | word64 _ => .word64
  | int32 _ => .int32
  | int64 _ => .int64
  | unit => .unit
  | texts _ => .texts
  | maybeWord32 _ => .maybeWord32
  | entry _ _ => .entry
  | other type _ => .other type

/-- The whole number that a value holds. -/
def integer? : Value → Option Int
  | word8 n => some n.toNat
  | word32 n => some n.toNat
  | word64 n => some n.toNat
  | int32 n => some n.toInt
  | int64 n => some n.toInt
  | _ => none

/-- The value of a whole-number type for a number in its range. -/
def ofInteger? (type : RuntimeType) (n : Int) : Option Value :=
  match type with
  | .word8 => some (word8 (.ofNat n.toNat))
  | .word32 => some (word32 (.ofNat n.toNat))
  | .word64 => some (word64 (.ofNat n.toNat))
  | .int32 => some (int32 (.ofInt n))
  | .int64 => some (int64 (.ofInt n))
  | _ => none

/-- The content of a value without its type. -/
def content : Value → String
  | text s => s
  | literal s => s
  | char c => String.singleton c
  | bool b => Text.truth b
  | word8 n => toString n.toNat
  | word32 n => toString n.toNat
  | word64 n => toString n.toNat
  | int32 n => toString n.toInt
  | int64 n => toString n.toInt
  | unit => "null"
  | texts items => "|".intercalate items
  | maybeWord32 none => "null"
  | maybeWord32 (some n) => toString n.toNat
  | entry key n => key ++ "|" ++ toString n.toNat
  | other _ content => content

/-- The text of a value in a journal: its type and its content. -/
def render (v : Value) : String := v.type.label ++ ":" ++ v.content

/-- The text of an optional value in a journal. -/
def renderOptional : Option Value → String
  | none => "none"
  | some v => v.render

end Value

end Weaving
