import Weaving.Value

namespace Weaving

/-- A type as the engine knows it: its name, the concrete type behind it if there
is one, and the names of the types it can stand in for. -/
structure TypeInfo where
  name : String
  runtime : Option RuntimeType
  supertypes : List String

namespace TypeInfo

def ofName (name : String) : TypeInfo := ⟨name, none, []⟩

def ofRuntime (r : RuntimeType) : TypeInfo := ⟨r.name, some r, []⟩

/-- The type that every value belongs to. -/
def any : TypeInfo := ofName "Object"

/-- Two types are the same when their names and concrete types are; supertypes do not count. -/
instance : BEq TypeInfo := ⟨fun a b => a.name == b.name && a.runtime == b.runtime⟩

instance : Hashable TypeInfo :=
  ⟨fun a => mixHash (hash a.name) (hash (a.runtime.map RuntimeType.fullName))⟩

/-- The names a type answers to: its own, then those of its supertypes. -/
def names (t : TypeInfo) : List String := t.name :: t.supertypes

def isAssignableTo (t : TypeInfo) (name : String) : Bool :=
  name == "Object" || t.names.contains name

/-- A type without a concrete type behind it accepts every value. -/
def isInstance (t : TypeInfo) (v : Value) : Bool :=
  match t.runtime with
  | none => true
  | some r => v.type == r

end TypeInfo

end Weaving
