import Weaving.TypeInfo

namespace Weaving

/-- A method that can be intercepted. -/
structure Method where
  owner : TypeInfo
  name : String
  parameters : List TypeInfo
  returns : Option TypeInfo
  deriving BEq

namespace Method

instance : Hashable Method :=
  ⟨fun m => mixHash (hash m.owner) (mixHash (hash m.name) (mixHash (hash m.parameters) (hash m.returns)))⟩

/-- The readable form, such as `Orders.save(u32, String)`. -/
def render (m : Method) : String :=
  m.owner.name ++ "." ++ m.name ++ "(" ++ Text.commaList (m.parameters.map TypeInfo.name) ++ ")"

end Method

end Weaving
