import Weaving.Advice.Marker
import Weaving.Advice.Course
import Weaving.ParameterType

namespace Weaving

structure AdviceParameter where
  name : Option String
  type : ParameterType

/-- A method of an aspect, with the markers that may make it an advice. -/
structure AdviceMethod where
  name : String
  declaring : TypeInfo
  parameters : List AdviceParameter
  markers : List Marker
  body : AdviceBody

namespace AdviceMethod

def parameterTypes (m : AdviceMethod) : List ParameterType := m.parameters.map AdviceParameter.type

/-- The declared names of the parameters, if each has one. -/
def parameterNames? (m : AdviceMethod) : Option (List String) :=
  m.parameters.mapM AdviceParameter.name

/-- The readable form, such as `Audit.log(JoinPoint, u32)`. -/
def render (m : AdviceMethod) : String :=
  m.declaring.name ++ "." ++ m.name ++ "(" ++
    Text.commaList (m.parameterTypes.map ParameterType.render) ++ ")"

def debug (m : AdviceMethod) : String :=
  Text.record "AdviceMethod"
    [("signature", Text.quoted m.render),
      ("annotations", Text.listing (m.markers.map Marker.render))]

end AdviceMethod

end Weaving
