import Weaving.Advice.Kind
import Weaving.Table
import Weaving.Text.Blank
import Weaving.Text.Record

namespace Weaving

/-- A marker on a method, with its attributes. -/
structure Marker where
  name : String
  attributes : Table String
  deriving DecidableEq

namespace Marker

def ofName (name : String) : Marker := ⟨name, []⟩

/-- Gives an attribute a value, over an earlier one. -/
def set (a : Marker) (key value : String) : Marker :=
  { a with attributes := a.attributes.insert key value }

def get? (a : Marker) (key : String) : Option String := a.attributes.get? key

/-- The attribute without blanks around it, unless nothing is left of it. -/
def nonBlank? (a : Marker) (key : String) : Option String :=
  ((a.get? key).map Text.trim).filter fun v => !v.isEmpty

def kind? (a : Marker) : Option AdviceKind := AdviceKind.ofMarker? a.name

def render (a : Marker) : String :=
  Text.record "Annotation" [("name", Text.quoted a.name), ("attributes", Text.table a.attributes)]

end Marker

end Weaving
