import Weaving.EngineError
import Weaving.Lifecycle.ContainerError
import Weaving.Value

namespace Weaving

/-- An object that a container or a factory hands out. Two instances are the same
object when their numbers agree. -/
structure Instance where
  id : Nat
  value : Value
  deriving DecidableEq

/-- An object that calls are made on. While an object lives, or is remembered by a
factory, no other object has its address. -/
structure Target where
  id : Nat
  address : Nat
  value : Value
  deriving DecidableEq

/-- A lock that serializes the creation of instances. -/
inductive Lock where
  | container
  | own (cell : Nat)
  deriving DecidableEq

/-- How often a bean is created: once, or for each request. -/
inductive Scope where
  | singleton | prototype
  deriving DecidableEq

namespace Scope

def render : Scope → String
  | singleton => "singleton"
  | prototype => "prototype"

def debug : Scope → String
  | singleton => "Singleton"
  | prototype => "Prototype"

end Scope

/-- The description of a bean. -/
structure BeanInfo where
  name : String
  typeName : String
  scope : Scope
  order : Option Int

namespace BeanInfo

def debug (b : BeanInfo) : String :=
  Text.record "BeanDefinition"
    [("name", Text.quoted b.name), ("type_name", Text.quoted b.typeName),
      ("scope", b.scope.debug), ("order", Text.optional (b.order.map toString))]

end BeanInfo

/-- What can be seen of the state of a factory. -/
inductive FactoryDetails where
  | lazy (materialized : Bool)
  | perTarget (live : Nat)
  deriving DecidableEq

namespace FactoryDetails

/-- The record of a lazy factory; other factories have none. -/
def debug? (aspect : String) : FactoryDetails → Option String
  | lazy materialized => some (Text.record "LazySingletonAspectInstanceFactory"
      [("aspect", Text.quoted aspect), ("materialized", Text.truth materialized)])
  | perTarget _ => none

end FactoryDetails

/-- What an operation on the objects of a program answers. -/
inductive Outcome where
  | done
  | text (s : String)
  | instance (i : Instance)
  | container (e : ContainerError)
  | engine (e : EngineError)
  | bean (contained : Bool) (singleton : Except ContainerError Bool)
      (typeName : Except ContainerError String) (order : Option Int)
  | names (names : List String) (definitions : Nat)
  | lock (l : Option Lock)
  | factory (name : String) (order : Int) (details : Option FactoryDetails)
  | count (n : Option Nat)
  | flag (b : Bool)
  | unknown (name : String)
  | tooDeep

/-- Something that happened in a run and can be asked for afterwards. -/
inductive Event where
  | note (text : String)
  | construct (name : String) (serial : Nat)
  | target (arguments : List Value)
  | advice (aspect method : String) (arguments : List Value)
  | discovery (advice : Nat)
  deriving DecidableEq

namespace Event

/-- The line that an event leaves in the journal, if it leaves one. -/
def line? : Event → Option String
  | note text => some text
  | construct name serial => some ("construct " ++ name ++ "#" ++ toString serial)
  | target arguments => some ("target " ++ Text.listing (arguments.map Value.render))
  | _ => none

end Event

end Weaving
