import Weaving.Aspect.Definition
import Weaving.Aspect.IncludePatterns
import Weaving.Aspect.Properties
import Weaving.Aspect.Proxy

namespace Weaving

/-- The advisors of a program, in the order in which they were registered. -/
structure Registry where
  properties : AspectProperties
  included : IncludePatterns
  advisors : List Advisor

namespace Registry

def standard : Registry := ⟨.standard, ⟨[]⟩, []⟩

def ofProperties (lib : RegexLibrary) (p : AspectProperties) : Except EngineError Registry :=
  (IncludePatterns.compile lib p.includePatterns).map (⟨p, ·, []⟩)

def ofEnvironment (lib : RegexLibrary) (e : Environment) : Except EngineError Registry :=
  (AspectProperties.ofEnvironment e).bind (ofProperties lib)

def discoverer (r : Registry) : Discoverer := .standard r.properties.raiseDiscoveryErrors

def isEligible (r : Registry) (aspect : String) : Bool := r.included.isEligible aspect

def size (r : Registry) : Nat := r.advisors.length

def clear (r : Registry) : Registry := { r with advisors := [] }

/-- Adds an advisor unless one of its key is there, and says how many were added. -/
def addOne (r : Registry) (a : Advisor) : Nat × Registry :=
  if r.advisors.any fun b => b.key == a.key then (0, r)
  else (1, { r with advisors := r.advisors ++ [a] })

def add (r : Registry) : List Advisor → Nat × Registry
  | [] => (0, r)
  | a :: rest =>
    let (one, r) := r.addOne a
    let (others, r) := r.add rest
    (one + others, r)

/-- Registers an aspect whose instances come from the given factory. An aspect that is
not wanted adds nothing, and one with an error adds nothing either. -/
def registerWith (r : Registry) (d : AspectDefinition) (factory : Factory) (l : Loom) :
    Except EngineError Nat × Registry × Loom :=
  if r.properties.enabled && r.isEligible d.name then
    match d.advisors factory r.discoverer l with
    | (.error e, l) => (.error e, r, l)
    | (.ok advisors, l) =>
      let (n, r) := r.add advisors
      (.ok n, r, l)
  else (.ok 0, r, l)

/-- Registers an aspect with the factory that its model asks for. -/
def register (r : Registry) (d : AspectDefinition) (l : Loom) :
    Except EngineError Nat × Registry × Loom :=
  let (factory, w) := d.factory l.world
  r.registerWith d factory { l with world := w }

/-- Registers an aspect whose instances are beans of a container. -/
def registerBean (r : Registry) (d : AspectDefinition) (bean : String) (l : Loom) :
    Except EngineError Nat × Registry × Loom :=
  match World.managedFactory bean false l.world with
  | (.error e, w) => (.error e, r, { l with world := w })
  | (.ok factory, w) => r.registerWith d factory { l with world := w }

/-- Registers aspects in turn, up to the first with an error. -/
def registerAll (r : Registry) : List AspectDefinition → Loom →
    Except EngineError Nat × Registry × Loom
  | [], l => (.ok 0, r, l)
  | d :: rest, l =>
    match r.register d l with
    | (.error e, r, l) => (.error e, r, l)
    | (.ok n, r, l) =>
      match r.registerAll rest l with
      | (.error e, r, l) => (.error e, r, l)
      | (.ok others, r, l) => (.ok (n + others), r, l)

/-- Registers the known aspects if the properties ask for it. -/
def loadIfWanted (r : Registry) (known : List AspectDefinition) (l : Loom) :
    Except EngineError Nat × Registry × Loom :=
  if r.properties.enabled && r.properties.autoLoad then r.registerAll known l else (.ok 0, r, l)

/-- The registry that settings describe, with the known aspects. -/
def bootstrap (lib : RegexLibrary) (e : Environment) (known : List AspectDefinition) (l : Loom) :
    Except EngineError Registry × Loom :=
  match ofEnvironment lib e with
  | .error error => (.error error, l)
  | .ok r =>
    match r.loadIfWanted known l with
    | (.error error, _, l) => (.error error, l)
    | (.ok _, r, l) => (.ok r, l)

/-- The advisors that can run on some call of a method, by precedence. -/
def eligibleAdvisors (r : Registry) (method : Method) (targetType : TypeInfo) (l : Loom) :
    List Advisor :=
  sortByPrecedence Advisor.rank (r.advisors.filter (Proxy.applies l method targetType))

def proxy (r : Registry) (targetType : TypeInfo) (target : Option Target) : Proxy :=
  .build targetType target r.advisors

def render (r : Registry) : String :=
  Text.record "AdvisorRegistry"
    [("properties", r.properties.render), ("advisors", toString r.size)]

end Registry

end Weaving
