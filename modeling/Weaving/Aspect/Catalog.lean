import Weaving.Aspect.Definition

namespace Weaving

/-- An aspect that is known without being registered by hand. -/
structure CatalogEntry where
  name : String
  /-- The definition, given the cell in which the constructor counts its calls. -/
  definition : Nat → AspectDefinition

namespace CatalogEntry

/-- An aspect that watches what repositories save. -/
def inventoryAudit : CatalogEntry where
  name := "inventoryAudit"
  definition counter :=
    let type := TypeInfo.ofName "InventoryAudit"
    let advice (name : String) (parameters : List AdviceParameter) (m : Marker) :
        AdviceMethod := ⟨name, type, parameters, [m], .idle⟩
    { name := "inventoryAudit"
      type := type
      perTarget := false
      order := some 7
      methods := [
        advice "audit" []
          ((Marker.ofName "AfterReturning").set "pointcut" "execution(* save(..))"),
        advice "probe" [⟨none, .value (.ofRuntime .word32)⟩]
          ((Marker.ofName "Before").set "value" "within(*Repository) && args(id)")]
      counter := counter
      constructor := fun _ => .done (.ok .unit) }

def all : List CatalogEntry := [inventoryAudit]

/-- The definitions of aspects, each with a counter of its own. -/
def define : List CatalogEntry → Loom → List AspectDefinition × Loom
  | [], l => ([], l)
  | e :: rest, l =>
    let (counter, w) := l.world.newCell
    let (others, l) := define rest { l with world := w }
    (e.definition counter :: others, l)

def defineAll (l : Loom) : List AspectDefinition × Loom := define all l

end CatalogEntry

end Weaving
