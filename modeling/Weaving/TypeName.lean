import Weaving.Text.Record
import Weaving.Text.Split

namespace Weaving

/-- A type of the code around the engine. Its number tells it from all others, even
from those of the same name. -/
structure ForeignType where
  number : Nat
  fullName : String
  deriving DecidableEq

/-- The last segment of the full name of a type. The name of a type that has arguments
stays whole. -/
def shortName (full : String) : String :=
  if full.toList.contains '<' then full
  else String.ofList (Text.upTo [':', ':'] full.toList.reverse).reverse

end Weaving
