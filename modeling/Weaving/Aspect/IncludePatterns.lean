import Weaving.EngineError
import Weaving.Regex.Library

namespace Weaving

/-- Which aspects are wanted, by their names. Without a pattern all are. -/
structure IncludePatterns where
  patterns : List (String → Bool)

namespace IncludePatterns

/-- A pattern between the two ends of a name. -/
def enclosed (pattern : String) : String := "^(?:" ++ pattern ++ ")$"

def compileOne (lib : RegexLibrary) (pattern : String) : Except EngineError (String → Bool) :=
  (lib.compile (enclosed pattern)).mapError fun reason =>
    .configuration ("invalid include pattern '" ++ pattern ++ "': " ++ reason)

/-- Compiles patterns. The first that is malformed is the error. -/
def compile (lib : RegexLibrary) (patterns : List String) : Except EngineError IncludePatterns :=
  (patterns.mapM (compileOne lib)).map mk

def isEmpty (p : IncludePatterns) : Bool := p.patterns.isEmpty

def isEligible (p : IncludePatterns) (name : String) : Bool :=
  p.isEmpty || p.patterns.any (· name)

end IncludePatterns

end Weaving
