import Weaving.EngineError
import Weaving.Settings.Environment

namespace Weaving

/-- The settings of a registry of aspects. -/
structure AspectProperties where
  enabled : Bool
  includePatterns : List String
  raiseDiscoveryErrors : Bool
  autoLoad : Bool

namespace AspectProperties

def standard : AspectProperties := ⟨true, [], true, true⟩

def path : String := "chimera.aop"

def mistyped (d : Datum) : EngineError :=
  .configuration (ContainerError.config ("Failed to bind properties under '" ++ path ++
    "': invalid type: " ++ d.kindText ++ ", expected a boolean")).message

/-- Takes over an entry. Entries that are not asked for are passed over. -/
def set (p : AspectProperties) (key : String) (d : Datum) : Except EngineError AspectProperties :=
  let boolean (put : Bool → AspectProperties) : Except EngineError AspectProperties :=
    match d with
    | .boolean b => .ok (put b)
    | d => .error (mistyped d)
  match key with
  | "auto-load" => boolean fun b => { p with autoLoad := b }
  | "enabled" => boolean fun b => { p with enabled := b }
  | "raise-discovery-errors" => boolean fun b => { p with raiseDiscoveryErrors := b }
  | _ => .ok p

/-- The properties from settings. Entries are checked in the order of their keys. -/
def ofEnvironment (e : Environment) : Except EngineError AspectProperties :=
  match (e.bind path).foldlM (fun p entry => set p entry.1 entry.2) standard with
  | .error e => .error e
  | .ok p =>
    .ok { p with includePatterns := (e.getTexts? (path ++ ".include-patterns")).getD [] }

def render (p : AspectProperties) : String :=
  Text.record "AopProperties"
    [("enabled", Text.truth p.enabled),
      ("include_patterns", Text.listing (p.includePatterns.map Text.quoted)),
      ("raise_discovery_errors", Text.truth p.raiseDiscoveryErrors),
      ("auto_load", Text.truth p.autoLoad)]

end AspectProperties

end Weaving
