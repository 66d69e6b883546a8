import Weaving.Settings.Environment

namespace Weaving

inductive LogLevel where
  | trace | debug | info | warn | error
  deriving DecidableEq

inductive LogFormat where
  | compact | full | pretty | json
  deriving DecidableEq

namespace LogLevel

def parse (s : String) : Except String LogLevel :=
  match Environment.plainWord s with
  | "trace" => .ok trace
  | "debug" => .ok debug
  | "info" => .ok info
  | "warn" | "warning" => .ok warn
  | "error" => .ok error
  | _ => .error ("Invalid log level: " ++ s)

def render : LogLevel → String
  | trace => "trace"
  | debug => "debug"
  | info => "info"
  | warn => "warn"
  | error => "error"

def label : LogLevel → String
  | trace => "Trace"
  | debug => "Debug"
  | info => "Info"
  | warn => "Warn"
  | error => "Error"

end LogLevel

namespace LogFormat

def parse (s : String) : Except String LogFormat :=
  match Environment.plainWord s with
  | "compact" => .ok compact
  | "full" => .ok full
  | "pretty" => .ok pretty
  | "json" => .ok json
  | _ => .error ("Invalid log format: " ++ s)

def label : LogFormat → String
  | compact => "Compact"
  | full => "Full"
  | pretty => "Pretty"
  | json => "Json"

end LogFormat

structure LoggingConfig where
  level : LogLevel
  format : LogFormat
  showTarget : Bool
  showThreadNames : Bool
  filter : Option String

namespace LoggingConfig

def standard : LoggingConfig := ⟨.info, .compact, false, false, none⟩

/-- Takes a level and a format from texts. A text that names none changes nothing. -/
def withTexts (c : LoggingConfig) (level format : Option String) : LoggingConfig :=
  { c with
    level := ((level.map LogLevel.parse).bind Except.toOption).getD c.level
    format := ((format.map LogFormat.parse).bind Except.toOption).getD c.format }

/-- The configuration from the variables of a process. -/
def ofVariables (filter level format : Option String) : LoggingConfig :=
  { standard.withTexts level format with filter := filter }

/-- The configuration from settings. -/
def ofEnvironment (e : Environment) : LoggingConfig :=
  { standard.withTexts (e.getText? "logging.level") (e.getText? "logging.format") with
    filter := e.getText? "logging.filter"
    showTarget := (e.getBoolean? "logging.show-target").getD false }

end LoggingConfig

end Weaving
