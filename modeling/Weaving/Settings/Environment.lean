import Weaving.Settings.Source
import Weaving.Text.Blank
import Weaving.Text.Split

namespace Weaving

/-- The sources of settings, greatest priority first. -/
structure Environment where
  sources : List Source

namespace Environment

def empty : Environment := ⟨[]⟩

/-- Puts a source behind those of its own priority. -/
def insertSource (s : Source) : List Source → List Source
  | [] => [s]
  | t :: rest => if t.priority < s.priority then s :: t :: rest else t :: insertSource s rest

def add (e : Environment) (s : Source) : Environment := ⟨insertSource s e.sources⟩

/-- Adds sources in turn. The first that cannot be read is reported. -/
def ofSources (sources : List (Except ContainerError Source)) :
    Except ContainerError Environment :=
  sources.foldlM (fun e s => e.add <$> s) empty

def get? (e : Environment) (key : String) : Option Datum := e.sources.findSome? (·.get? key)

/-- A value as a text; what is no text is written on one line. -/
def getText? (e : Environment) (key : String) : Option String :=
  (e.get? key).map fun
    | .text s => s
    | d => d.inline

/-- A whole number of 64 bits in decimal digits, with or without a sign. -/
def wholeNumber? (s : String) : Option Int :=
  let (negative, digits) := match s.toList with
    | '-' :: digits => (true, digits)
    | '+' :: digits => (false, digits)
    | digits => (false, digits)
  let n : Int := digits.foldl (fun n c => 10 * n + (c.toNat - 48)) 0
  let n := if negative then -n else n
  if !digits.isEmpty && digits.all Char.isDigit && -9223372036854775808 ≤ n &&
    n ≤ 9223372036854775807 then some n else none

def getInteger? (e : Environment) (key : String) : Option Int :=
  (e.get? key).bind fun
    | .integer n => some n
    | .text s => wholeNumber? (Text.trim s)
    | _ => none

/-- A text without its blanks and in small letters. No letter of another script becomes
one that occurs in a word asked for. -/
def plainWord (s : String) : String := (Text.trim s).map Char.toLower

def getBoolean? (e : Environment) (key : String) : Option Bool :=
  (e.get? key).bind fun
    | .boolean b => some b
    | .text s =>
      match plainWord s with
      | "true" | "yes" | "1" => some true
      | "false" | "no" | "0" => some false
      | _ => none
    | _ => none

/-- The parts of a text between commas, without blanks and empty parts. -/
def commaParts (s : String) : List String :=
  ((Text.pieces ',' s.toList).map fun p => String.ofList (Text.trimBlanks p)).filter (· != "")

/-- A list of texts: those in an array, or the parts of a text. -/
def getTexts? (e : Environment) (key : String) : Option (List String) :=
  (e.get? key).bind fun
    | .array items => some (items.filterMap fun
      | .text s => some s
      | _ => none)
    | .text s => some (commaParts s)
    | _ => none

/-- Puts a value into tables of tables. What is no table gives way to one. -/
def insertPath (d : Datum) : List String → Table Datum → Table Datum
  | [], t => t
  | [key], t => t.insert key d
  | key :: path, t =>
    let inner := match t.get? key with
      | some (.table inner) => inner
      | _ => []
    t.insert key (.table (insertPath d path inner))

/-- What a key has behind a leading path and a point. -/
def relativePath? (path key : String) : Option (List String) :=
  let path := path.toList ++ ['.']
  if path.isPrefixOf key.toList then
    some ((Text.pieces '.' (key.toList.drop path.length)).map String.ofList)
  else none

/-- Puts entries under a path into a table, in their order. -/
def bindEntries (path : String) (entries : List (String × Datum)) (t : Table Datum) : Table Datum :=
  entries.foldl (fun t e =>
    match relativePath? path e.1 with
    | some segments => insertPath e.2 segments t
    | none => t) t

/-- Everything under a path as one table. Sources of greater priority come later and
replace what they find. -/
def bind (e : Environment) (path : String) : Table Datum :=
  e.sources.foldr (fun s t => bindEntries path s.properties t) []

def render (e : Environment) : String :=
  Text.record "Environment"
    [("sources", Text.listing (e.sources.map fun s => Text.quoted s.name))]

end Environment

end Weaving
