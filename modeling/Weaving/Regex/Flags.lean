import Weaving.Regex.Basic
import Weaving.Text.Blank
import Weaving.Text.CaseFolding

namespace Weaving.Regex

/-- How the text of an expression is read at a point. -/
structure Flags where
  ignoreCase : Bool
  multiLine : Bool
  dotAll : Bool
  unicode : Bool
  crlf : Bool
  verbose : Bool

/-- A flag that is turned on or off. -/
abbrev FlagChange := Char × Bool

namespace Flags

def standard : Flags := ⟨false, false, false, true, false, false⟩

def isFlag (c : Char) : Bool := ['i', 'm', 's', 'u', 'R', 'x', 'U'].contains c

/-- Sets a flag. Which of two matches is preferred does not matter for whether there is
one, so that flag has no effect. -/
def set (f : Flags) : FlagChange → Flags
  | ('i', on) => { f with ignoreCase := on }
  | ('m', on) => { f with multiLine := on }
  | ('s', on) => { f with dotAll := on }
  | ('u', on) => { f with unicode := on }
  | ('R', on) => { f with crlf := on }
  | ('x', on) => { f with verbose := on }
  | _ => f

def update (f : Flags) (changes : List FlagChange) : Flags := changes.foldl set f

/-- The characters that are the same as the given one if case is ignored. Without the
flag for Unicode only letters of ASCII have a case. -/
def variants (f : Flags) (c : Char) : List Char :=
  if f.unicode then Text.caseVariants c else [c.toLower, c.toUpper]

/-- Adds to a set what differs from its members only in case, if case is ignored. -/
def fold (f : Flags) (s : CharSet) : CharSet :=
  if f.ignoreCase then fun c => s c || (f.variants c).any s else s

/-- The complement of a set. Without the flag for Unicode it would have bytes that are
no text of their own, and is refused. -/
def complement (f : Flags) (s : CharSet) : Option CharSet :=
  if f.unicode then some fun c => !s c else none

def wordSet (f : Flags) : CharSet :=
  if f.unicode then Text.isWordChar else fun c => c.isAlphanum || c == '_'

/-- Drops blanks and comments. -/
def skipVerbose : Bool → List Char → List Char
  | _, [] => []
  | true, c :: rest => skipVerbose (c != '\n') rest
  | false, c :: rest =>
    if Text.isBlank c then skipVerbose false rest
    else if c == '#' then skipVerbose true rest
    else c :: rest

/-- Passes over what does not count: in verbose text blanks and comments. -/
def skip (f : Flags) (cs : List Char) : List Char := if f.verbose then skipVerbose false cs else cs

/-- Whether the next characters are all there; what follows them. -/
def strip? : List Char → List Char → Option (List Char)
  | [], cs => some cs
  | _ :: _, [] => none
  | c :: expected, d :: cs => if c == d then strip? expected cs else none

end Flags

/-- Reads flags up to the mark that ends them: a colon before the text of a group, or a
parenthesis. No flag stands twice, and at least one stands behind the one minus sign. -/
def readFlags (seen : List Char) : List Char → Option (List FlagChange × Char × List Char)
  | [] => none
  | c :: rest =>
    if c == ':' || c == ')' then
      if seen.head? == some '-' then none else some ([], c, rest)
    else if seen.contains c then none
    else if c == '-' then readFlags (c :: seen) rest
    else if Flags.isFlag c then
      (readFlags (c :: seen) rest).map fun (changes, mark, rest) =>
        ((c, !seen.contains '-') :: changes, mark, rest)
    else none

end Weaving.Regex
