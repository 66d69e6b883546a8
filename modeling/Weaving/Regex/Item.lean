import Weaving.Regex.Bracket

namespace Weaving.Regex

/-- One unit of the text of an expression. -/
inductive Item where
  | opening (name : Option (List Char)) (changes : List FlagChange)
  | closing
  | bar
  | flags (changes : List FlagChange)
  | repetition (least : Nat) (most : Option Nat)
  | regex (r : Regex) (depth : Nat)

namespace Item

/-- The name of a group, from behind its opening mark. -/
def readName (cs : List Char) : Option (List Char × List Char) :=
  match splitAt? ['>'] cs with
  | some (c :: name, rest) =>
    if (c == '_' || Text.isLetter c) &&
      name.all (fun c => ['_', '.', '[', ']'].contains c || Text.isLetterOrNumber c)
    then some (c :: name, rest) else none
  | _ => none

/-- What a parenthesis opens, from behind it: a group, or flags for the rest of the group
that is open. Conditions on what stands around a place cannot be written in groups. -/
def readOpening (f : Flags) (cs : List Char) : Option (Item × List Char) :=
  let named (rest : List Char) : Option (Item × List Char) :=
    (readName rest).map fun (name, rest) => (opening (some name) [], rest)
  match f.skip cs with
  | '?' :: '=' :: _ | '?' :: '!' :: _ | '?' :: '<' :: '=' :: _ | '?' :: '<' :: '!' :: _ => none
  | '?' :: 'P' :: '<' :: rest | '?' :: '<' :: rest => named rest
  | '?' :: rest =>
    match readFlags [] rest with
    | some (changes, ':', rest) => some (opening none changes, rest)
    | some (c :: changes, _, rest) => some (flags (c :: changes), rest)
    | _ => none
  | rest => some (opening none [], rest)

/-- Digits of a number; in verbose text other things may stand between them. -/
def readDigits (f : Flags) : Nat → List Char → List Char × List Char
  | 0, cs => ([], cs)
  | fuel + 1, cs =>
    match cs with
    | c :: rest =>
      if c.isDigit then
        let (digits, rest) := readDigits f fuel (f.skip rest)
        (c :: digits, rest)
      else ([], cs)
    | [] => ([], [])

/-- The bound of a repetition, a number of 32 bits between blanks. -/
def readBound (f : Flags) (cs : List Char) : Option (Nat × List Char) :=
  let cs := cs.dropWhile Text.isBlank
  let (digits, rest) := readDigits f cs.length cs
  let n := digits.foldl (fun n c => 10 * n + (c.toNat - 48)) 0
  if digits.isEmpty || n ≥ 4294967296 then none
  else some (n, f.skip (rest.dropWhile Text.isBlank))

/-- Passes over the mark of a repetition that prefers few rounds. -/
def skipReluctance (cs : List Char) : List Char :=
  match cs with
  | '?' :: rest => rest
  | cs => cs

/-- A repetition with bounds, from behind its brace. -/
def readBounds (f : Flags) (cs : List Char) : Option (Item × List Char) := do
  let finish (item : Item) : List Char → Option (Item × List Char)
    | '\x7d' :: rest => some (item, skipReluctance (f.skip rest))
    | _ => none
  let (least, rest) ← readBound f (f.skip cs)
  match rest with
  | ',' :: rest =>
    match f.skip rest with
    | '\x7d' :: rest => finish (repetition least none) ('\x7d' :: rest)
    | rest =>
      let (most, rest) ← readBound f rest
      if least ≤ most then finish (repetition least (some most)) rest else none
  | rest => finish (repetition least (some least)) rest

/-- A character for itself, with those that differ from it only in case if case is
ignored. A byte that is no character of ASCII needs the flag for Unicode. -/
def literal (f : Flags) (c : Char) (byte : Bool) : Option Regex :=
  if !f.unicode && byte && c.toNat ≥ 128 then none
  else some (.one (f.fold (· == c)))

def dot (f : Flags) : Option Regex :=
  if !f.unicode then none
  else if f.dotAll then some (.one fun _ => true)
  else if f.crlf then some (.one fun c => c != '\n' && c != '\r')
  else some (.one (· != '\n'))

/-- Reads the next unit. -/
def read (f : Flags) : List Char → Option (Item × List Char)
  | [] => none
  | c :: rest =>
    let plain (r : Option Regex) (rest : List Char) : Option (Item × List Char) :=
      r.map fun r => (regex r 0, rest)
    match c with
    | '(' => readOpening f rest
    | ')' => some (closing, rest)
    | '|' => some (bar, rest)
    | '?' => some (repetition 0 (some 1), skipReluctance rest)
    | '*' => some (repetition 0 none, skipReluctance rest)
    | '+' => some (repetition 1 none, skipReluctance rest)
    | '\x7b' => readBounds f rest
    | '[' =>
      (readBracket f rest).map fun (s, depth, rest) => (regex (.one s) depth, rest)
    | '.' => plain (dot f) rest
    | '^' => plain (some (.anchor (if f.multiLine then .lineStart f.crlf else .textStart))) rest
    | '$' => plain (some (.anchor (if f.multiLine then .lineEnd f.crlf else .textEnd))) rest
    | '\\' =>
      match readEscape f rest with
      | some (.literal c byte, rest) => plain (literal f c byte) rest
      | some (.set s, rest) => plain (some (.one s)) rest
      | some (.anchor a, rest) => plain (some (.anchor a)) rest
      | none => none
    | c => plain (literal f c false) rest

end Item

end Weaving.Regex
