import Weaving.Regex.Flags
import Weaving.Regex.Property

namespace Weaving.Regex

/-- What one written unit stands for. A byte is a character that was written as two
hexadecimal digits. -/
inductive Primitive where
  | literal (c : Char) (byte : Bool)
  | set (accepts : CharSet)
  | anchor (holds : Anchor)

def isHexDigit (c : Char) : Bool :=
  c.isDigit || ('a' ≤ c && c ≤ 'f') || ('A' ≤ c && c ≤ 'F')

/-- The character of a code in hexadecimal digits. -/
def charOfHex (digits : List Char) : Option Char :=
  let n := hexValue (digits.map Char.toUpper)
  if h : n.isValidChar then some (Char.ofNatAux n h) else none

/-- A fixed number of hexadecimal digits. -/
def readHexDigits (f : Flags) : Nat → List Char → Option (List Char × List Char)
  | 0, cs => some ([], cs)
  | _ + 1, [] => none
  | n + 1, c :: rest =>
    if isHexDigit c then
      (readHexDigits f n (f.skip rest)).map fun (digits, rest) => (c :: digits, rest)
    else none

/-- Characters up to a closing brace, with what is passed over between them left out.
The fuel is the number of characters. -/
def readBraced (f : Flags) : Nat → List Char → Option (List Char × List Char)
  | 0, _ => none
  | fuel + 1, cs =>
    match f.skip cs with
    | [] => none
    | '\x7d' :: rest => some ([], rest)
    | c :: rest => (readBraced f fuel rest).map fun (inner, rest) => (c :: inner, rest)

def readHex (f : Flags) (width : Nat) (cs : List Char) : Option (Primitive × List Char) :=
  match f.skip cs with
  | '\x7b' :: rest => do
    let (digits, rest) ← readBraced f (rest.length + 1) rest
    guard (!digits.isEmpty && digits.all isHexDigit)
    return (.literal (← charOfHex digits) false, f.skip rest)
  | cs => do
    let (digits, rest) ← readHexDigits f width cs
    return (.literal (← charOfHex digits) (width == 2), rest)

def splitAt? (mark : List Char) : List Char → Option (List Char × List Char)
  | [] => none
  | c :: cs =>
    match Flags.strip? mark (c :: cs) with
    | some rest => some ([], rest)
    | none => (splitAt? mark cs).map fun (left, right) => (c :: left, right)

/-- The set that the text in the braces of a property class names. -/
def namedSet (f : Flags) (negated : Bool) (name : List Char) : Option CharSet := do
  guard f.unicode
  let (s, negated) ← match splitAt? ['!', '='] name with
    | some (property, value) => (propertyValue? property value).map (·, !negated)
    | none =>
      match (splitAt? [':'] name).or (splitAt? ['='] name) with
      | some (property, value) => (propertyValue? property value).map (·, negated)
      | none => (property? name).map (·, negated)
  if negated then f.complement (f.fold s) else some (f.fold s)

/-- A property class, from behind its letter. -/
def readProperty (f : Flags) (negated : Bool) (cs : List Char) : Option (CharSet × List Char) :=
  match f.skip cs with
  | [] | '\\' :: _ => none
  | '\x7b' :: rest => do
    let (name, rest) ← readBraced f (rest.length + 1) rest
    return (← namedSet f negated name, rest)
  | c :: rest => do return (← namedSet f negated [c], f.skip rest)

/-- The sets of digits, blanks and word characters. -/
def shorthand? (f : Flags) : Char → Option CharSet
  | 'd' => some (if f.unicode then Text.isDecimal else Char.isDigit)
  | 's' => some (if f.unicode then Text.isBlank else fun c => c.toNat < 128 && Text.isBlank c)
  | 'w' => some f.wordSet
  | _ => none

/-- The word condition that the text in braces behind a `b` names. -/
def wordAnchor? (isWord : CharSet) (name : String) : Option Anchor :=
  match name with
  | "start" => some (.wordStart isWord)
  | "end" => some (.wordEnd isWord)
  | "start-half" => some (.afterWord isWord)
  | "end-half" => some (.beforeWord isWord)
  | _ => none

/-- The letters of a name in braces, read without the braces. -/
def readLetters (f : Flags) : Nat → List Char → List Char × List Char
  | 0, cs => ([], cs)
  | fuel + 1, cs =>
    match cs with
    | c :: rest =>
      if c.isAlpha || c == '-' then
        let (letters, rest) := readLetters f fuel (f.skip rest)
        (c :: letters, rest)
      else ([], cs)
    | [] => ([], [])

/-- A word boundary, from behind its letter. Braces that begin with a letter or a minus
sign name a special kind of it; other braces are a repetition. -/
def readBoundary (f : Flags) : List Char → Option (Anchor × List Char)
  | '\x7b' :: rest =>
    match f.skip rest with
    | [] => none
    | c :: cs =>
      if c.isAlpha || c == '-' then
        match readLetters f (cs.length + 1) (c :: cs) with
        | (name, '\x7d' :: after) =>
          (wordAnchor? f.wordSet (String.ofList name)).map fun a => (a, after)
        | _ => none
      else some (.wordBoundary f.wordSet, '\x7b' :: rest)
  | cs => some (.wordBoundary f.wordSet, cs)

/-- The control characters that a letter stands for. -/
def controlOf? : Char → Option Char
  | 'a' => some '\x07'
  | 'f' => some '\x0c'
  | 't' => some '\t'
  | 'n' => some '\n'
  | 'r' => some '\r'
  | 'v' => some '\x0b'
  | _ => none

/-- What a backslash begins, from behind it. Every character of ASCII that is no letter,
digit or angle bracket can be written behind a backslash. -/
def readEscape (f : Flags) : List Char → Option (Primitive × List Char)
  | [] => none
  | c :: rest =>
    match c with
    | 'x' => readHex f 2 rest
    | 'u' => readHex f 4 rest
    | 'U' => readHex f 8 rest
    | 'p' | 'P' => (readProperty f (c == 'P') rest).map fun (s, rest) => (.set s, rest)
    | 'd' | 's' | 'w' => (shorthand? f c).map fun s => (.set s, rest)
    | 'D' | 'S' | 'W' =>
      ((shorthand? f c.toLower).bind f.complement).map fun s => (.set s, rest)
    | 'A' => some (.anchor .textStart, rest)
    | 'z' => some (.anchor .textEnd, rest)
    | 'b' => (readBoundary f rest).map fun (a, rest) => (.anchor a, rest)
    | 'B' => some (.anchor (.noWordBoundary f.wordSet), rest)
    | '<' => some (.anchor (.wordStart f.wordSet), rest)
    | '>' => some (.anchor (.wordEnd f.wordSet), rest)
    | _ =>
      match controlOf? c with
      | some control => some (.literal control false, rest)
      | none => if c.toNat < 128 && !c.isAlphanum then some (.literal c false, rest) else none

end Weaving.Regex
