namespace Weaving.Toml

/-- The quotes around a text: single ones if it is written as it is, double ones if it can
hold escapes, three of them if it can go over several lines. -/
inductive Quotes where
  | literal | basic | literalLines | basicLines
  deriving DecidableEq

namespace Quotes

def isControl (c : Char) : Bool := c.toNat < 0x20 || c.toNat == 0x7F

/-- Whether a text holds a control character that is always escaped. -/
def needsCode (cs : List Char) : Bool := cs.any fun c => isControl c && c != '\t' && c != '\n'

/-- The length of the longest run of a character. -/
def longestRun (quote : Char) (cs : List Char) : Nat :=
  (cs.foldl (fun (run, longest) c =>
    let run := if c == quote then run + 1 else 0
    (run, max run longest)) (0, 0)).2

/-- The simplest quotes between which a text needs no escape. A tab is escaped all the
same, and so is everything else if there are none. -/
def ofText (cs : List Char) : Quotes :=
  let lines := cs.contains '\n'
  let escape := cs.contains '\\'
  if needsCode cs then if lines then basicLines else basic
  else if !escape && !lines && !cs.contains '"' then basic
  else if !lines && !cs.contains '\'' then literal
  else if !escape && longestRun '"' cs ≤ 2 then basicLines
  else if longestRun '\'' cs ≤ 2 then literalLines
  else if lines then basicLines
  else basic

/-- A key stands on one line. -/
def ofKey (cs : List Char) : Quotes :=
  if cs.any fun c => isControl c && c != '\t' then basic
  else if !cs.contains '\\' && !cs.contains '"' then basic
  else if !cs.contains '\'' then literal
  else basic

def delimiter : Quotes → List Char
  | literal => ['\'']
  | basic => ['"']
  | literalLines => ['\'', '\'', '\'']
  | basicLines => ['"', '"', '"']

def hexDigits (width n : Nat) : List Char :=
  let digits := (Nat.toDigits 16 n).map Char.toUpper
  List.replicate (width - digits.length) '0' ++ digits

/-- A character between double quotes, if it is none itself. Only a text over several
lines holds a line feed as it is. -/
def escapeChar (lines : Bool) (c : Char) : List Char :=
  match c with
  | '\x08' => ['\\', 'b']
  | '\t' => ['\\', 't']
  | '\n' => if lines then ['\n'] else ['\\', 'n']
  | '\x0c' => ['\\', 'f']
  | '\r' => ['\\', 'r']
  | '\\' => ['\\', '\\']
  | c => if isControl c then '\\' :: 'u' :: hexDigits 4 c.toNat else [c]

/-- A text between double quotes, behind so many quotes in a row that are not escaped.
Over several lines two of them may follow each other, on one line none may stand. -/
def escape (lines : Bool) (run : Nat) : List Char → List Char
  | [] => []
  | c :: rest =>
    if c = '"' then
      if lines && run < 2 then c :: escape lines (run + 1) rest
      else '\\' :: c :: escape lines 0 rest
    else escapeChar lines c ++ escape lines 0 rest

def content (quotes : Quotes) (cs : List Char) : List Char :=
  match quotes with
  | literal | literalLines => cs
  | basic => escape false 0 cs
  | basicLines => escape true 0 cs

/-- A text between quotes. One that goes over several lines begins on a line of its own. -/
def around (quotes : Quotes) (cs : List Char) : String :=
  let breaks := (quotes = literalLines || quotes = basicLines) && cs.contains '\n'
  String.ofList (quotes.delimiter ++ (if breaks then ['\n'] else []) ++ quotes.content cs ++
    quotes.delimiter)

end Quotes

/-- A text as it is written in a document. -/
def quotedText (s : String) : String := (Quotes.ofText s.toList).around s.toList

def isBareChar (c : Char) : Bool := c.isAlphanum || c == '_' || c == '-'

/-- A key as it is written in a document. -/
def quotedKey (key : String) : String :=
  if key != "" && key.toList.all isBareChar then key
  else (Quotes.ofKey key.toList).around key.toList

end Weaving.Toml
