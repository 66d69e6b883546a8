import Weaving.Toml.Layout

namespace Weaving.Toml

def hexDigit? (c : Char) : Option Nat :=
  if c.isDigit then some (c.toNat - 48)
  else if 'a' ≤ c && c ≤ 'f' then some (c.toNat - 87)
  else if 'A' ≤ c && c ≤ 'F' then some (c.toNat - 55)
  else none

/-- The character whose code stands in so many hexadecimal digits. -/
def readCode (width code : Nat) : Reader Char :=
  match width with
  | 0 => fun cs => if h : code.isValidChar then some (Char.ofNatAux code h, cs) else none
  | width + 1 => fun
    | [] => none
    | c :: rest => (hexDigit? c).bind fun digit => readCode width (16 * code + digit) rest

/-- What a backslash begins, from behind it. -/
def readEscape : Reader Char
  | 'b' :: rest => some ('\x08', rest)
  | 'f' :: rest => some ('\x0c', rest)
  | 'n' :: rest => some ('\n', rest)
  | 'r' :: rest => some ('\r', rest)
  | 't' :: rest => some ('\t', rest)
  | '"' :: rest => some ('"', rest)
  | '\\' :: rest => some ('\\', rest)
  | 'u' :: rest => readCode 4 0 rest
  | 'U' :: rest => readCode 8 0 rest
  | _ => none

def cons (c : Char) : Option (List Char × List Char) → Option (List Char × List Char) :=
  Option.map fun (text, rest) => (c :: text, rest)

/-- A text in single quotes, from behind the first. -/
def readLiteral : Reader (List Char)
  | [] => none
  | '\'' :: rest => some ([], rest)
  | c :: rest => if isPlain c then cons c (readLiteral rest) else none

/-- A text in double quotes, from behind the first. The fuel is the number of
characters. -/
def readBasic : Nat → Reader (List Char)
  | 0, _ => none
  | _ + 1, [] => none
  | _ + 1, '"' :: rest => some ([], rest)
  | fuel + 1, '\\' :: rest =>
    (readEscape rest).bind fun (c, rest) => cons c (readBasic fuel rest)
  | fuel + 1, c :: rest => if isPlain c then cons c (readBasic fuel rest) else none

/-- The end of a text over several lines, at a quote: three quotes, before which up to
two belong to the text. -/
def closeLines (quote : Char) (cs : List Char) : Option (List Char × List Char) :=
  let quotes := cs.takeWhile (· == quote)
  if quotes.length < 3 then none
  else
    let inner := min (quotes.length - 3) 2
    some (quotes.take inner, cs.drop (inner + 3))

/-- What follows a backslash at the end of a line: the next character that is no
blank. -/
def joinLines? (cs : List Char) : Option (List Char) :=
  (lineBreak? (skipSpaces cs)).map (go cs.length)
where
  go : Nat → List Char → List Char
    | 0, cs => cs
    | fuel + 1, cs =>
      match lineBreak? (skipSpaces cs) with
      | some rest => go fuel rest
      | none => skipSpaces cs

/-- A text over several lines, from behind the opening quotes and the line break that
may follow them. Line breaks are line feeds in the text. The fuel is the number of
characters. -/
def readLines (quote : Char) : Nat → Reader (List Char)
  | 0, _ => none
  | fuel + 1, cs =>
    match lineBreak? cs with
    | some rest => cons '\n' (readLines quote fuel rest)
    | none =>
      match cs with
      | [] => none
      | c :: rest =>
        if c == quote then
          match closeLines quote cs with
          | some found => some found
          | none => cons c (readLines quote fuel rest)
        else if c == '\\' && quote == '"' then
          match joinLines? rest with
          | some rest => readLines quote fuel rest
          | none =>
            match readEscape rest with
            | some (c, rest) => cons c (readLines quote fuel rest)
            | none => none
        else if isPlain c then cons c (readLines quote fuel rest)
        else none

/-- A text in any of the four kinds of quotes. -/
def readText (cs : List Char) : Option (String × List Char) :=
  let found := match cs with
    | '"' :: '"' :: '"' :: rest => readLines '"' (rest.length + 1) ((lineBreak? rest).getD rest)
    | '\'' :: '\'' :: '\'' :: rest =>
      readLines '\'' (rest.length + 1) ((lineBreak? rest).getD rest)
    | '"' :: rest => readBasic (rest.length + 1) rest
    | '\'' :: rest => readLiteral rest
    | _ => none
  found.map fun (text, rest) => (String.ofList text, rest)

end Weaving.Toml
