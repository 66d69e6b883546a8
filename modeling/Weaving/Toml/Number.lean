import Weaving.Settings.Datum
import Weaving.Toml.Texts

namespace Weaving.Toml

/-- The digits that follow a digit, with single underscores between them left out. An
underscore that no digit follows ends them. -/
def moreDigits (p : Char → Bool) : List Char → List Char × List Char
  | [] => ([], [])
  | [c] => if p c then ([c], []) else ([], [c])
  | c :: d :: rest =>
    if p c then
      let (digits, rest) := moreDigits p (d :: rest)
      (c :: digits, rest)
    else if c == '_' && p d then moreDigits p (d :: rest)
    else ([], c :: d :: rest)

def readDigits (p : Char → Bool) (cs : List Char) : Option (List Char × List Char) :=
  if cs.head?.any p then some (moreDigits p cs) else none

def valueOf (base : Nat) (digits : List Char) : Nat :=
  digits.foldl (fun n c => base * n + (hexDigit? c).getD 0) 0

/-- A whole number, if it has room in 64 bits. -/
def bounded (n : Int) : Option Datum :=
  if -9223372036854775808 ≤ n && n ≤ 9223372036854775807 then some (.integer n) else none

/-- A whole number to another base, from behind the mark of the base. -/
def readInBase (base : Nat) (cs : List Char) : Option (Datum × List Char) := do
  let (digits, rest) ← readDigits (fun c => (hexDigit? c).any (· < base)) cs
  return (← bounded (valueOf base digits), rest)

/-- The part before a point: no zero stands before another digit. -/
def readWhole : List Char → Option (List Char × List Char)
  | '0' :: rest => some (['0'], rest)
  | cs => readDigits Char.isDigit cs

def readSign : List Char → Bool × List Char
  | '+' :: rest => (false, rest)
  | '-' :: rest => (true, rest)
  | cs => (false, cs)

/-- The part behind a point, if there is a point. -/
def readFraction : List Char → Option (Option (List Char) × List Char)
  | '.' :: rest => (readDigits Char.isDigit rest).map fun (digits, rest) => (some digits, rest)
  | cs => some (none, cs)

def readExponent (cs : List Char) : Option (Option Int × List Char) :=
  let read (rest : List Char) : Option (Option Int × List Char) := do
    let (negative, rest) := readSign rest
    let (digits, rest) ← readDigits Char.isDigit rest
    let n : Int := valueOf 10 digits
    return (some (if negative then -n else n), rest)
  match cs with
  | 'e' :: rest | 'E' :: rest => read rest
  | cs => some (none, cs)

def signed (negative : Bool) (x : Text.Double) : Datum :=
  .float (if negative then x.negate else x)

/-- A number with a sign, to base ten. It is a float if it has a fraction or an exponent.
A float may be too far below zero, but not too far above. -/
def readDecimal (cs : List Char) : Option (Datum × List Char) := do
  let (negative, rest) := readSign cs
  match rest with
  | 'i' :: 'n' :: 'f' :: rest => return (signed negative .infinity, rest)
  | 'n' :: 'a' :: 'n' :: rest => return (signed negative .nan, rest)
  | rest =>
    let (whole, rest) ← readWhole rest
    let (fraction, rest) ← readFraction rest
    let (exponent, rest) ← readExponent rest
    if fraction.isNone && exponent.isNone then
      let n : Int := valueOf 10 whole
      return (← bounded (if negative then -n else n), rest)
    else
      let digits := whole ++ fraction.getD []
      let x := Text.Double.ofDecimal (valueOf 10 digits)
        (exponent.getD 0 - (fraction.getD []).length)
      if x = .infinity && !negative then none else return (signed negative x, rest)

def readNumber : Reader Datum
  | '0' :: 'x' :: rest => readInBase 16 rest
  | '0' :: 'o' :: rest => readInBase 8 rest
  | '0' :: 'b' :: rest => readInBase 2 rest
  | cs => readDecimal cs

end Weaving.Toml
