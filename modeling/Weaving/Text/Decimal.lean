namespace Weaving.Text

/-- A number of the form `digits * 10 ^ exponent`. -/
structure Decimal where
  digits : Nat
  exponent : Int
  deriving DecidableEq

def digitCount (n : Nat) : Nat := (Nat.toDigits 10 n).length

/-- A positive number of the form `significand * 2 ^ exponent`. It is narrow below if
the next smaller number of its kind is nearer than the next greater one. -/
structure Binary where
  significand : Nat
  exponent : Int
  narrowBelow : Bool

namespace Binary

/-- The binary number in quarters, so that the middle to each neighbour is whole. -/
def quarters (b : Binary) : Nat := 4 * b.significand

def lowEnd (b : Binary) : Nat := b.quarters - if b.narrowBelow then 1 else 2

def highEnd (b : Binary) : Nat := b.quarters + 2

/-- Brings a number of quarters to the scale on which it can be compared with a multiple
of a power of ten. -/
def scale (b : Binary) (exponent : Int) (quarters : Nat) : Nat :=
  quarters * Nat.pow 2 (b.exponent - 2).toNat * Nat.pow 10 (-exponent).toNat

def scaleDecimal (b : Binary) (d : Decimal) : Nat :=
  d.digits * Nat.pow 10 d.exponent.toNat * Nat.pow 2 (2 - b.exponent).toNat

/-- Whether a decimal number rounds to the binary one. A number in the middle goes to
the even neighbour. -/
def isRoundedFrom (b : Binary) (d : Decimal) : Bool :=
  let n := b.scaleDecimal d
  let low := b.scale d.exponent b.lowEnd
  let high := b.scale d.exponent b.highEnd
  if b.significand % 2 = 0 then low ≤ n && n ≤ high else low < n && n < high

/-- Of the multiples of a power of ten, the one at or below the number. -/
def below (b : Binary) (exponent : Int) : Decimal :=
  ⟨b.scale exponent b.quarters / b.scaleDecimal ⟨1, exponent⟩, exponent⟩

/-- The multiple of a power of ten that rounds to the number; of two the nearer. -/
def onGrid? (b : Binary) (exponent : Int) : Option Decimal :=
  let lower := b.below exponent
  let upper : Decimal := ⟨lower.digits + 1, exponent⟩
  let exact := b.scale exponent b.quarters
  let lowerIsNearer := exact - b.scaleDecimal lower ≤ b.scaleDecimal upper - exact
  match b.isRoundedFrom lower, b.isRoundedFrom upper with
  | true, true => some (if lowerIsNearer then lower else upper)
  | true, false => some lower
  | false, true => some upper
  | false, false => none

/-- The exponent of the leading decimal digit. -/
def magnitude (b : Binary) : Int := digitCount (b.below (-400)).digits - 401

/-- The shortest decimal number that rounds to the binary one. The grids are tried from
coarse to fine, and the seventeenth digit always suffices. The first grid is the one
above the leading digit, for a number just below a power of ten. -/
def shortest (b : Binary) : Decimal :=
  ((List.range 18).findSome? fun (n : Nat) => b.onGrid? (b.magnitude + 1 - n)).getD
    (b.below (b.magnitude - 16))

end Binary

/-- Digits with a point where it belongs, and zeros as far as it needs them. -/
def Decimal.positional (d : Decimal) : String :=
  let digits := Nat.toDigits 10 d.digits
  let places := (-d.exponent).toNat
  if places = 0 then String.ofList (digits ++ List.replicate d.exponent.toNat '0')
  else
    let padded := List.replicate (places + 1 - digits.length) '0' ++ digits
    String.ofList (padded.take (padded.length - places)) ++ "." ++
      String.ofList (padded.drop (padded.length - places))

/-- A number in double precision, given by its bits, so that a zero and a NaN keep
their sign. -/
structure Double where
  bits : UInt64
  deriving DecidableEq

namespace Double

def ofFloat (x : Float) : Double := ⟨x.toBits⟩

def infinity : Double := ⟨0x7FF0000000000000⟩

def nan : Double := ⟨0x7FF8000000000000⟩

def negate (x : Double) : Double := ⟨x.bits ^^^ 0x8000000000000000⟩

def isNegative (x : Double) : Bool := x.bits ≥ 0x8000000000000000

def fraction (x : Double) : Nat := x.bits.toNat % Nat.pow 2 52

def biasedExponent (x : Double) : Nat := x.bits.toNat / Nat.pow 2 52 % Nat.pow 2 11

/-- The absolute value of a finite number that is not zero. -/
def absolute (x : Double) : Binary :=
  match x.biasedExponent with
  | 0 => ⟨x.fraction, -1074, false⟩
  | e => ⟨x.fraction + Nat.pow 2 52, e - 1075, x.fraction == 0 && e > 1⟩

/-- The number that `significand * 10 ^ exponent` rounds to. Exponents out of reach are
decided without computing the power. -/
def ofDecimal (significand : Nat) (exponent : Int) : Double :=
  let top := exponent + digitCount significand
  if significand = 0 || top < -330 then ⟨0⟩
  else if top > 310 then infinity
  else ofFloat (Float.ofScientific significand (exponent < 0) exponent.natAbs)

/-- The shortest text that reads back as the number. Whole numbers have a zero behind the
point. -/
def render (x : Double) : String :=
  let sign := if x.isNegative then "-" else ""
  if x.biasedExponent = 2047 then sign ++ if x.fraction = 0 then "inf" else "nan"
  else if x.biasedExponent = 0 && x.fraction = 0 then sign ++ "0.0"
  else
    let text := x.absolute.shortest.positional
    sign ++ if text.contains '.' then text else text ++ ".0"

end Double

end Weaving.Text
