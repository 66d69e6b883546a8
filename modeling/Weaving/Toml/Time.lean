import Weaving.Settings.Moment
import Weaving.Toml.Number

namespace Weaving.Toml

/-- A number of exactly so many digits, within bounds. -/
def readFixed (width low high : Nat) (cs : List Char) : Option (Nat × List Char) :=
  let digits := cs.take width
  let n := valueOf 10 digits
  if digits.length = width && digits.all Char.isDigit && low ≤ n && n ≤ high then
    some (n, cs.drop width)
  else none

def expect (c : Char) : List Char → Option (List Char)
  | d :: rest => if c == d then some rest else none
  | [] => none

def isLeapYear (year : Nat) : Bool := year % 4 = 0 && (year % 100 ≠ 0 || year % 400 = 0)

def daysIn (year month : Nat) : Nat :=
  if month = 2 then if isLeapYear year then 29 else 28
  else if [4, 6, 9, 11].contains month then 30
  else 31

def readDate (cs : List Char) : Option (Date × List Char) := do
  let (year, rest) ← readFixed 4 0 9999 cs
  let (month, rest) ← readFixed 2 1 12 (← expect '-' rest)
  let (day, rest) ← readFixed 2 1 31 (← expect '-' rest)
  if day ≤ daysIn year month then return (⟨year, month, day⟩, rest) else none

/-- Nanoseconds from the digits behind a point. More than nine digits do not count. -/
def nanoseconds (digits : List Char) : Nat :=
  let digits := digits.take 9
  valueOf 10 digits * Nat.pow 10 (9 - digits.length)

/-- A time of day. A minute may end in a leap second. -/
def readClock (cs : List Char) : Option (Clock × List Char) := do
  let (hour, rest) ← readFixed 2 0 23 cs
  let (minute, rest) ← readFixed 2 0 59 (← expect ':' rest)
  let (second, rest) ← readFixed 2 0 60 (← expect ':' rest)
  match rest with
  | '.' :: rest =>
    let digits := rest.takeWhile Char.isDigit
    if digits.isEmpty then none
    else return (⟨hour, minute, second, nanoseconds digits⟩, rest.dropWhile Char.isDigit)
  | rest => return (⟨hour, minute, second, 0⟩, rest)

def readOffset (cs : List Char) : Option (Option Offset × List Char) :=
  let read (negative : Bool) (rest : List Char) : Option (Option Offset × List Char) := do
    let (hours, rest) ← readFixed 2 0 23 rest
    let (minutes, rest) ← readFixed 2 0 59 (← expect ':' rest)
    let east : Int := 60 * hours + minutes
    return (some (.minutes (if negative then -east else east)), rest)
  match cs with
  | 'Z' :: rest | 'z' :: rest => some (some .universal, rest)
  | '+' :: rest => read false rest
  | '-' :: rest => read true rest
  | cs => some (none, cs)

/-- What may stand between a date and a time of day. A blank may also stand behind a date
alone, so it counts only before a digit pair and a colon. -/
def clockBehind? : List Char → Option (List Char)
  | 'T' :: rest | 't' :: rest => some rest
  | ' ' :: rest => if (readFixed 2 0 23 rest).isSome then some rest else none
  | _ => none

/-- A date, a time of day, or both. -/
def readMoment (cs : List Char) : Option (Moment × List Char) :=
  if cs.take 3 |>.getLast? |>.any (· == ':') then
    (readClock cs).map fun (t, rest) => (.clock t, rest)
  else do
    let (d, rest) ← readDate cs
    match clockBehind? rest with
    | none => return (.date d, rest)
    | some rest =>
      let (t, rest) ← readClock rest
      let (offset, rest) ← readOffset rest
      return (.both d t offset, rest)

/-- Whether a date or a time of day begins here: four digits and a minus sign, or two
digits and a colon. -/
def startsMoment (cs : List Char) : Bool :=
  let digits := cs.takeWhile Char.isDigit
  let next := (cs.drop digits.length).head?
  (digits.length = 4 && next == some '-') || (digits.length = 2 && next == some ':')

end Weaving.Toml
