import Weaving.Settings.Moment
import Weaving.Table
import Weaving.Text.Decimal
import Weaving.Text.Record
import Weaving.Toml.Quoting

namespace Weaving

/-- A value of the configuration. -/
inductive Datum where
  | text (s : String)
  | integer (n : Int)
  | float (x : Text.Double)
  | boolean (b : Bool)
  | moment (m : Moment)
  | array (items : List Datum)
  | table (entries : List (String × Datum))

namespace Datum

/-- A decimal number with some places behind the point. It is whole if it has none. -/
def ofDecimal (digits : Int) (places : Nat) : Datum :=
  if places = 0 then integer digits
  else
    let x := Text.Double.ofDecimal digits.natAbs (-places)
    float (if digits < 0 then x.negate else x)

mutual

/-- A value on one line. -/
def inline : Datum → String
  | text s => Toml.quotedText s
  | integer n => toString n
  | float x => x.render
  | boolean b => Text.truth b
  | moment m => m.render
  | array items => Text.listing (inlineItems items)
  | table [] => "\x7b\x7d"
  | table (e :: rest) => "\x7b " ++ Text.commaList (inlineEntries (e :: rest)) ++ " \x7d"

def inlineItems : List Datum → List String
  | [] => []
  | d :: rest => d.inline :: inlineItems rest

def inlineEntries : List (String × Datum) → List String
  | [] => []
  | (key, d) :: rest => (Toml.quotedKey key ++ " = " ++ d.inline) :: inlineEntries rest

end

/-- What a value is, in an error that wanted another kind. -/
def kindText : Datum → String
  | text s => "string " ++ Text.quoted s
  | integer n => "integer `" ++ toString n ++ "`"
  | float x => "floating point `" ++ floatText x ++ "`"
  | boolean b => "boolean `" ++ Text.truth b ++ "`"
  | moment _ => "map"
  | array _ => "sequence"
  | table _ => "map"
where
  /-- No sign tells one NaN from another here. -/
  floatText (x : Text.Double) : String :=
    if x.biasedExponent = 2047 && x.fraction ≠ 0 then "NaN" else x.render

end Datum

end Weaving
