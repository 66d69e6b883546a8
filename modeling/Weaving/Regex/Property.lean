import Weaving.Regex.Basic
import Weaving.Regex.Category
import Weaving.Regex.Script
import Weaving.Text.Blank

namespace Weaving.Regex

def hexValue (digits : List Char) : Nat :=
  digits.foldl (fun n c => 16 * n + (if c.isDigit then c.toNat - 48 else c.toNat - 55)) 0

/-- The ranges of the code points whose run has one of the labels. A label takes the
given number of characters. -/
def labelRanges (width : Nat) (labels : List String) (lines : List String) : List (Nat × Nat) :=
  let runs := lines.flatMap fun line => Text.words line.toList
  let ends := runs.foldl (fun (ranges, first) run =>
    let next := first + hexValue (run.drop width)
    if labels.contains (String.ofList (run.take width)) && first < next then
      ((first, next - 1) :: ranges, next)
    else (ranges, next)) (([] : List (Nat × Nat)), 0)
  ends.1.reverse

/-- Small letters without blanks, lines and underscores; a leading `is` says nothing,
except in the one name that is no more than that and a `c`. -/
def plainName (name : List Char) : List Char :=
  let plain (cs : List Char) : List Char :=
    (cs.filter fun c => c.toNat < 128 && c != ' ' && c != '_' && c != '-').map Char.toLower
  match name with
  | i :: s :: rest =>
    if i.toLower == 'i' && s.toLower == 's' then
      if plain rest == ['c'] then ['i', 's', 'c'] else plain rest
    else plain name
  | _ => plain name

def labelOf? (names : List (String × List String)) (name : String) : Option String :=
  (names.find? fun entry => entry.2.contains name).map Prod.fst

/-- The characters of a general category or of a group of categories. -/
def category? (name : String) : Option CharSet :=
  match name with
  | "any" => some fun _ => true
  | "ascii" => some fun c => c.toNat < 128
  | "assigned" =>
    let ranges := labelRanges 2 ["Cn"] categoryRuns
    some fun c => !Text.inRanges ranges c.toNat
  | _ => (labelOf? categoryNames name).map fun label =>
    let labels := (categoryNames.map Prod.fst).filter fun l =>
      l == label || l.length == 2 && l.startsWith label ||
        label == "LC" && ["Ll", "Lt", "Lu"].contains l
    let ranges := labelRanges 2 labels categoryRuns
    fun c => Text.inRanges ranges c.toNat

def script? (name : String) : Option CharSet :=
  (labelOf? scriptNames name).map fun label =>
    let ranges := labelRanges 4 [label] scriptRuns
    fun c => Text.inRanges ranges c.toNat

/-- The upper-case letters and what looks like them. -/
def upper? : Option CharSet :=
  (category? "lu").map fun upper c =>
    upper c || (0x2160 ≤ c.toNat && c.toNat ≤ 0x216F) || (0x24B6 ≤ c.toNat && c.toNat ≤ 0x24CF) ||
      (0x1F130 ≤ c.toNat && c.toNat ≤ 0x1F149) || (0x1F150 ≤ c.toNat && c.toNat ≤ 0x1F169) ||
      (0x1F170 ≤ c.toNat && c.toNat ≤ 0x1F189)

/-- The characters that a bare property name stands for. -/
def property? (name : List Char) : Option CharSet :=
  let name := String.ofList (plainName name)
  match name with
  | "alphabetic" | "alpha" => some Text.isLetter
  | "lowercase" | "lower" => some Text.isLowerLetter
  | "uppercase" | "upper" => upper?
  | "whitespace" | "wspace" | "space" => some Text.isBlank
  | _ => (category? name).or (script? name)

/-- The characters for which a property has a value. -/
def propertyValue? (property value : List Char) : Option CharSet :=
  let value := String.ofList (plainName value)
  match String.ofList (plainName property) with
  | "gc" | "generalcategory" => category? value
  | "sc" | "script" => script? value
  | _ => none

end Weaving.Regex
