import Weaving.Regex.Escape

namespace Weaving.Regex

/-- What two sets in brackets are joined by. -/
inductive SetOperation where
  | intersection | difference | symmetricDifference

def SetOperation.apply : SetOperation → CharSet → CharSet → CharSet
  | intersection, s, t => fun c => s c && t c
  | difference, s, t => fun c => s c && !t c
  | symmetricDifference, s, t => fun c => s c != t c

/-- The items of brackets that stand side by side: their union, how many they are and how
deep they are nested. -/
structure Items where
  union : CharSet
  count : Nat
  depth : Nat

namespace Items

def none : Items := ⟨fun _ => false, 0, 0⟩

def add (items : Items) (s : CharSet) (depth : Nat) : Items :=
  ⟨fun c => items.union c || s c, items.count + 1, max items.depth depth⟩

/-- The depth of the items taken as one. -/
def nesting (items : Items) : Nat := if items.count ≤ 1 then items.depth else items.depth + 1

end Items

/-- Brackets whose end is not reached: the items so far, and what stands left of the
last operator. -/
structure Bracket where
  negated : Bool
  left : Option (CharSet × Nat × SetOperation)
  items : Items

namespace Bracket

/-- The set and the depth of what was read. Operators are of one rank and group to the
left; case is ignored on both sides. -/
def value (b : Bracket) (f : Flags) : CharSet × Nat :=
  match b.left with
  | none => (b.items.union, b.items.nesting)
  | some (s, depth, operation) =>
    (operation.apply (f.fold s) (f.fold b.items.union), max depth b.items.nesting + 1)

def operate (b : Bracket) (f : Flags) (operation : SetOperation) : Bracket :=
  let (s, depth) := b.value f
  { b with left := some (s, depth, operation), items := .none }

def add (b : Bracket) (s : CharSet) (depth : Nat) : Bracket :=
  { b with items := b.items.add s depth }

/-- The set of closed brackets and its depth. -/
def close (b : Bracket) (f : Flags) : Option (CharSet × Nat) :=
  let (s, depth) := b.value f
  (if b.negated then f.complement (f.fold s) else some (f.fold s)).map fun s => (s, depth + 1)

/-- Minus signs at the start of brackets stand for themselves. -/
def readMinuses (f : Flags) : Nat → Items → List Char → Items × List Char
  | 0, items, cs => (items, cs)
  | fuel + 1, items, cs =>
    match cs with
    | '-' :: rest => readMinuses f fuel (items.add (· == '-') 0) (f.skip rest)
    | cs => (items, cs)

/-- The start of brackets, from behind the opening one. A closing bracket that comes
first stands for itself. -/
def start (f : Flags) (cs : List Char) : Bracket × List Char :=
  let (negated, cs) := match f.skip cs with
    | '^' :: rest => (true, f.skip rest)
    | cs => (false, cs)
  match readMinuses f cs.length .none cs with
  | (⟨union, 0, depth⟩, ']' :: rest) =>
    (⟨negated, none, Items.add ⟨union, 0, depth⟩ (· == ']') 0⟩, f.skip rest)
  | (items, cs) => (⟨negated, none, items⟩, cs)

end Bracket

/-- The named sets of ASCII. -/
def asciiSet? (name : String) : Option CharSet :=
  let graphic (c : Char) : Bool := '!' ≤ c && c ≤ '~'
  match name with
  | "alnum" => some Char.isAlphanum
  | "alpha" => some Char.isAlpha
  | "ascii" => some fun c => c.toNat < 128
  | "blank" => some fun c => c == ' ' || c == '\t'
  | "cntrl" => some fun c => c.toNat < 32 || c.toNat == 127
  | "digit" => some Char.isDigit
  | "graph" => some graphic
  | "lower" => some Char.isLower
  | "print" => some fun c => ' ' ≤ c && c ≤ '~'
  | "punct" => some fun c => graphic c && !c.isAlphanum
  | "space" => some fun c => c.toNat < 128 && Text.isBlank c
  | "upper" => some Char.isUpper
  | "word" => some fun c => c.isAlphanum || c == '_'
  | "xdigit" => some isHexDigit
  | _ => none

/-- A named set in brackets and colons of its own, from behind its bracket. If there is
none the bracket opens inner brackets. -/
def readAsciiSet (cs : List Char) : Option (Bool × CharSet × List Char) :=
  match cs with
  | ':' :: rest =>
    let (negated, rest) := match rest with
      | '^' :: rest => (true, rest)
      | rest => (false, rest)
    match splitAt? [':'] rest with
    | some (name, ']' :: after) =>
      (asciiSet? (String.ofList name)).map fun s => (negated, s, after)
    | _ => none
  | _ => none

/-- One end of a range, or an item alone. -/
def readSetItem (f : Flags) : List Char → Option (Primitive × List Char)
  | [] => none
  | '\\' :: rest => readEscape f rest
  | c :: rest => some (.literal c false, rest)

/-- A character in brackets. Without the flag for Unicode it has to be of ASCII. -/
def memberOf? (f : Flags) : Primitive → Option Char
  | .literal c _ => if f.unicode || c.toNat < 128 then some c else none
  | _ => none

def singleton? (f : Flags) : Primitive → Option CharSet
  | .set s => some s
  | p => (memberOf? f p).map fun c => (· == c)

/-- The character behind the next one. In verbose text blanks between the two do not
count, and the mark of a comment is taken for a blank once. -/
def peekBehind (f : Flags) (cs : List Char) : Option Char :=
  let rest := cs.tail
  if f.verbose then
    match rest.dropWhile Text.isBlank with
    | '#' :: rest => (rest.dropWhile Text.isBlank).head?
    | rest => rest.head?
  else rest.head?

/-- A range, or an item alone. A minus sign makes a range unless the brackets or an
operator follow it. -/
def readRange (f : Flags) (cs : List Char) : Option (CharSet × List Char) := do
  let (first, rest) ← readSetItem f cs
  let rest := f.skip rest
  if rest.isEmpty then none
  else if rest.head? != some '-' || peekBehind f rest == some ']' || peekBehind f rest == some '-'
  then return (← singleton? f first, rest)
  else
    let (last, rest) ← readSetItem f (f.skip rest.tail)
    let low ← memberOf? f first
    let high ← memberOf? f last
    if low ≤ high then some (fun c => low ≤ c && c ≤ high, rest) else none

/-- Reads brackets to their end; `outer` are the brackets around them, innermost first.
The fuel is the number of characters. -/
def readBrackets (f : Flags) :
    Nat → List Bracket → Bracket → List Char → Option (CharSet × Nat × List Char)
  | 0, _, _, _ => none
  | fuel + 1, outer, b, cs =>
    match f.skip cs with
    | [] => none
    | '[' :: rest =>
      match readAsciiSet rest with
      | some (negated, s, rest) =>
        match if negated then f.complement (f.fold s) else some (f.fold s) with
        | some s => readBrackets f fuel outer (b.add s 0) rest
        | none => none
      | none =>
        let (inner, rest) := Bracket.start f rest
        readBrackets f fuel (b :: outer) inner rest
    | ']' :: rest =>
      match b.close f, outer with
      | some (s, depth), [] => some (s, depth, rest)
      | some (s, depth), b :: outer => readBrackets f fuel outer (b.add s depth) rest
      | none, _ => none
    | '&' :: '&' :: rest => readBrackets f fuel outer (b.operate f .intersection) rest
    | '-' :: '-' :: rest => readBrackets f fuel outer (b.operate f .difference) rest
    | '~' :: '~' :: rest => readBrackets f fuel outer (b.operate f .symmetricDifference) rest
    | cs =>
      match readRange f cs with
      | some (s, rest) => readBrackets f fuel outer (b.add s 0) rest
      | none => none

/-- A bracketed set, from behind its opening bracket: the set, its depth and the rest. -/
def readBracket (f : Flags) (cs : List Char) : Option (CharSet × Nat × List Char) :=
  let (b, rest) := Bracket.start f cs
  readBrackets f (cs.length + 1) [] b rest

end Weaving.Regex
