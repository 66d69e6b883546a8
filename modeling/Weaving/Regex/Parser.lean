import Weaving.Regex.Item
import Weaving.Regex.Search

namespace Weaving.Regex

/-- A part of a sequence. Flags are a part as well, but cannot be repeated. -/
structure Piece where
  regex : Regex
  depth : Nat
  repeatable : Bool

/-- What stands so far in a group: the alternatives that are closed and the sequence at
the end, both in reverse. -/
structure Level where
  alternatives : List (Regex × Nat)
  sequence : List Piece

namespace Level

def empty : Level := ⟨[], []⟩

def push (l : Level) (p : Piece) : Level := { l with sequence := p :: l.sequence }

/-- The sequence as one expression, with its depth. -/
def joined (l : Level) : Regex × Nat :=
  match l.sequence with
  | [] => (.empty, 0)
  | [p] => (p.regex, p.depth)
  | p :: rest =>
    rest.foldl (fun r p => (.seq p.regex r.1, max r.2 (p.depth + 1))) (p.regex, p.depth + 1)

def bar (l : Level) : Level := ⟨l.joined :: l.alternatives, []⟩

/-- The whole group as one expression, with its depth. -/
def close (l : Level) : Regex × Nat :=
  match l.alternatives with
  | [] => l.joined
  | alternatives =>
    let (r, depth) := l.joined
    alternatives.foldl (fun r a => (.either a.1 r.1, max r.2 (a.2 + 1))) (r, depth + 1)

/-- Repeats the last part. -/
def repeatLast (l : Level) (least : Nat) (most : Option Nat) : Option Level :=
  match l.sequence with
  | p :: rest =>
    if p.repeatable then
      some { l with sequence := ⟨.repeated p.regex least most, p.depth + 1, true⟩ :: rest }
    else none
  | [] => none

end Level

/-- What was read of an expression: the group that is open, the groups around it with the
flags to go back to, innermost first, and the names that are taken. -/
structure Reading where
  flags : Flags
  level : Level
  outer : List (Level × Flags)
  names : List (List Char)

namespace Reading

def start : Reading := ⟨.standard, .empty, [], []⟩

/-- Takes up the next unit. -/
def take (r : Reading) : Item → Option Reading
  | .opening name changes =>
    if name.any r.names.contains then none
    else some ⟨r.flags.update changes, .empty, (r.level, r.flags) :: r.outer,
      name.toList ++ r.names⟩
  | .closing =>
    match r.outer with
    | [] => none
    | (level, flags) :: outer =>
      let (inner, depth) := r.level.close
      some ⟨flags, level.push ⟨inner, depth + 1, true⟩, outer, r.names⟩
  | .bar => some { r with level := r.level.bar }
  | .flags changes =>
    some { r with flags := r.flags.update changes, level := r.level.push ⟨.empty, 0, false⟩ }
  | .repetition least most =>
    (r.level.repeatLast least most).map fun level => { r with level := level }
  | .regex inner depth => some { r with level := r.level.push ⟨inner, depth, true⟩ }

/-- Reads to the end of the text. The fuel is the number of characters. -/
def run : Nat → Reading → List Char → Option Reading
  | 0, r, cs => if (r.flags.skip cs).isEmpty then some r else none
  | fuel + 1, r, cs =>
    match r.flags.skip cs with
    | [] => some r
    | cs =>
      match Item.read r.flags cs with
      | some (item, rest) => (r.take item).bind fun r => run fuel r rest
      | none => none

end Reading

/-- How deep the parts of an expression may be nested. -/
def deepest : Nat := 250

/-- The expression that a text describes, unless it is malformed. -/
def parse? (text : String) : Option Regex := do
  let reading ← Reading.run text.length .start text.toList
  guard reading.outer.isEmpty
  let (r, depth) := reading.level.close
  guard (depth ≤ deepest)
  return r

end Weaving.Regex
