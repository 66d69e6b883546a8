import Weaving.Text.Word

namespace Weaving

/-- A set of characters. -/
abbrev CharSet := Char → Bool

/-- A condition on a place between two characters; at an end of the text there is no
character on that side. -/
abbrev Anchor := Option Char → Option Char → Bool

/-- A regular expression over characters and places. -/
inductive Regex where
  | empty
  | one (accepts : CharSet)
  | anchor (holds : Anchor)
  | seq (first second : Regex)
  | either (left right : Regex)
  | repeated (r : Regex) (least : Nat) (most : Option Nat)

namespace Regex

/-- How many steps the expression has when its repetitions are written out. -/
def unrolledSize : Regex → Nat
  | empty | one _ | anchor _ => 1
  | seq a b | either a b => a.unrolledSize + b.unrolledSize
  | repeated r least most => (most.getD (least + 1)) * r.unrolledSize

end Regex

namespace Anchor

def textStart : Anchor := fun before _ => before.isNone

def textEnd : Anchor := fun _ after => after.isNone

/-- The start of a line. With `crlf` a carriage return ends a line as well, but a
line feed behind it belongs to the same end. -/
def lineStart (crlf : Bool) : Anchor := fun before after =>
  match before with
  | none => true
  | some c => c == '\n' || crlf && c == '\r' && after != some '\n'

def lineEnd (crlf : Bool) : Anchor := fun before after =>
  match after with
  | none => true
  | some c =>
    if crlf then c == '\r' || c == '\n' && before != some '\r' else c == '\n'

section Words

variable (isWord : CharSet)

def wordStart : Anchor := fun before after => !before.any isWord && after.any isWord

def wordEnd : Anchor := fun before after => before.any isWord && !after.any isWord

def wordBoundary : Anchor := fun before after => before.any isWord != after.any isWord

def noWordBoundary : Anchor := fun before after => before.any isWord == after.any isWord

/-- Nothing of a word stands before the place. -/
def afterWord : Anchor := fun before _ => !before.any isWord

/-- Nothing of a word stands behind the place. -/
def beforeWord : Anchor := fun _ after => !after.any isWord

end Words

end Anchor

end Weaving
