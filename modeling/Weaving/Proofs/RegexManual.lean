import Weaving.Proofs.TextPlaces
import Weaving.Regex.Library

namespace Weaving

open Regex (Covers FoundIn Place)

namespace RegexLibrary

/-- A part of an expression: one of the two ends of a text, any run of characters within one line, or a text
that is quoted. -/
inductive Part where
  | start
  | finish
  | gap
  | quoted (s : String)

namespace Part

/-- What is written for a part. -/
def text (lib : RegexLibrary) : Part → String
  | start => "^"
  | finish => "$"
  | gap => ".*"
  | quoted s => lib.escape s

def Spans : Part → Place → Place → Prop
  | start, p, q => p.before = [] ∧ p = q
  | finish, p, q => p.after = [] ∧ p = q
  | gap, p, q => ∃ run, '\n' ∉ run ∧ p.after = run ++ q.after ∧ q.before = run.reverse ++ p.before
  | quoted s, p, q => p.after = s.toList ++ q.after ∧ q.before = s.toList.reverse ++ p.before

/-- The stretches that parts describe one behind the other. -/
def SpansAll : List Part → Place → Place → Prop
  | [], p, q => p = q
  | part :: rest, p, q => ∃ between, part.Spans p between ∧ SpansAll rest between q

end Part

/-- What the manual of a library says of it. `language` gives the stretches that an expression describes if
it is well-formed. -/
structure IsDocumented (lib : RegexLibrary) (language : String → Option (Place → Place → Prop)) : Prop where
  /-- Nothing but a well-formed expression is compiled. -/
  isSome_of_compile {text : String} {found : String → Bool} (h : lib.compile text = .ok found) :
    (language text).isSome = true
  /-- The search is for a match anywhere in a text. -/
  found_iff {text : String} {found : String → Bool} {S : Place → Place → Prop} (h : lib.compile text = .ok found)
    (hS : language text = some S) (s : String) : found s = true ↔ FoundIn S s
  /-- A match is a stretch of the text. -/
  leads {text : String} {S : Place → Place → Prop} (h : language text = some S) {p q : Place} (hspans : S p q) :
    p.Leads q
  /-- `xy` is `x` followed by `y`, for the two ends `^` and `$`, for `.*`, and for what is quoted. -/
  parts {parts : List Part} {S : Place → Place → Prop}
    (h : language (String.join (parts.map (Part.text lib))) = some S) (p q : Place) :
    S p q ↔ Part.SpansAll parts p q
  /-- An expression means the same in a group `(?:x)`, here with the two ends around it. -/
  group {text : String} {S Grouped : Place → Place → Prop} (h : language text = some S)
    (hgrouped : language ("^(?:" ++ text ++ ")$") = some Grouped) (p q : Place) :
    Grouped p q ↔ ∃ first last, Part.start.Spans p first ∧ S first last ∧ Part.finish.Spans last q

/-- Between the two ends of a text only the whole of it is found. -/
theorem foundIn_anchored_iff {S : Place → Place → Prop} (hleads : ∀ p q, S p q → p.Leads q) (text : String) :
    FoundIn (fun p q => ∃ first last, Part.start.Spans p first ∧ S first last ∧ Part.finish.Spans last q) text ↔
      Covers S text := by
  constructor
  · rintro ⟨⟨before, after⟩, q, ⟨taken, hafter, hbefore⟩, _, last, ⟨rfl, rfl⟩, hspans, hlast, rfl⟩
    -- Nothing stands before the match, so it begins where the text does.
    obtain rfl : taken = [] := by simpa [Place.start] using hbefore
    obtain rfl : text.toList = after := by simpa [Place.start] using hafter
    have hend := (hleads _ _ hspans).eq_end hlast
    rwa [hend] at hspans
  · intro h
    exact ⟨_, _, .refl _, _, _, ⟨rfl, rfl⟩, h, rfl, rfl⟩

end RegexLibrary

end Weaving
