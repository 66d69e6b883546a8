namespace Weaving.Regex

/-- A place in a text: what stands before it, nearest first, and what stands behind. -/
structure Place where
  before : List Char
  after : List Char
  deriving DecidableEq

def Place.start (text : List Char) : Place := ⟨[], text⟩

end Weaving.Regex
