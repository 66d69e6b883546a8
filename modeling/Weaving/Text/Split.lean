namespace Weaving.Text

/-- The pieces between the occurrences of a separator. There is always one more
piece than there are separators. -/
def pieces (separator : Char) : List Char → List (List Char)
  | [] => [[]]
  | c :: r =>
    if c = separator then [] :: pieces separator r
    else match pieces separator r with
      | [] => [[c]]
      | p :: ps => (c :: p) :: ps

/-- The part behind the last character that satisfies `p`, or everything if none does. -/
def afterLast (p : Char → Bool) (s : List Char) : List Char :=
  (s.reverse.takeWhile (fun c => !p c)).reverse

/-- The two sides of the last separator, if there is one. -/
def splitLast (separator : Char) (s : List Char) : Option (List Char × List Char) :=
  let tail := afterLast (· == separator) s
  if tail.length < s.length then some (s.take (s.length - tail.length - 1), tail) else none

/-- The two sides of the first separator, if there is one. -/
def splitFirst (separator : Char) : List Char → Option (List Char × List Char)
  | [] => none
  | c :: r =>
    if c = separator then some ([], r)
    else (splitFirst separator r).map fun sides => (c :: sides.1, sides.2)

/-- A text up to the first place where `mark` stands in it. -/
def upTo (mark : List Char) : List Char → List Char
  | [] => []
  | c :: r => if mark.isPrefixOf (c :: r) then [] else c :: upTo mark r

/-- A text up to its first line feed. -/
def firstLine (s : String) : String := String.ofList (s.toList.takeWhile (· != '\n'))

/-- The last of the dotted segments of a name. -/
def lastSegment (s : String) : String := String.ofList (afterLast (· == '.') s.toList)

end Weaving.Text
