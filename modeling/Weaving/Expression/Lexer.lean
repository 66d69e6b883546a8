import Weaving.Expression.ParseError
import Weaving.Text.Blank
import Weaving.Text.Letter

namespace Weaving

/-- What the reader of an expression has seen of the word it is in. The characters of
a word or body stand in reverse. -/
inductive LexState where
  | between
  | ampersand
  | bar
  | word (reversed : List Char)
  | afterWord (word : String)
  | body (word : String) (depth : Nat) (reversed : List Char)
  deriving DecidableEq

namespace Token

def startsWord (c : Char) : Bool := Text.isLetter c || c == '_'

def continuesWord (c : Char) : Bool := Text.isLetterOrNumber c || c == '_' || c == '.'

/-- Reads a character that begins something new. -/
def start (c : Char) : Except ParseError (LexState × List Token) :=
  if Text.isBlank c then .ok (.between, [])
  else match c with
    | '(' => .ok (.between, [.open])
    | ')' => .ok (.between, [.close])
    | '&' => .ok (.ampersand, [])
    | '|' => .ok (.bar, [])
    | '!' => .ok (.between, [.not])
    | c => if startsWord c then .ok (.word [c], []) else .error (.unexpectedCharacter c)

/-- Reads the character behind a word that opens a call. -/
def open? (word : String) (c : Char) : Except ParseError (LexState × List Token) :=
  if Text.isBlank c then .ok (.afterWord word, [])
  else if c = '(' then .ok (.body word 0 [], [])
  else .error (.expectedOpen word)

/-- Reads one character and tells which tokens it completes. -/
def step : LexState → Char → Except ParseError (LexState × List Token)
  | .between, c => start c
  | .ampersand, c => if c = '&' then .ok (.between, [.and]) else .error (.unexpectedCharacter '&')
  | .bar, c => if c = '|' then .ok (.between, [.or]) else .error (.unexpectedCharacter '|')
  | .word reversed, c =>
    if continuesWord c then .ok (.word (c :: reversed), [])
    else
      let word := String.ofList reversed.reverse
      match ofWord? word with
      | some token => (start c).map fun next => (next.1, token :: next.2)
      | none => open? word c
  | .afterWord word, c => open? word c
  | .body word depth reversed, c =>
    if c = '(' then .ok (.body word (depth + 1) (c :: reversed), [])
    else if c = ')' then
      match depth with
      | 0 => .ok (.between, [.call word (String.ofList (Text.trimBlanks reversed.reverse))])
      | depth + 1 => .ok (.body word depth (c :: reversed), [])
    else .ok (.body word depth (c :: reversed), [])

/-- The tokens that the end of the text completes. -/
def finish : LexState → Except ParseError (List Token)
  | .between => .ok []
  | .ampersand => .error (.unexpectedCharacter '&')
  | .bar => .error (.unexpectedCharacter '|')
  | .word reversed =>
    let word := String.ofList reversed.reverse
    match ofWord? word with
    | some token => .ok [token]
    | none => .error (.expectedOpen word)
  | .afterWord word => .error (.expectedOpen word)
  | .body _ _ _ => .error .unbalanced

def scanFrom : LexState → List Char → Except ParseError (List Token)
  | state, [] => finish state
  | state, c :: rest => do
    let (next, completed) ← step state c
    let later ← scanFrom next rest
    .ok (completed ++ later)

/-- The tokens of an expression. -/
def scan (expression : String) : Except ParseError (List Token) :=
  scanFrom .between expression.toList

end Token

end Weaving
