import Weaving.Expression.Expr
import Weaving.Expression.Lexer

namespace Weaving.Expr

/-- What stands to the left of an operand within the same parentheses: a finished
disjunction, a finished conjunction behind it, and the negations of the operand. -/
structure Frame where
  disjunct : Option Expr
  conjunct : Option Expr
  negations : Nat

namespace Frame

def empty : Frame := ⟨none, none, 0⟩

def negate : Nat → Expr → Expr
  | 0, e => e
  | n + 1, e => negate n (.not e)

/-- The conjunction that an operand completes. -/
def conjoin (f : Frame) (operand : Expr) : Expr :=
  match f.conjunct with
  | none => negate f.negations operand
  | some left => .and left (negate f.negations operand)

/-- The disjunction that a conjunction completes. -/
def disjoin (f : Frame) (conjunction : Expr) : Expr :=
  match f.disjunct with
  | none => conjunction
  | some left => .or left conjunction

end Frame

variable (leaf : String → String → Except ParseError Expr)

mutual

/-- Reads on where an operand is due. -/
def parseOperand (frame : Frame) (outer : List Frame) : List Token → Except ParseError Expr
  | [] => .error .unexpectedEnd
  | .not :: rest => parseOperand { frame with negations := frame.negations + 1 } outer rest
  | .open :: rest => parseOperand .empty (frame :: outer) rest
  | .call name body :: rest =>
    match leaf name body with
    | .error e => .error e
    | .ok operand => parseOperator frame (frame.conjoin operand) outer rest
  | token :: _ => .error (.unexpectedToken token)

/-- Reads on behind an operand, which is the last of the given conjunction. -/
def parseOperator (frame : Frame) (conjunction : Expr) (outer : List Frame) :
    List Token → Except ParseError Expr
  | [] =>
    match outer with
    | [] => .ok (frame.disjoin conjunction)
    | _ :: _ => .error .missingClose
  | .and :: rest =>
    parseOperand { frame with conjunct := some conjunction, negations := 0 } outer rest
  | .or :: rest => parseOperand ⟨some (frame.disjoin conjunction), none, 0⟩ outer rest
  | token :: rest =>
    match outer, token with
    | [], token => .error (.unexpectedToken token)
    | enclosing :: outer, .close =>
      parseOperator enclosing (enclosing.conjoin (frame.disjoin conjunction)) outer rest
    | _ :: _, _ => .error .missingClose

end

/-- Reads an expression in which `leaf` gives the meaning of calls. -/
def parseTokens (tokens : List Token) : Except ParseError Expr :=
  if tokens.isEmpty then .error .emptyExpression else parseOperand leaf .empty [] tokens

end Weaving.Expr

namespace Weaving.Expr

/-- Named pointcuts that an expression can refer to. -/
abbrev References := List (String × String)

/-- Reads an expression. A call without a body that is no designator refers to a named
pointcut; `available` holds the names that are not being resolved already, so a name
that is defined but not available closes a cycle. -/
def parseWithin (references : References) (available : List String) (expression : String) :
    Except ParseError Expr := do
  let tokens ← Token.scan expression
  parseTokens (fun name body =>
    match designator? name body with
    | some result => result
    | none =>
      if body.isEmpty then
        let simple := Text.lastSegment name
        match references.lookup simple with
        | none => .error (.unknownReference name)
        | some definition =>
          if _h : simple ∈ available then
            parseWithin references (available.erase simple) definition
          else .error (.circularReference simple)
      else .error (.unsupportedDesignator name)) tokens
termination_by available.length
decreasing_by
  rw [List.length_erase_of_mem _h]
  have := List.length_pos_of_mem _h
  omega

/-- Reads an expression that may refer to named pointcuts. -/
def parse (references : References) (expression : String) : Except ParseError Expr :=
  parseWithin references (references.map (·.1)).eraseDups expression

end Weaving.Expr
