import Weaving.Expression.Token

namespace Weaving

/-- Why a text is not a pointcut expression. -/
inductive ParseError where
  | unexpectedCharacter (c : Char)
  | expectedOpen (word : String)
  | unbalanced
  | emptyExpression
  | unexpectedToken (token : Token)
  | unexpectedEnd
  | missingClose
  | emptyParameter (body : String)
  | manyEllipses (body : String)
  | noParameterList (body : String)
  | unterminatedParameterList (body : String)
  | noMethodName (body : String)
  | emptyMethodName (body : String)
  | noTypePattern
  | unknownReference (name : String)
  | circularReference (name : String)
  | unsupportedDesignator (name : String)
  deriving DecidableEq

namespace ParseError

def message : ParseError → String
  | unexpectedCharacter c => "unexpected character '" ++ String.singleton c ++ "'"
  | expectedOpen word => "expected '(' after '" ++ word ++ "'"
  | unbalanced => "unbalanced parentheses"
  | emptyExpression => "empty expression"
  | unexpectedToken token => "unexpected token " ++ token.render
  | unexpectedEnd => "unexpected end of expression"
  | missingClose => "missing ')'"
  | emptyParameter body => "empty parameter pattern in '(" ++ body ++ ")'"
  | manyEllipses body => "at most one '..' is supported in '(" ++ body ++ ")'"
  | noParameterList body => "execution(" ++ body ++ ") has no parameter list"
  | unterminatedParameterList body => "execution(" ++ body ++ ") has an unterminated parameter list"
  | noMethodName body => "execution(" ++ body ++ ") has no method name"
  | emptyMethodName body => "execution(" ++ body ++ ") has an empty method name"
  | noTypePattern => "within() requires a type pattern"
  | unknownReference name => "unsupported designator or unknown pointcut '" ++ name ++ "()'"
  | circularReference name => "circular pointcut reference '" ++ name ++ "()'"
  | unsupportedDesignator name => "unsupported pointcut designator '" ++ name ++ "'"

end ParseError

end Weaving
