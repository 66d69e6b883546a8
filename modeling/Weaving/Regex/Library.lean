namespace Weaving

/-- A library of regular expressions. It compiles an expression to a search in other texts, or says
why it does not take it, and it quotes texts. -/
structure RegexLibrary where
  compile : String → Except String (String → Bool)
  escape : String → String

end Weaving
