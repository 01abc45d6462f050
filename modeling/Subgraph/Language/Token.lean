import Subgraph.Language.Name

/-!
# Tokens

The tokens of a document.  A string token holds the text that it denotes, so
quoted strings and block strings are one kind of token.

Commas are no tokens.  But in a few places none may stand, so a token in its
place, a lexeme, says whether one stands in front of it.
-/

namespace Subgraph

/-- A punctuator. -/
inductive Punctuator where
  | bang | dollar | ampersand | openParen | closeParen | spread | colon | equals | atSign
  | openBracket | closeBracket | openBrace | pipe | closeBrace
deriving DecidableEq

namespace Punctuator

/-- The punctuator of one character. -/
def ofChar? : Char → Option Punctuator
  | '!' => some bang
  | '$' => some dollar
  | '&' => some ampersand
  | '(' => some openParen
  | ')' => some closeParen
  | ':' => some colon
  | '=' => some equals
  | '@' => some atSign
  | '[' => some openBracket
  | ']' => some closeBracket
  | '\x7b' => some openBrace
  | '|' => some pipe
  | '\x7d' => some closeBrace
  | _ => none

end Punctuator

/-- A token. -/
inductive Token where
  | punctuator (punctuator : Punctuator)
  | name (name : Name)
  | int (literal : IntLiteral)
  | float (literal : FloatLiteral)
  | string (text : String)
deriving DecidableEq

/-- A token in its place. -/
structure Lexeme where
  /-- The token. -/
  token : Token
  /-- Whether a comma stands between it and the token before it. -/
  afterComma : Bool := false
deriving DecidableEq

end Subgraph
