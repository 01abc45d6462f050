import Subgraph.Yaml.Mark

/-!
# Tokens of configuration files

A text is a list of tokens.  Some of them stand for no character: they say where
a list or a mapping that has one item to a line begins and ends.
-/

namespace Subgraph.Yaml

/-- A tag, which says what a value is. -/
structure Tag where
  /-- What stands before its name. -/
  handle : String
  /-- Its name. -/
  name : String
deriving DecidableEq

/-- A token without its place. -/
inductive Lexeme where
  | directive
  | documentStart | documentEnd | textEnd
  | listStart | mappingStart | blockEnd
  | openBracket | closeBracket | openBrace | closeBrace
  | item | comma | key | value
  | reference (name : String)
  | anchor (name : String)
  | tag (tag : Tag)
  | scalar (isPlain : Bool) (text : String)
deriving DecidableEq

/-- A token. -/
structure Token where
  /-- Where it stands. -/
  mark : Mark
  /-- What it is. -/
  lexeme : Lexeme
deriving DecidableEq

end Subgraph.Yaml
