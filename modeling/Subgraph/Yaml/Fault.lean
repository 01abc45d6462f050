import Subgraph.Text.Quoted
import Subgraph.Yaml.Mark

/-!
# Faults of configuration files

A file is refused in one of three ways.

* It is not written as it should be: there is a `Flaw` at some place.
* A value in it cannot stand where it does: there is a `Misfit` at some place.
  The message names the way to the value, unless that is the whole.
* As a whole, because there is no document or more than one, or because values
  are nested or repeated without end.
-/

namespace Subgraph.Yaml

/-! ## Flaws -/

/-- What is not written as it should be. -/
inductive Flaw where
  | unexpectedEnd
  | unexpectedCharacter (c : Char)
  | keyWithoutColon | keyExpected | tooManyBrackets
  | itemNotAllowed | itemInBrackets | keyNotAllowed | valueNotAllowed
  | namelessDirective | directiveName | directiveEnd
  | versionPoint | versionTooLong | versionExpected | tagDirectiveEnd
  | tagMark | tagHandleEnd | tagClosing | tagEnd | tagWithoutText
  | escapedByte | firstByte | furtherByte | escapedCharacter
  | anchorName
  | depthZero | blockHeaderEnd | blockTab
  | quotedDocumentMark | quoteNotClosed | unknownEscape | escapeDigits | escapeCharacter
  | plainTab
  | documentStart | unknownAnchor | contentExpected | mappingKey | bracesSeparator
  | bracketsSeparator | listItem
deriving DecidableEq

/-- The text of a flaw. -/
def Flaw.message : Flaw → String
  | unexpectedEnd => "unexpected eof"
  | unexpectedCharacter c => "unexpected character: \x60" ++ String.ofList [c] ++ "'"
  | keyWithoutColon => "simple key expect ':'"
  | keyExpected => "simple key expected"
  | tooManyBrackets => "recursion limit exceeded"
  | itemNotAllowed => "block sequence entries are not allowed in this context"
  | itemInBrackets => "\"-\" is only valid inside a block"
  | keyNotAllowed => "mapping keys are not allowed in this context"
  | valueNotAllowed => "mapping values are not allowed in this context"
  | namelessDirective => "while scanning a directive, could not find expected directive name"
  | directiveName => "while scanning a directive, found unexpected non-alphabetical character"
  | directiveEnd => "while scanning a directive, did not find expected comment or line break"
  | versionPoint => "while scanning a YAML directive, did not find expected digit or '.' character"
  | versionTooLong => "while scanning a YAML directive, found extremely long version number"
  | versionExpected => "while scanning a YAML directive, did not find expected version number"
  | tagDirectiveEnd => "while scanning TAG, did not find expected whitespace or line break"
  | tagMark => "while scanning a tag, did not find expected '!'"
  | tagHandleEnd => "while parsing a tag directive, did not find expected '!'"
  | tagClosing => "while scanning a tag, did not find the expected '>'"
  | tagEnd => "while scanning a tag, did not find expected whitespace or line break"
  | tagWithoutText => "while parsing a tag, did not find expected tag URI"
  | escapedByte => "while parsing a tag, did not find URI escaped octet"
  | firstByte => "while parsing a tag, found an incorrect leading UTF-8 octet"
  | furtherByte => "while parsing a tag, found an incorrect trailing UTF-8 octet"
  | escapedCharacter => "while parsing a tag, found an invalid UTF-8 codepoint"
  | anchorName => "while scanning an anchor or alias, " ++
      "did not find expected alphabetic or numeric character"
  | depthZero => "while scanning a block scalar, found an indentation indicator equal to 0"
  | blockHeaderEnd => "while scanning a block scalar, did not find expected comment or line break"
  | blockTab => "while scanning a block scalar, " ++
      "found a tab character where an indentation space is expected"
  | quotedDocumentMark => "while scanning a quoted scalar, found unexpected document indicator"
  | quoteNotClosed => "while scanning a quoted scalar, found unexpected end of stream"
  | unknownEscape => "while parsing a quoted scalar, found unknown escape character"
  | escapeDigits => "while parsing a quoted scalar, did not find expected hexadecimal number"
  | escapeCharacter => "while parsing a quoted scalar, " ++
      "found invalid Unicode character escape code"
  | plainTab => "while scanning a plain scalar, found a tab"
  | documentStart => "did not find expected <document start>"
  | unknownAnchor => "while parsing node, found unknown anchor"
  | contentExpected => "while parsing a node, did not find expected node content"
  | mappingKey => "while parsing a block mapping, did not find expected key"
  | bracesSeparator => "while parsing a flow mapping, did not find expected ',' or '\x7d'"
  | bracketsSeparator => "while parsing a flow sequence, expected ',' or ']'"
  | listItem => "while parsing a block collection, did not find expected '-' indicator"

/-! ## Misfits -/

/-- What cannot stand where it does. -/
inductive Misfit where
  | containerAsKey (container expected : String)
  | taggedText (text expected : String)
  | numberOutOfRange
deriving DecidableEq

/-- The text of a misfit. -/
def Misfit.message : Misfit → String
  | containerAsKey container expected => "invalid type: " ++ container ++ ", expected " ++ expected
  | taggedText text expected =>
      "invalid value: string " ++ Text.quoted text ++ ", expected " ++ expected
  | numberOutOfRange => "JSON number out of range"

/-! ## Ways -/

/-- The way to a value from the whole, which has none. -/
abbrev Way := Option String

namespace Way

/-- The way to the value of a key. -/
def key (way : Way) (key : String) : Way :=
  some (match way with
    | none => key
    | some text => text ++ "." ++ key)

/-- The way to an item of a list. -/
def item (way : Way) (index : Nat) : Way :=
  some (way.getD "." ++ "[" ++ toString index ++ "]")

/-- What a message has in front of it. -/
def heading (way : Way) : String :=
  let text := way.getD "."
  if text = "." then "" else text ++ ": "

end Way

/-! ## Faults -/

/-- Why a file is refused. -/
inductive Fault where
  | flaw (flaw : Flaw) (mark : Mark)
  | misfit (misfit : Misfit) (way : Way) (mark : Mark)
  | noDocument | severalDocuments | nestedTooDeep | repeatedTooOften
deriving DecidableEq

/-- The text of a fault. -/
def Fault.message : Fault → String
  | flaw found mark => found.message ++ mark.text
  | misfit found way mark => way.heading ++ found.message ++ mark.text
  | noDocument => "EOF while parsing a value"
  | severalDocuments =>
      "deserializing from YAML containing more than one document is not supported"
  | nestedTooDeep => "recursion limit exceeded"
  | repeatedTooOften => "repetition limit exceeded"

/-- Refuses a text for a flaw at some place. -/
def refuse {α : Type} (flaw : Flaw) (mark : Mark) : Except Fault α := .error (.flaw flaw mark)

end Subgraph.Yaml
