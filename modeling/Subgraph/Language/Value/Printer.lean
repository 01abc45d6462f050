import Subgraph.Language.Document

/-!
# Values and directives on one line

* The items of a list and the fields of an object are separated by a comma and
  a space.
* A string is quoted.  Quotes, backslashes and the controls below U+0020 are
  escaped, the tab excepted.
* Numerals, names and variables stand as they were written.
-/

namespace Subgraph

/-- A digit of a number to base sixteen, in upper case, with four digits in all. -/
def fourUpperHexDigits (n : Nat) : List Char :=
  let digits := (Nat.toDigits 16 n).map Char.toUpper
  List.replicate (4 - digits.length) '0' ++ digits

/-- One character inside a quoted string. -/
def quotedStringChar (c : Char) : List Char :=
  match c with
  | '"' => ['\\', '"']
  | '\\' => ['\\', '\\']
  | '\x08' => ['\\', 'b']
  | '\x0c' => ['\\', 'f']
  | '\n' => ['\\', 'n']
  | '\r' => ['\\', 'r']
  | '\t' => ['\t']
  | c => if c.toNat < 0x20 then '\\' :: 'u' :: fourUpperHexDigits c.toNat else [c]

/-- A string between quotes. -/
def quotedString (s : String) : String :=
  String.ofList ('"' :: s.toList.flatMap quotedStringChar ++ ['"'])

namespace Value

mutual

/-- The text of a value on one line. -/
def text : Value → String
  | .null => "null"
  | .boolean true => "true"
  | .boolean false => "false"
  | .int literal => literal.text
  | .float literal => literal.text
  | .string s => quotedString s
  | .enumerated name => name.text
  | .variable name => "$" ++ name.text
  | .list items => "[" ++ ", ".intercalate (textAll items) ++ "]"
  | .object fields => "\x7b" ++ ", ".intercalate (textIn fields) ++ "\x7d"

/-- The texts of some values. -/
def textAll : List Value → List String
  | [] => []
  | item :: rest => item.text :: textAll rest

/-- The texts of some fields. -/
def textIn : List (Name × Value) → List String
  | [] => []
  | (name, value) :: rest => (name.text ++ ": " ++ value.text) :: textIn rest

end

end Value

namespace Directive

/-- The text of an applied directive on one line. -/
def text (directive : Directive) : String :=
  "@" ++ directive.name.text ++
    (if directive.arguments.isEmpty then ""
     else "(" ++ ", ".intercalate (Value.textIn directive.arguments) ++ ")")

end Directive

end Subgraph
