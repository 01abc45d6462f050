import Subgraph.Text.Printable

/-!
# Texts quoted in messages

A message shows a text between double quotes.

* A quote and a backslash are preceded by a backslash.
* NUL, tab, line feed and carriage return have short escapes.
* Any other character that is not printable is shown by its code point, in
  lower-case hexadecimal digits without leading zeros between braces.
* Everything else stands for itself.
-/

namespace Subgraph.Text

/-- One character of a quoted text. -/
def quotedChar (c : Char) : List Char :=
  match c with
  | '"' => ['\\', '"']
  | '\\' => ['\\', '\\']
  | '\x00' => ['\\', '0']
  | '\t' => ['\\', 't']
  | '\n' => ['\\', 'n']
  | '\r' => ['\\', 'r']
  | c =>
      if isPrintable c then [c]
      else ['\\', 'u', '\x7b'] ++ Nat.toDigits 16 c.toNat ++ ['\x7d']

/-- A text between double quotes. -/
def quoted (s : String) : String :=
  String.ofList ('"' :: s.toList.flatMap quotedChar ++ ['"'])

example : quoted "a\"b\\" = "\"a\\\"b\\\\\"" := by decide
example : quoted "\x7f" = "\"\\u\x7b7f\x7d\"" := by decide +kernel

end Subgraph.Text
