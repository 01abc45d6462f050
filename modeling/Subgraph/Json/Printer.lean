import Subgraph.Json.Basic
import Subgraph.Decimal.Shortest

/-!
# JSON texts

Two layouts of a value.

* `Json.compress` has no blanks.
* `Json.pretty` puts each item on its own line, two spaces deeper than its
  container.  An empty container stays on one line.

Strings escape the quote, the backslash and the controls below U+0020, five of
them by a letter and the others by four lower-case hexadecimal digits.
-/

namespace Subgraph

namespace Json

/-- Doubles are positional from 1e-5 up to 1e16. -/
def doubleFormat : DecimalFormat := ⟨-5, 16⟩

/-- A digit of a number to base sixteen, with four digits in all. -/
def fourHexDigits (n : Nat) : List Char :=
  let digits := Nat.toDigits 16 n
  List.replicate (4 - digits.length) '0' ++ digits

/-- One character inside a string. -/
def escapedChar (c : Char) : List Char :=
  match c with
  | '"' => ['\\', '"']
  | '\\' => ['\\', '\\']
  | '\x08' => ['\\', 'b']
  | '\x0c' => ['\\', 'f']
  | '\n' => ['\\', 'n']
  | '\r' => ['\\', 'r']
  | '\t' => ['\\', 't']
  | c => if c.toNat < 0x20 then '\\' :: 'u' :: fourHexDigits c.toNat else [c]

/-- A string between quotes. -/
def stringText (s : String) : String :=
  String.ofList ('"' :: s.toList.flatMap escapedChar ++ ['"'])

/-- An integer in decimal digits. -/
def intText (n : Int) : String :=
  match n with
  | .ofNat n => DecimalFormat.digitText n
  | .negSucc n => "-" ++ DecimalFormat.digitText (n + 1)

mutual

/-- The text of a value without blanks. -/
def compress : Json → String
  | .null => "null"
  | .bool true => "true"
  | .bool false => "false"
  | .int n => intText n
  | .double x => doubleFormat.write x
  | .str s => stringText s
  | .arr items => "[" ++ ",".intercalate (compressAll items) ++ "]"
  | .obj members => "\x7b" ++ ",".intercalate (compressIn members) ++ "\x7d"

/-- The texts of some values. -/
def compressAll : List Json → List String
  | [] => []
  | item :: rest => item.compress :: compressAll rest

/-- The texts of some members. -/
def compressIn : List (String × Json) → List String
  | [] => []
  | (name, value) :: rest => (stringText name ++ ":" ++ value.compress) :: compressIn rest

end

/-- The start of a line at a depth. -/
def lineStart (depth : Nat) : String :=
  String.ofList ('\n' :: List.replicate (2 * depth) ' ')

/-- Items one to a line between brackets. -/
def block (opening closing : String) (depth : Nat) (items : List String) : String :=
  if items.isEmpty then opening ++ closing
  else
    opening ++ lineStart (depth + 1) ++ ("," ++ lineStart (depth + 1)).intercalate items ++
      lineStart depth ++ closing

mutual

/-- The text of a value with one item to a line, for a container at a depth. -/
def prettyAt (depth : Nat) : Json → String
  | .arr items => block "[" "]" depth (prettyAll (depth + 1) items)
  | .obj members => block "\x7b" "\x7d" depth (prettyIn (depth + 1) members)
  | .null => "null"
  | .bool true => "true"
  | .bool false => "false"
  | .int n => intText n
  | .double x => doubleFormat.write x
  | .str s => stringText s

/-- The texts of some values at a depth. -/
def prettyAll (depth : Nat) : List Json → List String
  | [] => []
  | item :: rest => item.prettyAt depth :: prettyAll depth rest

/-- The texts of some members at a depth. -/
def prettyIn (depth : Nat) : List (String × Json) → List String
  | [] => []
  | (name, value) :: rest =>
      (stringText name ++ ": " ++ value.prettyAt depth) :: prettyIn depth rest

end

/-- The text of a value with one item to a line. -/
def pretty (value : Json) : String := value.prettyAt 0

example : stringText "a\"\n\x01é/" = "\"a\\\"\\n\\u0001é/\"" := by decide +kernel
example : (Double.ofDecimal? false 1 16).map doubleFormat.write = some "1e+16" := by
  decide +kernel
example : (Double.ofDecimal? false 1 (-5)).map doubleFormat.write = some "0.00001" := by
  decide +kernel
example : (Double.ofDecimal? true 3 (-324)).map doubleFormat.write = some "-5e-324" := by
  decide +kernel
example : doubleFormat.write (.zero true) = "-0.0" := by decide +kernel

end Json

end Subgraph
