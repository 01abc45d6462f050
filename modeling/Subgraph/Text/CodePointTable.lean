import Subgraph.Text.CodePoint
import Subgraph.Text.Split

/-!
# Tables of code points

A table is written as a text, one word for each entry.  An entry is a code
point or an inclusive range, in hexadecimal digits.  After an equals sign it
may say what its first code point becomes, as code points with dots between
them.  A range that becomes one code point becomes the range that starts there.
-/

namespace Subgraph.Text

/-- An entry of a table. -/
structure TableEntry where
  /-- The first code point. -/
  first : Nat
  /-- The last code point. -/
  last : Nat
  /-- What the first code point becomes. -/
  image : List Nat := []
deriving DecidableEq

/-- A table of code points. -/
abbrev CodePointTable := List TableEntry

namespace CodePointTable

/-- A number in hexadecimal digits. -/
def code? (digits : List Char) : Option Nat := if digits.isEmpty then none else hexValue? digits

/-- The entry that a word stands for. -/
def entry? (word : List Char) : Option TableEntry := do
  let (range, image) := cut (· = '=') word
  let (first, last) := cut (· = '-') range
  let first ← code? first
  let last ← last.elim (some first) code?
  let image ← image.elim (some []) fun image => (split '.' image).mapM code?
  return { first, last, image }

/-- The words of a text. -/
def words (cs : List Char) : List (List Char) :=
  split ' ' (cs.map fun c => if c = '\n' then ' ' else c)

/-- The table that a text stands for. -/
def ofText (text : String) : CodePointTable := (words text.toList).filterMap entry?

/-- The entry with a code point. -/
def find? (table : CodePointTable) (code : Nat) : Option TableEntry :=
  List.find? (fun entry => entry.first ≤ code && code ≤ entry.last) table

/-- Whether a table has a code point. -/
def has (table : CodePointTable) (code : Nat) : Bool := (table.find? code).isSome

/-- What a code point becomes, if the table has it. -/
def image? (table : CodePointTable) (code : Nat) : Option (List Nat) :=
  (table.find? code).map fun entry => entry.image.map (· + (code - entry.first))

/-- The code point that becomes a given list, if there is one. -/
def source? (table : CodePointTable) (image : List Nat) : Option Nat :=
  (List.find? (fun entry => entry.image = image) table).map TableEntry.first

example : (ofText "41-5A=61\nDF=73.73").image? 0x43 = some [0x63] := by decide +kernel
example : (ofText "41-5A=61\nDF=73.73").image? 0xdf = some [0x73, 0x73] := by decide +kernel
example : (ofText "41-5A=61\nDF=73.73").source? [0x73, 0x73] = some 0xdf := by decide +kernel
example : (ofText "300-304 310").has 0x305 = false := by decide +kernel

end CodePointTable

end Subgraph.Text
