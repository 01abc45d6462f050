import Subgraph.Text.CodePoint

/-!
# Percent encoding

A byte is written as a percent sign and two hexadecimal digits.

* `percentEncoded` writes the UTF-8 bytes of the characters of a set, of the
  controls, and of all characters beyond ASCII.  A percent sign in the text
  stays as it is.
* `percentDecoded` reads a text as UTF-8 bytes.  A percent sign without two
  digits after it stands for itself.
-/

namespace Subgraph.Text

/-- A byte as a percent sign and two upper-case digits. -/
def percentByte (byte : UInt8) : List Char :=
  ['%', (Nat.digitChar (byte.toNat / 16)).toUpper, (Nat.digitChar (byte.toNat % 16)).toUpper]

/-- A text with the characters of a set, controls, and what is beyond ASCII percent-encoded. -/
def percentEncoded (set : List Char) (cs : List Char) : List Char :=
  cs.flatMap fun c =>
    if c ∈ set ∨ c.toNat < 0x20 ∨ 0x7f ≤ c.toNat then (String.utf8EncodeChar c).flatMap percentByte
    else [c]

/-- The bytes that a percent-encoded text stands for. -/
def percentBytes (cs : List Char) : List UInt8 :=
  match cs with
  | [] => []
  | '%' :: high :: low :: rest =>
      match hexValue? [high, low] with
      | some byte => UInt8.ofNat byte :: percentBytes rest
      | none => 0x25 :: percentBytes (high :: low :: rest)
  | c :: rest => String.utf8EncodeChar c ++ percentBytes rest
termination_by cs.length

/-- The text that a percent-encoded text stands for, if its bytes are one. -/
def percentDecoded? (cs : List Char) : Option (List Char) :=
  (String.fromUTF8? ⟨(percentBytes cs).toArray⟩).map String.toList

example : percentEncoded [' '] ['a', ' ', 'é', '%'] =
    ['a', '%', '2', '0', '%', 'C', '3', '%', 'A', '9', '%'] := by decide

end Subgraph.Text
