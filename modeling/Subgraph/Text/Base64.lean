/-!
# Base 64

Bytes written with 64 characters.

* Three bytes are four characters of six bits each.
* One or two bytes at the end are filled up with zero bits, and equals signs
  stand for the characters that are missing.
-/

namespace Subgraph.Text

/-- The character of six bits. -/
def sixBits (n : Nat) : Char :=
  if n < 26 then Char.ofNat ('A'.toNat + n)
  else if n < 52 then Char.ofNat ('a'.toNat + (n - 26))
  else if n < 62 then Char.ofNat ('0'.toNat + (n - 52))
  else if n = 62 then '+'
  else '/'

/-- So many of the first characters of 24 bits. -/
def sixBitGroups (count bits : Nat) : List Char :=
  ([Nat.pow 2 18, Nat.pow 2 12, Nat.pow 2 6, 1].take count).map fun place => sixBits (bits / place % 64)

/-- Bytes in base 64. -/
def base64 : List UInt8 → List Char
  | a :: b :: c :: rest =>
      sixBitGroups 4 (Nat.pow 2 16 * a.toNat + Nat.pow 2 8 * b.toNat + c.toNat) ++ base64 rest
  | [a, b] => sixBitGroups 3 (Nat.pow 2 16 * a.toNat + Nat.pow 2 8 * b.toNat) ++ ['=']
  | [a] => sixBitGroups 2 (Nat.pow 2 16 * a.toNat) ++ ['=', '=']
  | [] => []

example : base64 "user:pass".toUTF8.toList = "dXNlcjpwYXNz".toList := by decide +kernel
example : base64 [255] = ['/', 'w', '=', '='] := by decide

end Subgraph.Text
