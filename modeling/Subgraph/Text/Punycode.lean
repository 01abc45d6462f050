import Subgraph.Text.CodePoint

/-!
# Punycode

The ASCII form of a label with characters beyond ASCII: its ASCII characters,
a hyphen, and then where and which the others are.

* The others are taken in the order of their code points.  For each the number
  of places skipped since the one before is written.
* A number is written with digits to base 36, least one first.  A threshold
  for each place says which digits end the number.
* The thresholds follow a bias, which is adapted after each number.

`encode` writes the form of a label and `decode?` reads it.
-/

namespace Subgraph.Text.Punycode

/-- A digit to base 36: a letter, or a numeral from 26 on. -/
def digit (n : Nat) : Char :=
  if n < 26 then Char.ofNat ('a'.toNat + n) else Char.ofNat ('0'.toNat + (n - 26))

/-- The threshold of a place, which is between 1 and 26. -/
def threshold (place bias : Nat) : Nat := max 1 (min 26 (place - bias))

/-- The digits of a number from some place on. -/
def digits (bias place number : Nat) : List Char :=
  let t := threshold place bias
  if number < t then [digit number]
  else digit (t + (number - t) % (36 - t)) :: digits bias (place + 36) ((number - t) / (36 - t))
termination_by number
decreasing_by
  have positive : 1 ≤ threshold place bias := by
    unfold threshold
    omega
  calc (number - threshold place bias) / (36 - threshold place bias)
      ≤ number - threshold place bias := Nat.div_le_self _ _
    _ < number := by omega

/-- The bias that comes of a reduced number. -/
def biasOf (number steps : Nat) : Nat :=
  if 455 < number then biasOf (number / 35) (steps + 36) else steps + 36 * number / (number + 38)
termination_by number

/-- The bias after a number, given how many characters are placed. -/
def adapt (number placed : Nat) (isFirst : Bool) : Nat :=
  let reduced := if isFirst then number / 700 else number / 2
  biasOf (reduced + reduced / placed) 0

/-- Where the writing of a label stands. -/
structure Progress where
  /-- What is written, last character first. -/
  written : List Char
  /-- How many places are skipped. -/
  skipped : Nat := 0
  /-- The bias. -/
  bias : Nat := 72
  /-- How many characters are placed. -/
  placed : Nat

/-- Passes one character of a label while those of one code point are placed. -/
def pass (basic code : Nat) (progress : Progress) (c : Char) : Progress :=
  if c.toNat < code then { progress with skipped := progress.skipped + 1 }
  else if c.toNat = code then
    { written := (digits progress.bias 36 progress.skipped).reverse ++ progress.written
      skipped := 0
      bias := adapt progress.skipped (progress.placed + 1) (progress.placed = basic)
      placed := progress.placed + 1 }
  else progress

/-- Places the characters of some code points, in order, from a code point on. -/
def place (label : List Char) (basic start : Nat) :
    (codes : List Nat) → Progress → Progress
  | [], progress => progress
  | code :: codes, progress =>
      let before := { progress with
        skipped := progress.skipped + (code - start) * (progress.placed + 1) }
      let after := label.foldl (pass basic code) before
      place label basic (code + 1) codes { after with skipped := after.skipped + 1 }

/-- A label in ASCII. -/
def encode (label : List Char) : List Char :=
  let basic := label.filter fun c => c.toNat < 0x80
  let codes := ((label.map Char.toNat).filter (0x80 ≤ ·)).eraseDups.mergeSort
  let start := if basic.isEmpty then [] else '-' :: basic.reverse
  (place label basic.length 0x80 codes { written := start, placed := basic.length }).written.reverse

/-! ## Reading -/

/-- The value of a digit. -/
def digitValue? (c : Char) : Option Nat :=
  if 'a' ≤ c ∧ c ≤ 'z' then some (c.toNat - 'a'.toNat)
  else if 'A' ≤ c ∧ c ≤ 'Z' then some (c.toNat - 'A'.toNat)
  else if c.isDigit then some (c.toNat - '0'.toNat + 26)
  else none

/-- Reads a number from some place on, given the weight of that place. -/
def readNumber (bias place weight : Nat) : List Char → Option (Nat × List Char)
  | [] => none
  | c :: rest => do
      let value ← digitValue? c
      let t := threshold place bias
      if value < t then some (value * weight, rest)
      else
        let (others, last) ← readNumber bias (place + 36) (weight * (36 - t)) rest
        some (value * weight + others, last)

/-- Places characters in a label, from a place and a code point on. -/
def decodeFrom (bias code place : Nat) (label cs : List Char) : Option (List Char) :=
  if cs.isEmpty then some label
  else do
    let (skipped, rest) ← readNumber bias 36 1 cs
    let count := label.length + 1
    let code' := code + (place + skipped) / count
    let place' := (place + skipped) % count
    let c ← charOfCode? code'
    if rest.length < cs.length then
      decodeFrom (adapt skipped count (place = 0)) code' (place' + 1) (label.insertIdx place' c) rest
    else none
termination_by cs.length

/-- The label with an ASCII form. -/
def decode? (cs : List Char) : Option (List Char) :=
  let digits := (cs.reverse.takeWhile (· ≠ '-')).reverse
  let basic := cs.take (cs.length - digits.length - 1)
  if digits.length < cs.length ∧ basic.isEmpty then none else decodeFrom 72 0x80 0 basic digits

example : encode ['b', 'ü', 'c', 'h', 'e', 'r'] =
    ['b', 'c', 'h', 'e', 'r', '-', 'k', 'v', 'a'] := by decide +kernel
example : decode? ['b', 'c', 'h', 'e', 'r', '-', 'k', 'v', 'a'] =
    some ['b', 'ü', 'c', 'h', 'e', 'r'] := by decide +kernel
example : decode? ['-', 'a'] = none := by decide +kernel

end Subgraph.Text.Punycode
