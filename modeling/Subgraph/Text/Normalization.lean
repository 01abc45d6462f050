import Subgraph.Text.Normalization.Table

/-!
# Normal texts

A text is normal when marks stand in a fixed order and every character that can
be composed with those after it is.  `normalized` takes every text to a normal
one that is canonically equivalent to it.

* Every character is decomposed as far as it goes.
* Marks without a character of class 0 between them are put in the order of
  their classes.  Marks of one class keep their order.
* From the front, a character is composed with those that follow it, unless one
  in between has class 0 or no lower class.
* The syllables of the Korean script are composed by arithmetic.
-/

namespace Subgraph.Text.Normalization

/-! ## Korean syllables -/

/-- The first of the leading letters. -/
def leadBase : Nat := 0x1100

/-- The first of the vowels. -/
def vowelBase : Nat := 0x1161

/-- What precedes the first of the trailing letters, and stands for none of them. -/
def tailBase : Nat := 0x11a7

/-- The first of the syllables. -/
def syllableBase : Nat := 0xac00

/-- The letters of a syllable. -/
def letters? (code : Nat) : Option (List Nat) :=
  if syllableBase ≤ code ∧ code < syllableBase + 19 * 21 * 28 then
    let index := code - syllableBase
    let tail := index % 28
    some ([leadBase + index / (21 * 28), vowelBase + index / 28 % 21] ++
      if tail = 0 then [] else [tailBase + tail])
  else none

/-- The syllable of two letters, or of a syllable and a trailing letter. -/
def syllable? (first second : Nat) : Option Nat :=
  if leadBase ≤ first ∧ first < leadBase + 19 ∧ vowelBase ≤ second ∧ second < vowelBase + 21 then
    some (syllableBase + ((first - leadBase) * 21 + (second - vowelBase)) * 28)
  else if syllableBase ≤ first ∧ first < syllableBase + 19 * 21 * 28 ∧
      (first - syllableBase) % 28 = 0 ∧ tailBase < second ∧ second < tailBase + 28 then
    some (first + (second - tailBase))
  else none

/-! ## Decomposing -/

/-- What a character is made of, in one step. -/
def parts? (code : Nat) : Option (List Nat) :=
  letters? code <|> compositions.image? code <|> decompositions.image? code

/-- How many steps a decomposition may take. -/
def stepLimit : Nat := 3

/-- What a character is made of after some steps. -/
def decomposed : (steps : Nat) → (code : Nat) → List Nat
  | 0, code => [code]
  | steps + 1, code =>
      match parts? code with
      | some parts => parts.flatMap (decomposed steps)
      | none => [code]

/-! ## Ordering marks -/

/-- The class of a character. -/
def combiningClass (code : Nat) : Nat :=
  match combiningClasses.find? fun entry => entry.2.has code with
  | some (number, _) => number
  | none => 0

/-- A text with its marks in order. -/
def ordered (codes : List Nat) : List Nat :=
  match codes with
  | [] => []
  | code :: rest =>
      let isMark := fun code => combiningClass code ≠ 0
      code :: ((rest.takeWhile isMark).mergeSort fun a b => combiningClass a ≤ combiningClass b) ++
        ordered (rest.dropWhile isMark)
termination_by codes.length
decreasing_by
  exact Nat.lt_succ_of_le (List.dropWhile_sublist _).length_le

/-! ## Composing -/

/-- What two characters compose to. -/
def pair? (first second : Nat) : Option Nat :=
  syllable? first second <|> compositions.source? [first, second]

/-- Composes a character with what follows it.  Those that did not compose come last first. -/
def composed (first : Nat) (passed : List Nat) : List Nat → List Nat
  | [] => first :: passed.reverse
  | code :: rest =>
      let isBlocked :=
        match passed with
        | [] => false
        | before :: _ => combiningClass code ≤ combiningClass before
      match if isBlocked then none else pair? first code with
      | some whole => composed whole passed rest
      | none =>
          if combiningClass code = 0 then first :: passed.reverse ++ composed code [] rest
          else composed first (code :: passed) rest

/-- The normal form of a text, as code points. -/
def normalizedCodes (codes : List Nat) : List Nat :=
  match ordered (0 :: codes.flatMap (decomposed stepLimit)) with
  | first :: rest => (composed first [] rest).drop 1
  | [] => []

/-- The normal form of a text. -/
def normalized (cs : List Char) : List Char :=
  if cs.all fun c => c.toNat < 0x80 then cs
  else (normalizedCodes (cs.map Char.toNat)).map Char.ofNat

example : letters? 0xac01 = some [0x1100, 0x1161, 0x11a8] := by decide
example : syllable? 0xac00 0x11a8 = some 0xac01 := by decide

end Subgraph.Text.Normalization
