import Subgraph.Text.Direction.Table

/-!
# Directions in labels

A label shall look the same wherever it stands in a line.  `isOrderly` says
whether it does.

* It begins with a letter, which gives its direction.
* A label that goes from right to left has no letter of the other direction and
  ends with a letter or a digit, perhaps with marks.  It has not both kinds of
  digits.
* A label that goes from left to right has no letter of the other direction, no
  digit that goes with such letters, and ends with a letter or a digit too.
-/

namespace Subgraph.Text

/-- The class of a character with respect to direction. -/
inductive Direction where
  | leftToRight | rightToLeft | arabicLetter
  | europeanNumber | europeanSeparator | europeanTerminator | arabicNumber | commonSeparator
  | nonspacingMark | boundaryNeutral | neutral | separator
deriving DecidableEq

namespace Direction

/-- The tables of the classes, other than that of what goes from left to right. -/
def tables : List (Direction × CodePointTable) :=
  [(rightToLeft, rightToLeftTable), (arabicLetter, arabicLetterTable),
    (europeanNumber, europeanNumberTable), (europeanSeparator, europeanSeparatorTable),
    (europeanTerminator, europeanTerminatorTable), (arabicNumber, arabicNumberTable),
    (commonSeparator, commonSeparatorTable), (nonspacingMark, nonspacingMarkTable),
    (boundaryNeutral, boundaryNeutralTable), (neutral, neutralTable),
    (separator, separatorTable)]

/-- The class of a character. -/
def ofChar (c : Char) : Direction :=
  match tables.find? fun entry => entry.2.has c.toNat with
  | some (direction, _) => direction
  | none => leftToRight

/-- Whether a character makes it matter in which direction labels go. -/
def isRightward (direction : Direction) : Bool :=
  direction = rightToLeft || direction = arabicLetter || direction = arabicNumber

/-- Whether a class may stand in a label of either direction. -/
def isCommon (direction : Direction) : Bool :=
  [europeanNumber, europeanSeparator, europeanTerminator, commonSeparator, nonspacingMark,
    boundaryNeutral, neutral].contains direction

/-- The last class that is not that of a mark. -/
def lastOf (directions : List Direction) : Option Direction :=
  directions.reverse.find? fun direction => direction ≠ nonspacingMark

/-- Whether classes are those of a label that looks the same everywhere. -/
def areOrderly (directions : List Direction) : Bool :=
  match directions.head?, lastOf directions with
  | none, _ => true
  | some first, last =>
      if first = leftToRight then
        directions.all (fun direction => direction = leftToRight || direction.isCommon) &&
          (last = some leftToRight || last = some europeanNumber)
      else if first = rightToLeft ∨ first = arabicLetter then
        directions.all (fun direction => direction.isRightward || direction.isCommon) &&
          last.any (fun last => last.isRightward || last = europeanNumber) &&
          !(directions.contains europeanNumber && directions.contains arabicNumber)
      else false

/-- Whether a label looks the same everywhere. -/
def isOrderly (label : List Char) : Bool := areOrderly (label.map ofChar)

example : areOrderly [rightToLeft, europeanNumber, nonspacingMark] = true := by decide
example : areOrderly [rightToLeft, europeanNumber, arabicNumber] = false := by decide
example : areOrderly [europeanNumber, rightToLeft] = false := by decide
example : areOrderly [leftToRight, europeanSeparator] = false := by decide

end Direction

end Subgraph.Text
