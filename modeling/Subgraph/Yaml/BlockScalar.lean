import Subgraph.Yaml.Fault

/-!
# Scalars on lines of their own

A scalar may stand on the lines below a bar or a greater-than sign.

* Behind the sign stand, in either order, a digit for the depth of the lines and
  a plus or a minus for their end.  A comment may follow.
* Without a digit the lines are as deep as the first one with text, or as a
  deeper blank line before it.
* After a bar every line end counts.  After a greater-than sign a line end
  between two lines is a space, unless one of the two begins with a blank, and
  of several line ends the first one does not count.
* The last line end counts, and the blank lines behind it do not.  With a plus
  all of them count, with a minus none.
-/

namespace Subgraph.Yaml

/-! ## The first line -/

/-- Which line ends at the end count. -/
inductive Chomping where
  | strip | clip | keep
deriving DecidableEq

/-- What stands behind the sign. -/
structure BlockHeader where
  /-- Which line ends at the end count. -/
  chomping : Chomping := .clip
  /-- How much deeper than what is around it the scalar is. -/
  depth : Option Nat := none

/-- Reads the sign for the end, if it comes next. -/
def readChomping (cursor : Cursor) : Option Chomping × Cursor :=
  match cursor.next? with
  | some '+' => (some .keep, cursor.skip 1)
  | some '-' => (some .strip, cursor.skip 1)
  | _ => (none, cursor)

/-- Reads the digit for the depth, if it comes next. -/
def readDepth (start : Mark) (cursor : Cursor) : Except Fault (Option Nat × Cursor) :=
  match cursor.next? with
  | some c =>
      if c = '0' then refuse .depthZero start
      else if c.isDigit then .ok (some (c.toNat - '0'.toNat), cursor.skip 1)
      else .ok (none, cursor)
  | none => .ok (none, cursor)

/-- Reads what stands behind the sign, and the rest of its line. -/
def readBlockHeader (start : Mark) (cursor : Cursor) : Except Fault (BlockHeader × Cursor) := do
  let (before, cursor) := readChomping cursor
  let (depth, cursor) ← readDepth start cursor
  let (after, cursor) :=
    if before.isNone && depth.isSome then readChomping cursor else (none, cursor)
  let cursor := (cursor.skipAll isBlank).skipComment
  if cursor.isAtLineEnd then
    return ({ chomping := (before <|> after).getD .clip, depth }, cursor.skipLineEnd)
  else refuse .blockHeaderEnd start

/-! ## The lines -/

/-- Moves over blank lines and the spaces in front of the next line: how many line ends there are,
and how deep the deepest of these lines is.  A depth limits the spaces. -/
def skipBlankLines (depth : Option Nat) (cursor : Cursor) :
    Except Fault (Nat × Nat × Cursor) :=
  let spaces := (cursor.run (· = ' ')).length
  let next := cursor.skip (match depth with
    | some depth => min spaces (depth - cursor.mark.column)
    | none => spaces)
  if next.next? = some '\t' && depth.all fun depth => next.mark.column < depth then
    refuse .blockTab next.mark
  else if next.lineEndWidth = 0 then .ok (0, next.mark.column, next)
  else if next.skipLineEnd.left < cursor.left then do
    let (count, deepest, last) ← skipBlankLines depth next.skipLineEnd
    return (count + 1, max next.mark.column deepest, last)
  else refuse .unexpectedEnd next.mark
termination_by cursor.left

/-- What stands between two lines. -/
structure LineGap where
  /-- Whether a line ends in front of it. -/
  isBroken : Bool
  /-- Whether that line begins with a blank. -/
  isAfterBlank : Bool
  /-- How many blank lines there are. -/
  blankLines : Nat

/-- What a gap stands for, given whether lines are folded and the next one begins with a blank. -/
def LineGap.text (gap : LineGap) (isFolded isBeforeBlank : Bool) : List Char :=
  let joint :=
    if isFolded && gap.isBroken && !gap.isAfterBlank && !isBeforeBlank then
      if gap.blankLines = 0 then [' '] else []
    else if gap.isBroken then ['\n'] else []
  joint ++ List.replicate gap.blankLines '\n'

/-- What the end of a scalar stands for. -/
def LineGap.endText (gap : LineGap) (chomping : Chomping) : List Char :=
  (if gap.isBroken && chomping ≠ .strip then ['\n'] else []) ++
    if chomping = .keep then List.replicate gap.blankLines '\n' else []

/-- Reads the lines of a scalar at some depth, from behind a gap. -/
def readLines (header : BlockHeader) (isFolded : Bool) (depth : Nat) (gap : LineGap)
    (cursor : Cursor) : Except Fault (List Char × Cursor) :=
  match cursor.next? with
  | none => .ok (gap.endText header.chomping, cursor)
  | some c =>
      if cursor.mark.column ≠ depth then .ok (gap.endText header.chomping, cursor)
      else
        let line := cursor.run fun c => !isLineEnd c
        let piece := gap.text isFolded (isBlank c) ++ line
        let next := cursor.skip line.length
        if next.rest.isEmpty then .ok (piece, next)
        else do
          let (blankLines, _, last) ← skipBlankLines (some depth) next.skipLineEnd
          if last.left < cursor.left then
            let next := ⟨true, isBlank c, blankLines⟩
            let (text, last) ← readLines header isFolded depth next last
            return (piece ++ text, last)
          else refuse .unexpectedEnd last.mark
termination_by cursor.left

/-- A scalar on lines of its own. -/
structure BlockScalar where
  /-- Where its first line begins. -/
  mark : Mark
  /-- Its text. -/
  text : List Char
  /-- What follows it. -/
  rest : Cursor

/-- Reads a scalar on lines of its own, after its sign, which stands at some place.  The scalar is
inside something with a column, if anything. -/
def readBlockScalar (isFolded : Bool) (column : Option Nat) (start : Mark) (cursor : Cursor) :
    Except Fault BlockScalar := do
  let (header, cursor) ← readBlockHeader start cursor
  let given := header.depth.map (column.getD 0 + ·)
  let (blankLines, deepest, cursor) ← skipBlankLines given cursor
  let depth := given.getD (max deepest (max ((column.map (· + 1)).getD 0) 1))
  let (text, rest) ← readLines header isFolded depth ⟨false, false, blankLines⟩ cursor
  return { mark := cursor.mark, text, rest }

/-! ## Tests -/

/-- What is read as a scalar on lines of its own from behind its sign. -/
def blockText? (isFolded : Bool) (text : String) : Option String :=
  (readBlockScalar isFolded none {} (.ofText text)).toOption.map fun scalar =>
    String.ofList scalar.text

example : blockText? false "\n  @a\n  @b\n" = some "@a\n@b\n" := by decide +kernel
example : blockText? true "-\n  @a\n  @b\n" = some "@a @b" := by decide +kernel
example : blockText? true "\n  a\n   b\n\n  c\n" = some "a\n b\n\nc\n" := by decide +kernel
example : blockText? false "+1\n  a\n\n" = some " a\n\n" := by decide +kernel
example : blockText? false "0\n" = none := by decide +kernel

end Subgraph.Yaml
