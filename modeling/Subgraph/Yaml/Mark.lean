/-!
# Places in configuration files

A text is read at a `Cursor`: what is still to be read, and the place where that
begins.  A place counts the characters in front, the lines, and the characters
of its line.  A cursor also counts the characters that are left, which is what
bounds a reading.

* A line feed begins a new line of the count.  A carriage return ends a line
  too, but only counts as a character.
* A carriage return and a line feed next to one another are one line end.

`Cursor.skip` moves over some characters.
-/

namespace Subgraph.Yaml

/-! ## Characters -/

/-- Whether a character is a blank. -/
def isBlank (c : Char) : Bool := c = ' ' || c = '\t'

/-- Whether a character ends a line. -/
def isLineEnd (c : Char) : Bool := c = '\n' || c = '\r'

/-- Whether a character is a blank or ends a line. -/
def isSpace (c : Char) : Bool := isBlank c || isLineEnd c

/-- Whether a character is a mark of lists and mappings in brackets. -/
def isFlowMark (c : Char) : Bool :=
  c = ',' || c = '[' || c = ']' || c = '\x7b' || c = '\x7d'

/-- Whether a character may stand in the name of an anchor, a directive or the handle of a tag. -/
def isWordChar (c : Char) : Bool := c.isAlphanum || c = '_' || c = '-'

/-! ## Places -/

/-- A place in a text. -/
structure Mark where
  /-- How many characters are in front. -/
  index : Nat := 0
  /-- The line, counted from one. -/
  line : Nat := 1
  /-- How many characters of the line are in front. -/
  column : Nat := 0
deriving DecidableEq

/-- The place behind a character. -/
def Mark.after (mark : Mark) (c : Char) : Mark :=
  if c = '\n' then { index := mark.index + 1, line := mark.line + 1, column := 0 }
  else { mark with index := mark.index + 1, column := mark.column + 1 }

/-- How a message names a place. -/
def Mark.text (mark : Mark) : String :=
  " at line " ++ toString mark.line ++ " column " ++ toString (mark.column + 1)

/-! ## Cursors -/

/-- A text that is being read. -/
structure Cursor where
  /-- What is still to be read. -/
  rest : List Char
  /-- How many characters that is. -/
  left : Nat := rest.length
  /-- The count is right. -/
  left_eq : left = rest.length := by rfl
  /-- Where it begins. -/
  mark : Mark := {}

namespace Cursor

/-- The beginning of a text. -/
def ofText (text : String) : Cursor := { rest := text.toList }

/-- The next character. -/
def next? (cursor : Cursor) : Option Char := cursor.rest.head?

/-- Moves over some characters. -/
def skip (cursor : Cursor) (count : Nat) : Cursor where
  rest := cursor.rest.drop count
  left := cursor.left - count
  left_eq := by rw [cursor.left_eq, List.length_drop]
  mark := (cursor.rest.take count).foldl Mark.after cursor.mark

/-- The characters of some kind that come next. -/
def run (cursor : Cursor) (kind : Char → Bool) : List Char := cursor.rest.takeWhile kind

/-- Moves over the characters of some kind that come next. -/
def skipAll (cursor : Cursor) (kind : Char → Bool) : Cursor :=
  cursor.skip (cursor.run kind).length

/-- How many characters the line end has that comes next, none when none does. -/
def lineEndWidth (cursor : Cursor) : Nat :=
  match cursor.rest with
  | '\r' :: '\n' :: _ => 2
  | c :: _ => if isLineEnd c then 1 else 0
  | [] => 0

/-- Moves over a line end, if one comes next. -/
def skipLineEnd (cursor : Cursor) : Cursor := cursor.skip cursor.lineEndWidth

/-- Moves up to the end of the line. -/
def skipLine (cursor : Cursor) : Cursor := cursor.skipAll fun c => !isLineEnd c

/-- Moves over a comment, if one comes next. -/
def skipComment (cursor : Cursor) : Cursor :=
  if cursor.next? = some '#' then cursor.skipLine else cursor

/-- Whether a line end or the end of the text comes next. -/
def isAtLineEnd (cursor : Cursor) : Bool := cursor.next?.all isLineEnd

/-- Whether a blank, a line end or the end of the text comes next. -/
def isAtSpace (cursor : Cursor) : Bool := cursor.next?.all isSpace

/-- Whether three equal characters at the start of a line come next, with nothing joined to
them. -/
def isAtTriple (cursor : Cursor) (c : Char) : Bool :=
  cursor.mark.column = 0 && cursor.rest.take 3 = [c, c, c] && (cursor.rest.drop 3).head?.all isSpace

/-- Whether a mark between documents comes next. -/
def isAtDocumentMark (cursor : Cursor) : Bool := cursor.isAtTriple '-' || cursor.isAtTriple '.'

end Cursor

example : (Cursor.skip { rest := ['a', '\n', 'b'] } 2).mark = ⟨2, 2, 0⟩ := by decide
example : Cursor.isAtDocumentMark { rest := ['-', '-', '-'] } = true := by decide
example : Cursor.isAtDocumentMark { rest := ['-', '-', '-', 'a'] } = false := by decide

end Subgraph.Yaml
