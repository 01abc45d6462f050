/-!
# Block strings

The text between triple quotes is written with the indentation of its
surroundings.  `BlockString.value` takes the indentation away again.

* Lines end at a line feed, a carriage return, or both in this order.
* The common indentation is the least one of all lines but the first that are
  not blank.  It is taken from all lines but the first.
* Blank lines at both ends are dropped, and line feeds join the rest.

`BlockString.isWritable` says which texts are the value of some block string,
and `BlockString.lines` are the lines that such a text is written on.
-/

namespace Subgraph

namespace BlockString

/-- Whether a character counts as indentation. -/
def isIndent (c : Char) : Bool := c = ' ' || c = '\t'

/-- The lines of a text, where a carriage return, a line feed, or both in this order end a
line. -/
def splitLines (cs : List Char) : List (List Char) :=
  match cs with
  | [] => [[]]
  | '\r' :: '\n' :: rest => [] :: splitLines rest
  | '\r' :: rest => [] :: splitLines rest
  | '\n' :: rest => [] :: splitLines rest
  | c :: rest =>
      match splitLines rest with
      | line :: lines => (c :: line) :: lines
      | [] => [[c]]

/-- Whether a line has nothing but indentation. -/
def isBlankLine (line : List Char) : Bool := line.all isIndent

/-- The indentation of a line. -/
def indentation (line : List Char) : Nat := (line.takeWhile isIndent).length

/-- The least indentation of the lines that are not blank. -/
def commonIndentation (lines : List (List Char)) : Nat :=
  (((lines.filter fun line => !isBlankLine line).map indentation).min?).getD 0

/-- The lines without the blank ones at both ends. -/
def dropBlankEnds (lines : List (List Char)) : List (List Char) :=
  ((lines.dropWhile isBlankLine).reverse.dropWhile isBlankLine).reverse

/-- The text that stands for some raw text between triple quotes. -/
def value (raw : List Char) : List Char :=
  match splitLines raw with
  | [] => []
  | first :: rest =>
      let indent := commonIndentation rest
      ['\n'].intercalate (dropBlankEnds (first :: rest.map fun line => line.drop indent))

/-! ## Writing -/

/-- The lines of a text, split at line feeds only. -/
def lines (cs : List Char) : List (List Char) :=
  match cs with
  | [] => [[]]
  | '\n' :: rest => [] :: lines rest
  | c :: rest =>
      match lines rest with
      | line :: others => (c :: line) :: others
      | [] => [[c]]

/-- Whether a text is the value of some block string: it has no carriage return, its first and
last line are not blank, and some line has no indentation. -/
def isWritable (text : List Char) : Bool :=
  let all := lines text
  !text.contains '\r' && !isBlankLine (all.headD []) && !isBlankLine (all.getLastD []) &&
    commonIndentation all = 0

/-- A text with a backslash in front of each triple quote. -/
def escaped : List Char → List Char
  | '"' :: '"' :: '"' :: rest => '\\' :: '"' :: '"' :: '"' :: escaped rest
  | c :: rest => c :: escaped rest
  | [] => []

example : value "\n    a\n      b\n  ".toList = "a\n  b".toList := by decide +kernel
example : isWritable "a\n b".toList = true := by decide +kernel
example : isWritable " a\n b".toList = false := by decide +kernel

end BlockString

end Subgraph
