import Subgraph.Text.CodePoint
import Subgraph.Yaml.Fault

/-!
# Scalars in quotes and plain scalars

Both kinds may go on over several lines.  What stands between two of their words
is a gap, and a gap is folded.

* Blanks within a line stay as they are.
* A single line end is a space.  Of several line ends the first one does not
  count.  Blanks around line ends do not count.
* In double quotes a backslash begins an escape.  Before a line end it has the
  gap that follows stand for nothing, and further line ends for themselves.
* In single quotes a quote is written twice.
* A plain scalar ends before a colon with a blank behind it, before a comment
  and before a mark of brackets inside them.  Outside brackets it also ends
  where a line is not deep enough.

A mark between documents ends a plain scalar, and may not stand in quotes.
-/

namespace Subgraph.Yaml

/-! ## Gaps -/

/-- How many line ends a gap has. -/
def countLineEnds : List Char → Nat
  | '\r' :: '\n' :: rest => countLineEnds rest + 1
  | c :: rest => countLineEnds rest + if isLineEnd c then 1 else 0
  | [] => 0

/-- What a gap stands for. -/
def folded (gap : List Char) : List Char :=
  match countLineEnds gap with
  | 0 => gap
  | 1 => [' ']
  | further + 1 => List.replicate further '\n'

example : folded [' ', '\n', ' '] = [' '] := by decide
example : folded [' ', ' '] = [' ', ' '] := by decide
example : folded ['\n', ' ', '\r', '\n'] = ['\n'] := by decide

/-! ## Quotes -/

/-- The characters that are escaped by one letter or sign. -/
def escapes : List (Char × Char) :=
  [('0', '\x00'), ('a', '\x07'), ('b', '\x08'), ('t', '\t'), ('\t', '\t'), ('n', '\n'),
    ('v', '\x0b'), ('f', '\x0c'), ('r', '\r'), ('e', '\x1b'), (' ', ' '), ('"', '"'),
    ('\'', '\''), ('\\', '\\'), ('N', '\u0085'), ('_', '\u00a0'), ('L', '\u2028'), ('P', '\u2029')]

/-- How many hexadecimal digits follow the letter of an escape by code point. -/
def escapeWidth : Char → Option Nat
  | 'x' => some 2
  | 'u' => some 4
  | 'U' => some 8
  | _ => none

/-- The character of an escape, and how many characters follow its backslash. -/
def readEscape : List Char → Except Flaw (Char × Nat)
  | [] => .error .unknownEscape
  | c :: rest =>
      match escapeWidth c with
      | some width =>
          if (rest.take width).length < width then .error .escapeDigits
          else
            match Text.hexValue? (rest.take width) with
            | none => .error .escapeDigits
            | some code =>
                match Text.charOfCode? code with
                | none => .error .escapeCharacter
                | some found => .ok (found, width + 1)
      | none =>
          match escapes.lookup c with
          | none => .error .unknownEscape
          | some found => .ok (found, 1)

/-- What comes next inside quotes: what it stands for and how many characters it has, none for the
closing quote. -/
def readPiece (quote : Char) (cursor : Cursor) : Except Flaw (Option (List Char × Nat)) :=
  match cursor.rest with
  | [] => .error .quoteNotClosed
  | c :: rest =>
      if cursor.isAtDocumentMark then .error .quotedDocumentMark
      else if c = quote then
        if quote = '\'' && rest.head? = some '\'' then .ok (some (['\''], 2)) else .ok none
      else if isSpace c then
        let gap := cursor.run isSpace
        .ok (some (folded gap, gap.length))
      else if c = '\\' && quote = '"' then
        let next := cursor.skip 1
        if next.lineEndWidth = 0 then
          (readEscape rest).map fun (found, width) => some ([found], width + 1)
        else
          let gap := next.skipLineEnd.run isSpace
          .ok (some (List.replicate (countLineEnds gap) '\n', 1 + next.lineEndWidth + gap.length))
      else .ok (some ([c], 1))

/-- Reads a text in quotes, after the opening one, which stands at some place. -/
def readQuoted (quote : Char) (start : Mark) (cursor : Cursor) :
    Except Fault (List Char × Cursor) :=
  match readPiece quote cursor with
  | .error flaw => refuse flaw start
  | .ok none => .ok ([], cursor.skip 1)
  | .ok (some (piece, width)) =>
      if (cursor.skip width).left < cursor.left then do
        let (text, last) ← readQuoted quote start (cursor.skip width)
        return (piece ++ text, last)
      else refuse .unexpectedEnd start
termination_by cursor.left

/-! ### Tests -/

/-- What is read as a text in quotes from behind the opening one. -/
def quotedText? (quote : Char) (text : String) : Option String :=
  (readQuoted quote {} (.ofText text)).toOption.map fun (text, _) => String.ofList text

example : quotedText? '\'' "@a\n\n  @b'" = some "@a\n@b" := by decide +kernel
example : quotedText? '\'' "it''s \\n'" = some "it's \\n" := by decide +kernel
example : quotedText? '"' "a\\\n  b\\u0041\"" = some "abA" := by decide +kernel
example : quotedText? '"' "a\n--- b\"" = none := by decide +kernel

/-! ## Plain scalars -/

/-- Where a scalar stands. -/
structure Surroundings where
  /-- Whether brackets are open. -/
  inBrackets : Bool
  /-- How deep a line has to be to belong to it. -/
  depth : Nat

/-- The word that comes next in a plain scalar. -/
def plainWord (inBrackets : Bool) : List Char → List Char
  | [] => []
  | c :: rest =>
      if isSpace c then []
      else if c = ':' && rest.head?.all fun next =>
          isSpace next || (inBrackets && isFlowMark next) then []
      else if inBrackets && isFlowMark c then []
      else c :: plainWord inBrackets rest

/-- Whether a gap has a tab behind a line end, in the part of a line that has to be spaces. -/
def hasTab (depth : Nat) (isNewLine : Bool) (mark : Mark) : List Char → Bool
  | [] => false
  | c :: gap =>
      (isNewLine && c = '\t' && mark.column < depth) ||
        hasTab depth (isNewLine || isLineEnd c) (mark.after c) gap

/-- Reads a plain scalar from behind a gap, and says whether a line ends in the gap behind it. -/
def readPlain (around : Surroundings) (start : Mark) (gap : List Char) (cursor : Cursor) :
    Except Fault (List Char × Bool × Cursor) :=
  let word := plainWord around.inBrackets cursor.rest
  let piece := if word.isEmpty then [] else folded gap ++ word
  let behind := cursor.skip word.length
  let nextGap := behind.run isSpace
  let next := behind.skip nextGap.length
  if nextGap.isEmpty then .ok (piece, word.isEmpty && gap.any isLineEnd, behind)
  else if hasTab around.depth false behind.mark nextGap then refuse .plainTab start
  else if (!around.inBrackets && next.mark.column < around.depth) || next.isAtDocumentMark ||
      next.next? = some '#' then .ok (piece, nextGap.any isLineEnd, next)
  else if next.left < cursor.left then do
    let (text, broken, last) ← readPlain around start nextGap next
    return (piece ++ text, broken, last)
  else refuse .unexpectedEnd start
termination_by cursor.left

/-! ### Tests -/

/-- What is read as a plain scalar. -/
def plainText? (around : Surroundings) (text : String) : Option String :=
  (readPlain around {} [] (.ofText text)).toOption.map fun (text, _) => String.ofList text

example : plainText? ⟨false, 1⟩ "a b: c" = some "a b" := by decide +kernel
example : plainText? ⟨false, 1⟩ "a:b #c\n" = some "a:b" := by decide +kernel
example : plainText? ⟨false, 1⟩ "a\n b\nc" = some "a b" := by decide +kernel
example : plainText? ⟨false, 1⟩ "a, b]" = some "a, b]" := by decide +kernel
example : plainText? ⟨true, 1⟩ "a, b]" = some "a" := by decide +kernel
example : plainText? ⟨false, 1⟩ "a\n\tb" = none := by decide +kernel

end Subgraph.Yaml
