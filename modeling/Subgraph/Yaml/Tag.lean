import Subgraph.Text.CodePoint
import Subgraph.Yaml.Fault
import Subgraph.Yaml.Token

/-!
# Names, tags and directives

* An anchor names a value, and a reference stands for a value by its name.  A
  name has letters, digits, underscores and hyphens.
* A tag is a name behind a handle, which begins with an exclamation mark, or a
  whole between angle brackets.  Its name may have bytes by their hexadecimal
  digits.
* A directive is a line before a document.  It gives the version or the handle
  of some tags, or is unknown.  No directive changes how a value is read.

A byte sequence is read as one number, its first byte foremost, and stands for
the character with that code point.
-/

namespace Subgraph.Yaml

/-! ## Anchors and references -/

/-- Whether the name of an anchor may stand before a character. -/
def endsAnchor (c : Char) : Bool :=
  isSpace c || ['?', ':', ',', ']', '\x7d', '%', '@', '\x60'].contains c

/-- Reads the name of an anchor or a reference, after its sign, which stands at some place. -/
def readAnchor (start : Mark) (cursor : Cursor) : Except Fault (String × Cursor) :=
  let name := cursor.run isWordChar
  let next := cursor.skip name.length
  if !name.isEmpty && next.next?.all endsAnchor then .ok (String.ofList name, next)
  else refuse .anchorName start

/-! ## Bytes by their digits -/

/-- How many bytes follow the first one of a character. -/
def furtherBytes? (byte : Nat) : Option Nat :=
  if byte < 0x80 then some 0
  else if byte < 0xc0 then none
  else if byte < 0xe0 then some 1
  else if byte < 0xf0 then some 2
  else if byte < 0xf8 then some 3
  else none

/-- Reads a byte by its digits. -/
def readByte (start : Mark) (cursor : Cursor) : Except Fault (Nat × Cursor) :=
  match cursor.rest with
  | '%' :: high :: low :: _ =>
      match Text.hexValue? [high, low] with
      | some byte => .ok (byte, cursor.skip 3)
      | none => refuse .escapedByte start
  | _ => refuse .escapedByte start

/-- Reads further bytes of a character onto those before. -/
def readFurtherBytes (start : Mark) (code : Nat) : Nat → Cursor → Except Fault (Nat × Cursor)
  | 0, cursor => .ok (code, cursor)
  | count + 1, cursor => do
      let (byte, next) ← readByte start cursor
      if 0x80 ≤ byte && byte < 0xc0 then readFurtherBytes start (0x100 * code + byte) count next
      else refuse .furtherByte start

/-- Reads a character by the digits of its bytes. -/
def readEscapedChar (start : Mark) (cursor : Cursor) : Except Fault (Char × Cursor) := do
  let (byte, next) ← readByte start cursor
  match furtherBytes? byte with
  | none => refuse .firstByte start
  | some count =>
      let (code, last) ← readFurtherBytes start byte count next
      match Text.charOfCode? code with
      | some c => return (c, last)
      | none => refuse .escapedCharacter start

/-! ## Tags -/

/-- Whether a character may stand in the name of a tag. -/
def isTagChar (c : Char) : Bool :=
  isWordChar c || (";/?:@&=+$,.!~*'()[]%".toList).contains c

/-- Reads what is left of the name of a tag. -/
def readTagName (start : Mark) (cursor : Cursor) : Except Fault (List Char × Cursor) :=
  match cursor.next? with
  | none => .ok ([], cursor)
  | some c =>
      if !isTagChar c then .ok ([], cursor)
      else do
        let (c, next) ← if c = '%' then readEscapedChar start cursor else .ok (c, cursor.skip 1)
        if next.left < cursor.left then
          let (text, last) ← readTagName start next
          return (c :: text, last)
        else refuse .unexpectedEnd start
termination_by cursor.left

/-- Reads the name of a tag, which is not empty. -/
def readTagText (start : Mark) (cursor : Cursor) : Except Fault (List Char × Cursor) := do
  let (text, next) ← readTagName start cursor
  if text.isEmpty then refuse .tagWithoutText start else return (text, next)

/-- Reads the handle of a tag: an exclamation mark, a word, and perhaps another mark. -/
def readHandle (start : Mark) (cursor : Cursor) : Except Fault (List Char × Cursor) :=
  if cursor.next? = some '!' then
    let word := (cursor.skip 1).run isWordChar
    let next := cursor.skip (word.length + 1)
    if next.next? = some '!' then .ok ('!' :: word ++ ['!'], next.skip 1)
    else .ok ('!' :: word, next)
  else refuse .tagMark start

/-- Reads a tag by its handle and its name. -/
def readHandledTag (start : Mark) (cursor : Cursor) : Except Fault (Tag × Cursor) := do
  let (handle, next) ← readHandle start cursor
  if 2 ≤ handle.length && handle.getLast? = some '!' then
    let (text, last) ← readTagText start next
    return (⟨String.ofList handle, String.ofList text⟩, last)
  else
    let (text, last) ← readTagName start next
    let name := handle.drop 1 ++ text
    return (if name.isEmpty then ⟨"", "!"⟩ else ⟨"!", String.ofList name⟩, last)

/-- Reads a tag as a whole, after its exclamation mark. -/
def readWholeTag (start : Mark) (cursor : Cursor) : Except Fault (Tag × Cursor) := do
  let (text, next) ← readTagText start (cursor.skip 1)
  if next.next? = some '>' then return (⟨"", String.ofList text⟩, next.skip 1)
  else refuse .tagClosing start

/-- Reads a tag. -/
def readTag (cursor : Cursor) : Except Fault (Tag × Cursor) := do
  let start := cursor.mark
  let (tag, next) ←
    if (cursor.skip 1).next? = some '<' then readWholeTag start (cursor.skip 1)
    else readHandledTag start cursor
  if next.isAtSpace then return (tag, next) else refuse .tagEnd start

/-! ## Directives -/

/-- Reads a number of the version. -/
def readVersionNumber (start : Mark) (cursor : Cursor) : Except Fault Cursor :=
  let digits := cursor.run Char.isDigit
  if 9 < digits.length then refuse .versionTooLong start
  else if digits.isEmpty then refuse .versionExpected start
  else .ok (cursor.skip digits.length)

/-- Reads the version. -/
def readVersion (start : Mark) (cursor : Cursor) : Except Fault Cursor := do
  let next ← readVersionNumber start (cursor.skipAll isBlank)
  if next.next? = some '.' then readVersionNumber start (next.skip 1)
  else refuse .versionPoint start

/-- Reads a handle and what it stands for. -/
def readHandleMeaning (start : Mark) (cursor : Cursor) : Except Fault Cursor := do
  let (handle, next) ← readHandle start (cursor.skipAll isBlank)
  if handle.getLast? = some '!' then
    let (_, last) ← readTagText start (next.skipAll isBlank)
    if last.isAtSpace then return last else refuse .tagDirectiveEnd start
  else refuse .tagHandleEnd start

/-- Reads a directive with its line end. -/
def readDirective (cursor : Cursor) : Except Fault Cursor := do
  let start := cursor.mark
  let nameStart := cursor.skip 1
  let name := nameStart.run isWordChar
  let next := nameStart.skip name.length
  if name.isEmpty then refuse .namelessDirective nameStart.mark
  else if !next.isAtSpace then refuse .directiveName nameStart.mark
  else
    let last ←
      if name = ['Y', 'A', 'M', 'L'] then readVersion start next
      else if name = ['T', 'A', 'G'] then readHandleMeaning start next
      else .ok next.skipLine
    let last := (last.skipAll isBlank).skipComment
    if last.isAtLineEnd then return last.skipLineEnd else refuse .directiveEnd start

end Subgraph.Yaml
