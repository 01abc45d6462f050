import Subgraph.Yaml.BlockScalar
import Subgraph.Yaml.FlowScalar
import Subgraph.Yaml.Tag

/-!
# Layout of configuration files

A text is read token by token, with what its layout says about them.

* A list or a mapping with one item to a line has a column.  It ends before a
  token in front of that column, and at the end of a document.
* A key need not be marked as one.  It is known by the colon behind it, on the
  same line and not more than 1024 characters from its start.  Until then what
  may be a key holds back the tokens from there on.
* Inside brackets columns do not count, but what may be a key at the column of
  the innermost list or mapping has to be one.
* A colon behind a text in quotes needs no blank behind it inside brackets.

`Layout.tokens` gives the tokens of a text up to its end or its first fault.
-/

namespace Subgraph.Yaml

/-- Something that may turn out to be a key. -/
structure KeyStart where
  /-- Where it begins. -/
  mark : Mark
  /-- How many tokens of the text are in front of it. -/
  place : Nat
  /-- Whether it has to be a key. -/
  isRequired : Bool

/-- Whether a place is too far from a key for its colon. -/
def KeyStart.isStale (start : KeyStart) (mark : Mark) : Bool :=
  start.mark.line < mark.line || start.mark.index + 1024 < mark.index

/-- A text with the tokens that are held back, and what is open. -/
structure Layout where
  /-- What is still to be read. -/
  cursor : Cursor
  /-- Whether a key may begin here. -/
  keyAllowed : Bool := true
  /-- What may be a key where the cursor is. -/
  keyStart : Option KeyStart := none
  /-- What may be a key outside of each open bracket, from the inside out. -/
  outerStarts : List (Option KeyStart) := []
  /-- The columns of the lists and mappings that are open, from the inside out. -/
  columns : List Nat := []
  /-- How many characters were in front behind the last text in quotes. -/
  quoteEnd : Nat := 0
  /-- The tokens that are held back. -/
  held : List Token := []
  /-- How many tokens are given out. -/
  given : Nat := 0

namespace Layout

/-! ## Keys and columns -/

/-- Whether a bracket is open. -/
def inBrackets (layout : Layout) : Bool := !layout.outerStarts.isEmpty

/-- Adds a token. -/
def push (layout : Layout) (mark : Mark) (lexeme : Lexeme) : Layout :=
  { layout with held := layout.held ++ [⟨mark, lexeme⟩] }

/-- Adds a token where the cursor is. -/
def pushHere (layout : Layout) (lexeme : Lexeme) : Layout := layout.push layout.cursor.mark lexeme

/-- Moves over some characters. -/
def skip (layout : Layout) (count : Nat) : Layout :=
  { layout with cursor := layout.cursor.skip count }

/-- Adds a token for the next characters. -/
def take (layout : Layout) (count : Nat) (lexeme : Lexeme) : Layout :=
  (layout.pushHere lexeme).skip count

/-- Gives up what can no longer be a key. -/
def dropStale (layout : Layout) : Except Fault Layout :=
  let mark := layout.cursor.mark
  let isMissed (start : Option KeyStart) := start.any fun s => s.isRequired && s.isStale mark
  let fresh (start : Option KeyStart) := start.filter fun s => !s.isStale mark
  if isMissed layout.keyStart || layout.outerStarts.any isMissed then refuse .keyWithoutColon mark
  else .ok { layout with
    keyStart := fresh layout.keyStart, outerStarts := layout.outerStarts.map fresh }

/-- Gives up what may be a key here. -/
def dropKey (layout : Layout) : Except Fault Layout :=
  if layout.keyStart.any KeyStart.isRequired then refuse .keyExpected layout.cursor.mark
  else .ok { layout with keyStart := none }

/-- Notes that what comes next may be a key. -/
def noteKey (layout : Layout) : Except Fault Layout :=
  if layout.keyAllowed then do
    let layout ← layout.dropKey
    let mark := layout.cursor.mark
    return { layout with
      keyStart := some {
        mark
        place := layout.given + layout.held.length
        isRequired := layout.inBrackets && layout.columns.head? = some mark.column } }
  else .ok layout

/-- Ends the lists and mappings from some column on. -/
def closeFrom (layout : Layout) (column : Nat) : Layout :=
  if layout.inBrackets then layout
  else
    let closed := layout.columns.takeWhile (column ≤ ·)
    { layout with
      columns := layout.columns.drop closed.length
      held := layout.held ++ closed.map fun _ => ⟨layout.cursor.mark, .blockEnd⟩ }

/-- Begins a list or a mapping at a column, unless it is open. -/
def openAt (layout : Layout) (column : Nat) (add : Layout → Layout) : Layout :=
  if !layout.inBrackets && layout.columns.head?.all (· < column) then
    add { layout with columns := column :: layout.columns }
  else layout

/-- Adds tokens in front of those from some place on. -/
def insert (layout : Layout) (place : Nat) (tokens : List Token) : Layout :=
  let before := place - layout.given
  { layout with held := layout.held.take before ++ tokens ++ layout.held.drop before }

/-! ## Blanks -/

/-- Moves over a blank, a comment or a line end, if one comes next.  A tab is no blank where a key
may begin on a line. -/
def skipOneSpace (layout : Layout) : Layout :=
  match layout.cursor.next? with
  | none => layout
  | some c =>
      if c = ' ' || (c = '\t' && (layout.inBrackets || !layout.keyAllowed)) then layout.skip 1
      else if isLineEnd c then
        { layout with
          cursor := layout.cursor.skipLineEnd
          keyAllowed := layout.keyAllowed || !layout.inBrackets }
      else if c = '#' then { layout with cursor := layout.cursor.skipLine }
      else layout

/-- Moves over blanks, comments and line ends. -/
def skipSpace (layout : Layout) : Layout :=
  if layout.skipOneSpace.cursor.left < layout.cursor.left then
    layout.skipOneSpace.skipSpace
  else layout
termination_by layout.cursor.left

/-! ## Marks -/

/-- Reads a mark between documents. -/
def takeDocumentMark (layout : Layout) (lexeme : Lexeme) : Except Fault Layout := do
  let layout ← (layout.closeFrom 0).dropKey
  return { layout with keyAllowed := false }.take 3 lexeme

/-- Reads a directive. -/
def takeDirective (layout : Layout) : Except Fault Layout := do
  let layout ← (layout.closeFrom 0).dropKey
  let cursor ← readDirective layout.cursor
  return { layout.pushHere .directive with keyAllowed := false, cursor }

/-- How many brackets may be open. -/
def bracketLimit : Nat := 255

/-- Reads an opening bracket or brace. -/
def takeOpening (layout : Layout) (lexeme : Lexeme) : Except Fault Layout := do
  let layout ← layout.noteKey
  if layout.outerStarts.length < bracketLimit then
    return { layout with
      keyAllowed := true
      keyStart := none
      outerStarts := layout.keyStart :: layout.outerStarts }.take 1 lexeme
  else refuse .tooManyBrackets layout.cursor.mark

/-- Reads a closing bracket or brace. -/
def takeClosing (layout : Layout) (lexeme : Lexeme) : Except Fault Layout := do
  let layout ← layout.dropKey
  return { layout with
    keyAllowed := false
    keyStart := layout.outerStarts.head?.join
    outerStarts := layout.outerStarts.drop 1 }.take 1 lexeme

/-- Reads a comma. -/
def takeComma (layout : Layout) : Except Fault Layout := do
  let layout ← layout.dropKey
  return { layout with keyAllowed := true }.take 1 .comma

/-- Reads the mark of an item. -/
def takeItem (layout : Layout) : Except Fault Layout := do
  let mark := layout.cursor.mark
  if layout.inBrackets then refuse .itemInBrackets mark
  else if !layout.keyAllowed then refuse .itemNotAllowed mark
  else
    let layout ← (layout.openAt mark.column (·.push mark .listStart)).dropKey
    return { layout with keyAllowed := true }.take 1 .item

/-- Reads the mark of a key. -/
def takeKey (layout : Layout) : Except Fault Layout := do
  let mark := layout.cursor.mark
  if !layout.inBrackets && !layout.keyAllowed then refuse .keyNotAllowed mark
  else
    let layout ← (layout.openAt mark.column (·.push mark .mappingStart)).dropKey
    return { layout with keyAllowed := !layout.inBrackets }.take 1 .key

/-- Reads the colon in front of a value. -/
def takeValue (layout : Layout) : Except Fault Layout :=
  let mark := layout.cursor.mark
  match layout.keyStart with
  | some start =>
      let layout := (layout.insert start.place [⟨start.mark, .key⟩]).openAt start.mark.column
        (·.insert start.place [⟨mark, .mappingStart⟩])
      .ok ({ layout with keyStart := none, keyAllowed := false }.take 1 .value)
  | none =>
      if !layout.inBrackets && !layout.keyAllowed then refuse .valueNotAllowed mark
      else
        let layout := layout.openAt mark.column (·.push mark .mappingStart)
        .ok ({ layout with keyAllowed := !layout.inBrackets }.take 1 .value)

/-! ## Names and scalars -/

/-- Reads a reference or an anchor. -/
def takeAnchor (layout : Layout) (lexeme : String → Lexeme) : Except Fault Layout := do
  let layout ← layout.noteKey
  let (name, cursor) ← readAnchor layout.cursor.mark (layout.cursor.skip 1)
  return { layout.pushHere (lexeme name) with keyAllowed := false, cursor }

/-- Reads a tag. -/
def takeTag (layout : Layout) : Except Fault Layout := do
  let layout ← layout.noteKey
  let (tag, cursor) ← readTag layout.cursor
  return { layout.pushHere (.tag tag) with keyAllowed := false, cursor }

/-- Reads a scalar on lines of its own. -/
def takeBlockScalar (layout : Layout) (isFolded : Bool) : Except Fault Layout := do
  let layout ← layout.noteKey
  let scalar ← readBlockScalar isFolded layout.columns.head? layout.cursor.mark
    (layout.cursor.skip 1)
  return { layout.push scalar.mark (.scalar false (String.ofList scalar.text)) with
    keyAllowed := true, cursor := scalar.rest }

/-- Reads a scalar in quotes. -/
def takeQuoted (layout : Layout) (quote : Char) : Except Fault Layout := do
  let layout ← layout.noteKey
  let (text, cursor) ← readQuoted quote layout.cursor.mark (layout.cursor.skip 1)
  return { layout.pushHere (.scalar false (String.ofList text)) with
    keyAllowed := false, cursor, quoteEnd := cursor.mark.index }

/-- Reads a plain scalar. -/
def takePlain (layout : Layout) : Except Fault Layout := do
  let layout ← layout.noteKey
  let around := ⟨layout.inBrackets, (layout.columns.head?.map (· + 1)).getD 0⟩
  let (text, isBroken, cursor) ← readPlain around layout.cursor.mark [] layout.cursor
  return { layout.pushHere (.scalar true (String.ofList text)) with keyAllowed := isBroken, cursor }

/-! ## Tokens -/

/-- Whether the colon that comes next stands in front of a value, given what follows it. -/
def isValueMark (layout : Layout) (rest : List Char) : Bool :=
  rest.head?.all isSpace ||
    (layout.inBrackets &&
      (rest.head?.any isFlowMark || layout.cursor.mark.index = layout.quoteEnd))

/-- Reads the token that begins with a character. -/
def takeToken (layout : Layout) (c : Char) (rest : List Char) : Except Fault Layout :=
  let isAlone := rest.head?.all isSpace
  if layout.cursor.mark.column = 0 && c = '%' then layout.takeDirective
  else if layout.cursor.isAtTriple '-' then layout.takeDocumentMark .documentStart
  else if layout.cursor.isAtTriple '.' then layout.takeDocumentMark .documentEnd
  else
    match c with
    | '[' => layout.takeOpening .openBracket
    | '\x7b' => layout.takeOpening .openBrace
    | ']' => layout.takeClosing .closeBracket
    | '\x7d' => layout.takeClosing .closeBrace
    | ',' => layout.takeComma
    | '*' => layout.takeAnchor .reference
    | '&' => layout.takeAnchor .anchor
    | '!' => layout.takeTag
    | '\'' => layout.takeQuoted '\''
    | '"' => layout.takeQuoted '"'
    | '-' => if isAlone then layout.takeItem else layout.takePlain
    | '?' => if isAlone then layout.takeKey else layout.takePlain
    | ':' => if layout.isValueMark rest then layout.takeValue else layout.takePlain
    | '|' => if layout.inBrackets then layout.takePlain else layout.takeBlockScalar false
    | '>' => if layout.inBrackets then layout.takePlain else layout.takeBlockScalar true
    | c =>
        if ['%', '@', '\x60'].contains c then
          refuse (.unexpectedCharacter c) layout.cursor.mark
        else layout.takePlain

/-- Moves to the next token. -/
def toToken (layout : Layout) : Except Fault Layout := do
  let layout ← layout.skipSpace.dropStale
  return layout.closeFrom (layout.cursor.mark.column + 1)

/-- Reads the end of the text, which begins a new line. -/
def takeEnd (layout : Layout) : Except Fault Layout := do
  let mark := layout.cursor.mark
  let ended := if mark.column = 0 then mark else { mark with line := mark.line + 1, column := 0 }
  let layout ← ({ layout with cursor := { rest := [], mark := ended } }.closeFrom 0).dropKey
  return { layout with keyAllowed := false }.pushHere .textEnd

/-- The tokens that need not be held back, and the text without them. -/
def release (layout : Layout) : Except Fault (List Token × Layout) :=
  if layout.held.isEmpty then .ok ([], layout)
  else do
    let layout ← layout.dropStale
    let starts := (layout.keyStart :: layout.outerStarts).filterMap id
    let count := (starts.map fun start => start.place - layout.given).foldl min layout.held.length
    return (layout.held.take count,
      { layout with held := layout.held.drop count, given := layout.given + count })

/-- The tokens of a text from here on, and the fault behind them. -/
def tokensFrom (layout : Layout) : List Token × Fault :=
  let lost := Fault.flaw .unexpectedEnd layout.cursor.mark
  match layout.toToken with
  | .error fault => ([], fault)
  | .ok here =>
      match here.cursor.rest with
      | [] =>
          match here.takeEnd >>= release with
          | .error fault => ([], fault)
          | .ok (tokens, _) => (tokens, lost)
      | c :: rest =>
          match here.takeToken c rest >>= release with
          | .error fault => ([], fault)
          | .ok (tokens, next) =>
              if next.cursor.left < layout.cursor.left then
                let (others, fault) := next.tokensFrom
                (tokens ++ others, fault)
              else (tokens, lost)
termination_by layout.cursor.left

/-- The tokens of a text, and the fault behind them.  A text ends before its first NUL. -/
def tokens (text : List Char) : List Token × Fault :=
  tokensFrom { cursor := { rest := text.takeWhile (· ≠ '\x00') } }

/-! ## Tests -/

/-- The tokens of a text without their places. -/
def lexemes (text : String) : List Lexeme := (tokens text.toList).1.map Token.lexeme

example : lexemes "a: 1" =
    [.mappingStart, .key, .scalar true "a", .value, .scalar true "1", .blockEnd, .textEnd] := by
  decide +kernel
example : lexemes "- - a\n- b" =
    [.listStart, .item, .listStart, .item, .scalar true "a", .blockEnd, .item, .scalar true "b",
      .blockEnd, .textEnd] := by decide +kernel
example : lexemes "\x7b\"a\":1, b:2\x7d" =
    [.openBrace, .key, .scalar false "a", .value, .scalar true "1", .comma, .scalar true "b:2",
      .closeBrace, .textEnd] := by decide +kernel
example : (tokens "a: b: c".toList).2 = .flaw .valueNotAllowed ⟨4, 1, 4⟩ := by decide +kernel

end Layout

end Subgraph.Yaml
