import Subgraph.Json.Written

/-!
# Reading JSON texts

The strict grammar: no comments, no trailing commas, no blanks but space, tab,
line feed and carriage return, no zero in front of other digits, no control
below U+0020 in a string.

`Json.written?` gives what is written, `Json.source?` what it denotes with
repeated members kept, and `Json.ofText?` the same without them.
-/

namespace Subgraph

namespace Json

/-! ## Numbers -/

/-- The digits at the front of a text, and what follows them. -/
def spanDigits (cs : List Char) : List Char × List Char :=
  (cs.takeWhile Char.isDigit, cs.dropWhile Char.isDigit)

/-- Whether digits are an integer part: no zero stands before another digit. -/
def isIntegerPart : List Char → Bool
  | [] => false
  | ['0'] => true
  | c :: _ => c ≠ '0'

/-- The digits after a point, if there is a point. -/
def readFraction : List Char → Option (List Char × List Char)
  | '.' :: rest =>
      let (digits, rest) := spanDigits rest
      if digits.isEmpty then none else some (digits, rest)
  | cs => some ([], cs)

/-- The exponent, if there is one. -/
def readExponent : List Char → Option (Option Int × List Char)
  | c :: rest =>
      if c = 'e' ∨ c = 'E' then
        let (negative, rest) :=
          match rest with
          | '-' :: rest => (true, rest)
          | '+' :: rest => (false, rest)
          | rest => (false, rest)
        let (digits, rest) := spanDigits rest
        if digits.isEmpty then none
        else
          let value : Int := digitsValue digits
          some (some (if negative then -value else value), rest)
      else some (none, c :: rest)
  | [] => some (none, [])

/-- Whether there is a minus, and what follows it. -/
def readSign : List Char → Bool × List Char
  | '-' :: rest => (true, rest)
  | cs => (false, cs)

/-- Reads a number. -/
def readNumber (cs : List Char) : Option (NumberText × List Char) := do
  let (negative, cs) := readSign cs
  let (integer, cs) := spanDigits cs
  guard (isIntegerPart integer)
  let (fraction, cs) ← readFraction cs
  let (exponent, cs) ← readExponent cs
  return ({ negative, integer, fraction, exponent }, cs)

/-! ## Strings -/

/-- Reads a string as it is written, after its opening quote. -/
def readString : List Char → Option (List Char × List Char)
  | [] => none
  | '"' :: rest => some ([], rest)
  | '\\' :: 'u' :: rest => do
      guard (Text.readFourHex rest).isSome
      let (raw, last) ← readString rest
      return ('\\' :: 'u' :: raw, last)
  | '\\' :: c :: rest => do
      guard (Text.letterEscape? c).isSome
      let (raw, last) ← readString rest
      return ('\\' :: c :: raw, last)
  | c :: rest => do
      guard (c ≠ '\\' ∧ 0x20 ≤ c.toNat)
      let (raw, last) ← readString rest
      return (c :: raw, last)

/-! ## Values -/

/-- Whether a character may stand between the tokens of a text. -/
def isSpace (c : Char) : Bool := c = ' ' ∨ c = '\t' ∨ c = '\n' ∨ c = '\r'

/-- Drops the blanks at the front. -/
def skipSpace (cs : List Char) : List Char := cs.dropWhile isSpace

/-- Reads a value that is no container. -/
def readScalar : List Char → Option (Written × List Char)
  | 'n' :: 'u' :: 'l' :: 'l' :: rest => some (.null, rest)
  | 't' :: 'r' :: 'u' :: 'e' :: rest => some (.bool true, rest)
  | 'f' :: 'a' :: 'l' :: 's' :: 'e' :: rest => some (.bool false, rest)
  | '"' :: rest => (readString rest).map fun (raw, rest) => (.str raw, rest)
  | cs => (readNumber cs).map fun (number, rest) => (.number number, rest)

/-- Reads the name of a member and its colon. -/
def readMemberName (cs : List Char) : Option (List Char × List Char) :=
  match skipSpace cs with
  | '"' :: rest => do
      let (raw, rest) ← readString rest
      match skipSpace rest with
      | ':' :: rest => some (raw, rest)
      | _ => none
  | _ => none

mutual

/-- Reads a value. -/
def readValue (cs : List Char) : Option (Written × List Char) :=
  match skipSpace cs with
  | '[' :: rest =>
      match skipSpace rest with
      | ']' :: rest => some (.arr [], rest)
      | rest =>
          if rest.length < cs.length then
            (readItems rest).map fun (items, rest) => (.arr items, rest)
          else none
  | '\x7b' :: rest =>
      match skipSpace rest with
      | '\x7d' :: rest => some (.obj [], rest)
      | rest =>
          if rest.length < cs.length then
            (readMembers rest).map fun (members, rest) => (.obj members, rest)
          else none
  | cs => readScalar cs
termination_by 2 * cs.length

/-- Reads the items of an array and its closing bracket. -/
def readItems (cs : List Char) : Option (List Written × List Char) := do
  let (item, rest) ← readValue cs
  match skipSpace rest with
  | ']' :: rest => some ([item], rest)
  | ',' :: rest =>
      if rest.length < cs.length then
        let (items, rest) ← readItems rest
        some (item :: items, rest)
      else none
  | _ => none
termination_by 2 * cs.length + 1

/-- Reads the members of an object and its closing brace. -/
def readMembers (cs : List Char) : Option (List (List Char × Written) × List Char) := do
  let (name, rest) ← readMemberName cs
  if rest.length < cs.length then
    let (value, rest) ← readValue rest
    match skipSpace rest with
    | '\x7d' :: rest => some ([(name, value)], rest)
    | ',' :: rest =>
        if rest.length < cs.length then
          let (members, rest) ← readMembers rest
          some ((name, value) :: members, rest)
        else none
    | _ => none
  else none
termination_by 2 * cs.length + 1

end

/-- What is written in a whole text. -/
def written? (text : String) : Option Written :=
  match readValue text.toList with
  | some (written, rest) => if (skipSpace rest).isEmpty then some written else none
  | none => none

/-- The value of a whole text, repeated members included. -/
def source? (limit : Nat) (text : String) : Option Json := written? text >>= Written.value? limit

/-- The nesting that a text may have. -/
def nestingLimit : Nat := 127

/-- The value of a whole text without the members that its shape does not know, repeated ones
included. -/
def shaped? (shape : Shape) (text : String) : Option Json :=
  written? text >>= Written.known? shape >>= Written.value? nestingLimit

/-- The value of a whole text as plain data. -/
def ofText? (text : String) : Option Json := (source? nestingLimit text).map withoutRepeats

example : (ofText? " [1, \"\\ud83d\\ude00\", -0] ").isSome = true := by decide +kernel
example : (ofText? "[1,]").isNone = true := by decide +kernel
example : (ofText? "1e400").isNone = true := by decide +kernel
example : (ofText? "\"\\ud800\"").isNone = true := by decide +kernel
example : (shaped? (.record []) "\x7b\"a\": [1e400, \"\\ud800\"]\x7d").isSome = true := by
  decide +kernel
example : (shaped? (.record []) "\x7b\"a\": [1e, \"\\x\"]\x7d").isNone = true := by decide +kernel

end Json

end Subgraph
