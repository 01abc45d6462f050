/-!
# Names and numerals

The words of the language that carry their text: names, integers and floats.
Each type holds the text together with the fact that it is well formed, so
that what has been read can always be written.
-/

namespace Subgraph

/-! ## Names -/

/-- Whether a character may begin a name. -/
def Name.isStart (c : Char) : Bool := c.isAlpha || c = '_'

/-- Whether a character may stand later in a name. -/
def Name.isContinue (c : Char) : Bool := c.isAlphanum || c = '_'

/-- Whether a text is a name: letters, digits and underscores, with no digit in front. -/
def Name.isValid : List Char → Bool
  | [] => false
  | c :: rest => Name.isStart c && rest.all Name.isContinue

/-- A name. -/
structure Name where
  /-- The text of the name. -/
  text : String
  /-- The text is a name. -/
  valid : Name.isValid text.toList = true := by decide
deriving DecidableEq

namespace Name

instance : Inhabited Name := ⟨⟨"_", by decide⟩⟩

/-- The name with a text, if the text is one. -/
def ofText? (text : String) : Option Name :=
  if h : isValid text.toList = true then some ⟨text, h⟩ else none

/-- Whether a name begins with two underscores, as those of the introspection system do. -/
def isReserved (name : Name) : Bool := ['_', '_'].isPrefixOf name.text.toList

@[simp] theorem ofText?_text (name : Name) : ofText? name.text = some name := by
  simp [ofText?, name.valid]

/-- A text has a name exactly when it is one. -/
theorem ofText?_eq_some_iff {text : String} {name : Name} :
    ofText? text = some name ↔ name.text = text := by
  constructor
  · intro h
    unfold ofText? at h
    split at h
    · cases h
      rfl
    · exact absurd h (by simp)
  · rintro rfl
    exact ofText?_text name

end Name

/-! ## Numerals -/

namespace Numeral

/-- Drops one minus sign. -/
def unsigned : List Char → List Char
  | '-' :: rest => rest
  | cs => cs

/-- Whether digits are an integer part: a zero stands alone. -/
def isIntegerPart : List Char → Bool
  | [] => false
  | ['0'] => true
  | c :: rest => c ≠ '0' && (c :: rest).all Char.isDigit

/-- Whether a text is some digits. -/
def isDigits (cs : List Char) : Bool := !cs.isEmpty && cs.all Char.isDigit

/-- Whether a text is an exponent. -/
def isExponent : List Char → Bool
  | c :: '+' :: rest => (c = 'e' || c = 'E') && isDigits rest
  | c :: '-' :: rest => (c = 'e' || c = 'E') && isDigits rest
  | c :: rest => (c = 'e' || c = 'E') && isDigits rest
  | [] => false

/-- Whether a text is what follows the integer part of a float: a fraction, an exponent, or
both. -/
def isFloatTail : List Char → Bool
  | '.' :: rest =>
      !(rest.takeWhile Char.isDigit).isEmpty &&
        ((rest.dropWhile Char.isDigit).isEmpty || isExponent (rest.dropWhile Char.isDigit))
  | cs => isExponent cs

/-- Whether a text is an integer. -/
def isInt (cs : List Char) : Bool := isIntegerPart (unsigned cs)

/-- Whether a text is a float. -/
def isFloat (cs : List Char) : Bool :=
  isIntegerPart ((unsigned cs).takeWhile Char.isDigit) &&
    isFloatTail ((unsigned cs).dropWhile Char.isDigit)

end Numeral

/-- An integer as it is written. -/
structure IntLiteral where
  /-- The text of the integer. -/
  text : String
  /-- The text is an integer. -/
  valid : Numeral.isInt text.toList = true := by decide
deriving DecidableEq

/-- A float as it is written. -/
structure FloatLiteral where
  /-- The text of the float. -/
  text : String
  /-- The text is a float. -/
  valid : Numeral.isFloat text.toList = true := by decide
deriving DecidableEq

example : Name.ofText? "__typename" = some ⟨"__typename", by decide⟩ := by decide
example : Name.ofText? "1a" = none := by decide
example : Numeral.isInt "-10".toList = true := by decide
example : Numeral.isInt "-01".toList = false := by decide
example : Numeral.isFloat "-0.50e+3".toList = true := by decide
example : Numeral.isFloat "1.".toList = false := by decide

end Subgraph
