import Subgraph.Language.Token.Lexer
import Subgraph.Language.Value.Printer
import Subgraph.Proofs.Language.Name

/-!
# Reading written tokens

What is written with something behind it that no token goes on with is read
back as it was.

* `Token.Ends` says of the rest of a text that no token goes on with it.
* `readOne_name`, `readOne_int`, `readOne_float` and `readOne_quotedString` read
  one written token back and leave the rest.
* `lexemes?_of_readOne` puts a token in front of the lexemes of the rest.
-/

namespace Subgraph

/-! ## Punctuators -/

/-- A punctuator is written with a character of its own. -/
theorem Punctuator.ofChar?_eq_none {c : Char} (plain : Name.isContinue c = true ∨ c = '-') :
    Punctuator.ofChar? c = none := by
  unfold ofChar?
  split
  all_goals first | rfl | (revert plain; decide)

namespace Token

/-! ## Where tokens end -/

/-- Whether a character goes on with no token that stands before it. -/
def isDelimiter (c : Char) : Bool :=
  !(Name.isContinue c || c = '.' || c = '+' || c = '-' || c = '"')

/-- No token goes on with a text. -/
def Ends (rest : List Char) : Prop := ∀ c ∈ rest.head?, isDelimiter c = true

@[simp] theorem ends_nil : Ends [] := by
  intro c member
  cases member

@[simp] theorem ends_cons (c : Char) (rest : List Char) :
    Ends (c :: rest) ↔ isDelimiter c = true := by
  simp [Ends]

theorem not_isContinue_of_isDelimiter {c : Char} (delimiter : isDelimiter c = true) :
    Name.isContinue c = false := by
  simp only [isDelimiter, Bool.not_eq_true', Bool.or_eq_false_iff] at delimiter
  exact delimiter.1.1.1.1

/-! ## One token -/

/-- Reading by the first character. -/
theorem readOne_cons {c : Char} (rest : List Char) (noQuote : c ≠ '"') (noPoint : c ≠ '.') :
    readOne (c :: rest) =
      match Punctuator.ofChar? c with
      | some mark => some (.punctuator mark, rest)
      | none =>
          if Name.isStart c then readName (c :: rest)
          else if c.isDigit || c = '-' then readNumeral (c :: rest)
          else none := by
  unfold readOne
  split
  next none => cases none
  next quote =>
      cases quote
      exact absurd rfl noQuote
  next point =>
      cases point
      exact absurd rfl noPoint
  next same =>
      cases same
      rfl

/-- A character that begins a name begins nothing else. -/
theorem readOne_of_isStart {c : Char} (rest : List Char) (start : Name.isStart c = true) :
    readOne (c :: rest) = readName (c :: rest) := by
  have noQuote : c ≠ '"' := by
    rintro rfl
    exact absurd start (by decide)
  have noPoint : c ≠ '.' := by
    rintro rfl
    exact absurd start (by decide)
  rw [readOne_cons rest noQuote noPoint,
    Punctuator.ofChar?_eq_none (Or.inl (Name.isContinue_of_isStart start))]
  exact if_pos start

/-- A digit or a minus sign begins a numeral. -/
theorem readOne_of_isDigit {c : Char} (rest : List Char) (first : c.isDigit = true ∨ c = '-') :
    readOne (c :: rest) = readNumeral (c :: rest) := by
  have noStart : Name.isStart c = false := by
    rcases first with digit | rfl
    · exact Name.isStart_eq_false_of_isDigit digit
    · decide
  have noQuote : c ≠ '"' := by
    rintro rfl
    exact absurd first (by decide)
  have noPoint : c ≠ '.' := by
    rintro rfl
    exact absurd first (by decide)
  rw [readOne_cons rest noQuote noPoint,
    Punctuator.ofChar?_eq_none (first.imp_left Name.isContinue_of_isDigit)]
  dsimp only
  rw [noStart, if_neg Bool.false_ne_true, if_pos (by simpa using first)]

theorem readOne_punctuator {c : Char} {mark : Punctuator} (rest : List Char)
    (written : Punctuator.ofChar? c = some mark) :
    readOne (c :: rest) = some (.punctuator mark, rest) := by
  have noQuote : c ≠ '"' := by
    rintro rfl
    cases written
  have noPoint : c ≠ '.' := by
    rintro rfl
    cases written
  rw [readOne_cons rest noQuote noPoint, written]

/-- Reading a run of characters of a name. -/
theorem takeWhile_isContinue {cs rest : List Char} (all : cs.all Name.isContinue = true)
    (ends : Ends rest) :
    (cs ++ rest).takeWhile Name.isContinue = cs ∧ (cs ++ rest).dropWhile Name.isContinue = rest := by
  induction cs with
  | nil =>
      cases rest with
      | nil => exact ⟨rfl, rfl⟩
      | cons c rest =>
          rw [ends_cons] at ends
          have stop := not_isContinue_of_isDelimiter ends
          simp [stop]
  | cons c cs ih =>
      rw [List.all_cons, Bool.and_eq_true] at all
      simp [all.1, ih all.2]

/-- A written name is read back. -/
theorem readOne_name (name : Name) {rest : List Char} (ends : Ends rest) :
    readOne (name.text.toList ++ rest) = some (.name name, rest) := by
  have runs := takeWhile_isContinue name.all_isContinue ends
  have found : readName (name.text.toList ++ rest) = some (.name name, rest) := by
    rw [readName, runs.1, runs.2, String.ofList_toList, Name.ofText?_text]
    rfl
  have valid := name.valid
  generalize name.text.toList = cs at valid found
  cases cs with
  | nil => cases valid
  | cons c cs =>
      simp only [Name.isValid, Bool.and_eq_true] at valid
      rw [List.cons_append, readOne_of_isStart _ valid.1]
      exact found

/-! ## Numerals -/

/-- Whether a numeral takes a whole text, given whether a sign may stand in front. -/
def isRun (sign : Bool) : List Char → Bool
  | [] => true
  | c :: rest =>
      (Name.isContinue c || c = '.' || (sign && (c = '+' || c = '-'))) &&
        isRun (c = 'e' || c = 'E') rest

theorem numeralRun_append {sign : Bool} {cs rest : List Char} (run : isRun sign cs = true)
    (ends : Ends rest) : numeralRun sign (cs ++ rest) = (cs, rest) := by
  induction cs generalizing sign with
  | nil =>
      cases rest with
      | nil => rfl
      | cons c rest =>
          rw [ends_cons] at ends
          simp only [isDelimiter, Bool.not_eq_true', Bool.or_eq_false_iff] at ends
          obtain ⟨⟨⟨⟨noName, noPoint⟩, noPlus⟩, noMinus⟩, _⟩ := ends
          simp [numeralRun, noName, noPoint, noPlus, noMinus]
  | cons c cs ih =>
      rw [isRun, Bool.and_eq_true] at run
      rw [List.cons_append, numeralRun, if_pos run.1, ih run.2]

theorem isRun_true {cs : List Char} (run : isRun false cs = true) : isRun true cs = true := by
  cases cs with
  | nil => rfl
  | cons c rest =>
      simp only [isRun, Bool.and_eq_true, Bool.or_eq_true, Bool.false_and] at run ⊢
      exact ⟨run.1.elim Or.inl fun none => absurd none (by simp), run.2⟩

/-- A run may begin with digits. -/
theorem isRun_digits_append {sign : Bool} {digits cs : List Char}
    (all : digits.all Char.isDigit = true) (run : isRun false cs = true) :
    isRun sign (digits ++ cs) = true := by
  induction digits generalizing sign with
  | nil =>
      cases sign with
      | false => exact run
      | true => exact isRun_true run
  | cons c digits ih =>
      rw [List.all_cons, Bool.and_eq_true] at all
      rw [List.cons_append, isRun, Name.isContinue_of_isDigit all.1]
      exact ih all.2

theorem isRun_digits {sign : Bool} {digits : List Char} (all : digits.all Char.isDigit = true) :
    isRun sign digits = true := by
  have run : isRun sign (digits ++ []) = true := isRun_digits_append all rfl
  rwa [List.append_nil] at run

theorem all_isDigit_of_isIntegerPart {cs : List Char} (part : Numeral.isIntegerPart cs = true) :
    cs.all Char.isDigit = true := by
  unfold Numeral.isIntegerPart at part
  split at part
  · cases part
  · rfl
  · exact (Bool.and_eq_true_iff.1 part).2

theorem all_isDigit_of_isDigits {cs : List Char} (digits : Numeral.isDigits cs = true) :
    cs.all Char.isDigit = true :=
  (Bool.and_eq_true_iff.1 digits).2

/-- A numeral without its sign may follow one. -/
theorem isRun_of_unsigned {cs : List Char} (run : isRun false (Numeral.unsigned cs) = true) :
    isRun true cs = true := by
  unfold Numeral.unsigned at run
  split at run
  · simpa [isRun] using run
  · exact isRun_true run

theorem isRun_of_isInt {cs : List Char} (valid : Numeral.isInt cs = true) :
    isRun true cs = true :=
  isRun_of_unsigned (isRun_digits (all_isDigit_of_isIntegerPart valid))

theorem isRun_of_isExponent {cs : List Char} (exponent : Numeral.isExponent cs = true) :
    isRun false cs = true := by
  -- The letter of an exponent is what allows the sign behind it.
  have letter {c : Char} (h : (c = 'e' || c = 'E') = true) :
      Name.isContinue c = true ∧ (c = 'e' || c = 'E') = true := by
    refine ⟨?_, h⟩
    simp only [Bool.or_eq_true, decide_eq_true_eq] at h
    rcases h with rfl | rfl <;> decide
  unfold Numeral.isExponent at exponent
  split at exponent
  case h_1 c rest =>
      obtain ⟨named, digits⟩ := Bool.and_eq_true_iff.1 exponent
      simp [isRun, letter named, isRun_digits (all_isDigit_of_isDigits digits)]
  case h_2 c rest =>
      obtain ⟨named, digits⟩ := Bool.and_eq_true_iff.1 exponent
      simp [isRun, letter named, isRun_digits (all_isDigit_of_isDigits digits)]
  case h_3 c rest _ _ =>
      obtain ⟨named, digits⟩ := Bool.and_eq_true_iff.1 exponent
      rw [isRun, (letter named).1]
      exact isRun_digits (all_isDigit_of_isDigits digits)
  case h_4 => cases exponent

theorem isRun_of_isFloatTail {cs : List Char} (tail : Numeral.isFloatTail cs = true) :
    isRun false cs = true := by
  unfold Numeral.isFloatTail at tail
  split at tail
  · next rest =>
      obtain ⟨_, behind⟩ := Bool.and_eq_true_iff.1 tail
      have run : isRun false (rest.dropWhile Char.isDigit) = true := by
        rcases Bool.or_eq_true_iff.1 behind with nothing | exponent
        · rw [List.isEmpty_iff.1 nothing]
          rfl
        · exact isRun_of_isExponent exponent
      have whole : isRun false (rest.takeWhile Char.isDigit ++ rest.dropWhile Char.isDigit) =
          true := isRun_digits_append List.all_takeWhile run
      rw [List.takeWhile_append_dropWhile] at whole
      simpa [isRun] using whole
  · exact isRun_of_isExponent tail

theorem isRun_of_isFloat {cs : List Char} (valid : Numeral.isFloat cs = true) :
    isRun true cs = true := by
  obtain ⟨part, tail⟩ := Bool.and_eq_true_iff.1 valid
  have run : isRun false ((Numeral.unsigned cs).takeWhile Char.isDigit ++
      (Numeral.unsigned cs).dropWhile Char.isDigit) = true :=
    isRun_digits_append (all_isDigit_of_isIntegerPart part) (isRun_of_isFloatTail tail)
  rw [List.takeWhile_append_dropWhile] at run
  exact isRun_of_unsigned run

/-- A float is no integer, since something follows its digits. -/
theorem isInt_eq_false_of_isFloat {cs : List Char} (valid : Numeral.isFloat cs = true) :
    Numeral.isInt cs = false := by
  refine Bool.eq_false_iff.2 fun integer => ?_
  have digits := List.all_eq_true.1 (all_isDigit_of_isIntegerPart integer)
  have nothing : (Numeral.unsigned cs).dropWhile Char.isDigit = [] := by
    rw [← List.append_nil (Numeral.unsigned cs), List.dropWhile_append_of_pos digits]
    rfl
  rw [Numeral.isFloat, nothing] at valid
  exact absurd (Bool.and_eq_true_iff.1 valid).2 (by decide)

/-- A text that is a numeral begins with a digit or a minus sign. -/
theorem head_of_isIntegerPart {cs : List Char}
    (part : Numeral.isIntegerPart ((Numeral.unsigned cs).takeWhile Char.isDigit) = true) :
    ∃ c rest, cs = c :: rest ∧ (c.isDigit = true ∨ c = '-') := by
  unfold Numeral.unsigned at part
  split at part
  · exact ⟨_, _, rfl, Or.inr rfl⟩
  · cases cs with
    | nil => cases part
    | cons c rest =>
        refine ⟨c, rest, rfl, Or.inl ?_⟩
        cases digit : c.isDigit with
        | true => rfl
        | false =>
            rw [List.takeWhile_cons, digit] at part
            cases part

theorem readOne_numeral {cs rest : List Char} {token : Token} (run : isRun true cs = true)
    (head : ∃ c tail, cs = c :: tail ∧ (c.isDigit = true ∨ c = '-'))
    (numeral : numeral? cs = some token) (ends : Ends rest) :
    readOne (cs ++ rest) = some (token, rest) := by
  obtain ⟨c, tail, rfl, first⟩ := head
  have found : readNumeral (c :: tail ++ rest) = some (token, rest) := by
    rw [readNumeral, numeralRun_append run ends, numeral]
    rfl
  rw [List.cons_append, readOne_of_isDigit _ first]
  exact found

/-- A written integer is read back. -/
theorem readOne_int (literal : IntLiteral) {rest : List Char} (ends : Ends rest) :
    readOne (literal.text.toList ++ rest) = some (.int literal, rest) := by
  have valid := literal.valid
  refine readOne_numeral (isRun_of_isInt valid) (head_of_isIntegerPart ?_) ?_ ends
  · have digits := List.all_eq_true.1 (all_isDigit_of_isIntegerPart valid)
    rw [← List.append_nil (Numeral.unsigned literal.text.toList),
      List.takeWhile_append_of_pos digits, List.takeWhile_nil, List.append_nil]
    exact valid
  · have same : (String.ofList literal.text.toList) = literal.text := String.ofList_toList
    simp only [numeral?, same, valid, dif_pos]

/-- A written float is read back. -/
theorem readOne_float (literal : FloatLiteral) {rest : List Char} (ends : Ends rest) :
    readOne (literal.text.toList ++ rest) = some (.float literal, rest) := by
  have valid := literal.valid
  refine readOne_numeral (isRun_of_isFloat valid)
    (head_of_isIntegerPart (Bool.and_eq_true_iff.1 valid).1) ?_ ends
  have same : (String.ofList literal.text.toList) = literal.text := String.ofList_toList
  simp only [numeral?, same, isInt_eq_false_of_isFloat valid, Bool.false_eq_true, valid, dif_pos,
    dif_neg, not_false_eq_true]

/-! ## Strings -/

/-- The escape of a control character has four digits, the first two of them zeros. -/
theorem fourUpperHexDigits_control : ∀ n < 0x20,
    fourUpperHexDigits n = '0' :: '0' :: (fourUpperHexDigits n).drop 2 ∧
      (fourUpperHexDigits n).length = 4 ∧ Text.hexValue? (fourUpperHexDigits n) = some n := by
  decide +kernel

theorem readEscape_control {c : Char} (control : c.toNat < 0x20) (rest : List Char) :
    readEscape ('u' :: fourUpperHexDigits c.toNat ++ rest) = some (c, rest) := by
  obtain ⟨begins, four, value⟩ := fourUpperHexDigits_control c.toNat control
  generalize fourUpperHexDigits c.toNat = digits at begins four value
  obtain ⟨third, fourth, rfl⟩ : ∃ third fourth, digits = ['0', '0', third, fourth] := by
    match digits, four with
    | [a, b, c, d], _ =>
        cases begins
        exact ⟨c, d, rfl⟩
  simp [readEscape, Text.readUnits, Text.readFourHex, value]

theorem readQuoted_escape {rest next : List Char} {c : Char}
    (escape : readEscape rest = some (c, next)) :
    readQuoted ('\\' :: rest) = (readQuoted next).map fun (text, last) => (c :: text, last) := by
  rw [readQuoted]
  split
  next none => cases escape.symm.trans none
  next found =>
      cases escape.symm.trans found
      rfl

theorem isLineEnd_eq_false {c : Char} (noFeed : c ≠ '\n') (noReturn : c ≠ '\r') :
    isLineEnd c = false := by
  simp [isLineEnd, noFeed, noReturn]

theorem readQuoted_plain {c : Char} (rest : List Char) (noQuote : c ≠ '"') (noEscape : c ≠ '\\')
    (noLineEnd : isLineEnd c = false) :
    readQuoted (c :: rest) = (readQuoted rest).map fun (text, last) => (c :: text, last) := by
  rw [readQuoted]
  · rw [noLineEnd]
    rfl
  · exact noQuote
  · exact noEscape

/-- A character inside a quoted string is read back. -/
theorem readQuoted_quotedStringChar (c : Char) (rest : List Char) :
    readQuoted (quotedStringChar c ++ rest) =
      (readQuoted rest).map fun (text, last) => (c :: text, last) := by
  unfold quotedStringChar
  split
  case h_1 => exact readQuoted_escape rfl
  case h_2 => exact readQuoted_escape rfl
  case h_3 => exact readQuoted_escape rfl
  case h_4 => exact readQuoted_escape rfl
  case h_5 => exact readQuoted_escape rfl
  case h_6 => exact readQuoted_escape rfl
  case h_7 => exact readQuoted_plain rest (by decide) (by decide) (by decide)
  case h_8 noQuote noEscape _ _ noFeed noReturn _ =>
      by_cases control : c.toNat < 0x20
      · rw [if_pos control]
        exact readQuoted_escape (readEscape_control control rest)
      · rw [if_neg control]
        exact readQuoted_plain rest noQuote noEscape (isLineEnd_eq_false noFeed noReturn)

/-- The characters of a quoted string are read back, up to its closing quote. -/
theorem readQuoted_flatMap (text rest : List Char) :
    readQuoted (text.flatMap quotedStringChar ++ '"' :: rest) = some (text, rest) := by
  induction text with
  | nil => rw [List.flatMap_nil, List.nil_append, readQuoted]
  | cons c text ih =>
      rw [List.flatMap_cons, List.append_assoc, readQuoted_quotedStringChar, ih]
      rfl

/-- A quoted character begins with neither a quote nor the end of a line. -/
theorem quotedStringChar_eq_cons (c : Char) : ∃ first others,
    quotedStringChar c = first :: others ∧ first ≠ '"' ∧ isLineEnd first = false := by
  unfold quotedStringChar
  split
  case h_8 noQuote _ _ _ noFeed noReturn _ =>
      by_cases control : c.toNat < 0x20
      · exact ⟨_, _, if_pos control, by decide, by decide⟩
      · exact ⟨_, _, if_neg control, noQuote, isLineEnd_eq_false noFeed noReturn⟩
  all_goals exact ⟨_, _, rfl, by decide, by decide⟩

/-- A written string is read back. -/
theorem readOne_quotedString (text : String) {rest : List Char} (ends : Ends rest) :
    readOne ((quotedString text).toList ++ rest) = some (.string text, rest) := by
  have inner := readQuoted_flatMap text.toList rest
  have opened : readString (text.toList.flatMap quotedStringChar ++ '"' :: rest) =
      some (.string (String.ofList text.toList), rest) := by
    revert inner
    cases text.toList with
    | nil =>
        intro inner
        -- An empty string is no block string, since no third quote follows.
        have noBlock : ∀ tail, rest ≠ '"' :: tail := by
          rintro tail rfl
          exact absurd ((ends_cons _ _).1 ends) (by decide)
        rw [List.flatMap_nil, List.nil_append] at inner ⊢
        rw [readString]
        · rw [readOpened, if_neg (by decide), inner]
          rfl
        · intro tail same
          exact noBlock tail (List.cons.inj same).2
    | cons c others =>
        intro inner
        obtain ⟨first, more, begins, noQuote, noLineEnd⟩ := quotedStringChar_eq_cons c
        rw [List.flatMap_cons, begins, List.cons_append, List.cons_append] at inner ⊢
        rw [readString]
        · rw [readOpened, noLineEnd, if_neg Bool.false_ne_true, inner]
          rfl
        · intro tail same
          exact noQuote (List.cons.inj same).1
  simp only [quotedString, String.toList_ofList, List.cons_append, List.append_assoc,
    List.nil_append]
  rw [String.ofList_toList] at opened
  exact opened

/-! ## Token lists -/

theorem readOne_eq_none_of_isIgnored {c : Char} (rest : List Char) (ignored : isIgnored c = true) :
    readOne (c :: rest) = none := by
  simp only [isIgnored, Bool.or_eq_true, decide_eq_true_eq] at ignored
  rcases ignored with (((rfl | rfl) | rfl) | rfl) | rfl <;> rfl

/-- A token that can be read stands in front of the lexemes of what follows. -/
theorem lexemes?_of_readOne {cs rest : List Char} {token : Token}
    (read : readOne cs = some (token, rest)) (afterComma : Bool) :
    lexemes? afterComma cs = (lexemes? false rest).map ({ token, afterComma } :: ·) := by
  cases cs with
  | nil => cases read
  | cons c cs =>
      have noComma : c ≠ ',' := by
        rintro rfl
        cases read
      have noIgnored : ¬ isIgnored c = true := by
        intro ignored
        rw [readOne_eq_none_of_isIgnored cs ignored] at read
        cases read
      have noComment : c ≠ '#' := by
        rintro rfl
        cases read
      rw [lexemes?, if_neg noComma, if_neg noIgnored, if_neg noComment]
      split
      next none => cases read.symm.trans none
      next found =>
          cases read.symm.trans found
          rfl

theorem lexemes?_comma (afterComma : Bool) (rest : List Char) :
    lexemes? afterComma (',' :: rest) = lexemes? true rest := by
  rw [lexemes?, if_pos rfl]

theorem lexemes?_ignored {c : Char} (ignored : isIgnored c = true) (afterComma : Bool)
    (rest : List Char) : lexemes? afterComma (c :: rest) = lexemes? afterComma rest := by
  have noComma : c ≠ ',' := by
    rintro rfl
    cases ignored
  rw [lexemes?, if_neg noComma, if_pos ignored]

@[simp] theorem lexemes?_nil (afterComma : Bool) : lexemes? afterComma [] = some [] := by
  rw [lexemes?]

end Token

end Subgraph
