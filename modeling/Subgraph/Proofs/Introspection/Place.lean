import Subgraph.Proofs.Introspection.Literal
import Subgraph.Proofs.Language.Front

/-!
# Texts in the place of a value

A default value is read in the place of an argument of a query, between
parentheses that the text does not have.

* `Value.ofLiteral?_eq_some_iff` says which texts are taken for a value.  The first
  parenthesis that closes need not be that of the query.
* `Value.IsLiteral` is what a default value should be, and `Value.IsStray` what else
  is taken for one.
* `Introspection.valueOf_iff` puts them together.
-/

namespace Subgraph

namespace Value

open Reading (AreNames Closes)

/-! ## The lexemes of a query -/

/-- The lexemes of a query of one field in front of the value of its argument. -/
def openingLexemes (field argument : Name) : List Lexeme :=
  [⟨.punctuator .openBrace, false⟩, ⟨.name field, false⟩, ⟨.punctuator .openParen, false⟩,
    ⟨.name argument, false⟩, ⟨.punctuator .colon, false⟩]

/-- What is behind the colon of a query is read on its own. -/
theorem ofText?_query (literal : String) :
    Token.ofText? ("\x7b default(value: " ++ literal ++ ") \x7d") =
      (Token.lexemes? false (literal.toList ++ [')', ' ', '\x7d'])).map
        (openingLexemes ⟨"default", by decide⟩ ⟨"value", by decide⟩ ++ ·) := by
  have text : ("\x7b default(value: " ++ literal ++ ") \x7d").toList =
      '\x7b' :: ' ' :: ("default".toList ++ '(' :: ("value".toList ++
        ':' :: ' ' :: (literal.toList ++ [')', ' ', '\x7d']))) := by
    rw [String.toList_append, String.toList_append, List.append_assoc]
    rfl
  rw [Token.ofText?, text,
    Token.lexemes?_of_readOne (Token.readOne_punctuator _ rfl), Token.lexemes?_ignored rfl,
    Token.lexemes?_of_readOne (Token.readOne_name ⟨"default", by decide⟩
      ((Token.ends_cons _ _).2 (by decide))),
    Token.lexemes?_of_readOne (Token.readOne_punctuator _ rfl),
    Token.lexemes?_of_readOne (Token.readOne_name ⟨"value", by decide⟩
      ((Token.ends_cons _ _).2 (by decide))),
    Token.lexemes?_of_readOne (Token.readOne_punctuator _ rfl), Token.lexemes?_ignored rfl]
  simp only [Option.map_map]
  rfl

/-- The argument of a query has a value exactly when that is read from what stands there, with names
and the rest of the field behind it. -/
theorem onlyArgument?_opening_iff {field argument : Name} {lexemes : List Lexeme}
    {value : Value} :
    Reading.definitions (openingLexemes field argument ++ lexemes) >>= Document.onlyArgument? =
        some value ↔
      ∃ (front names back : List Lexeme) (comma : Bool) (applied : List Directive)
        (inside : List Selection),
        lexemes = front ++ names ++ ⟨.punctuator .closeParen, comma⟩ :: back ∧
          ReadFrom 499 value (front.map Lexeme.token) ∧ AreNames names ∧
            Closes 499 applied inside back := by
  rw [openingLexemes, List.cons_append, List.cons_append, List.cons_append,
    Document.onlyArgument?_definitions_iff]
  simp only [List.cons_append, List.nil_append, Reading.arguments_eq_single_iff,
    value_eq_some_iff]
  constructor
  · rintro ⟨_, back, applied, inside, ⟨rfl, names, comma, areNames, front, rfl, given⟩, closes⟩
    exact ⟨front, names, back, comma, applied, inside, by simp, given, areNames, closes⟩
  · rintro ⟨front, names, back, comma, applied, inside, rfl, given, areNames, closes⟩
    exact ⟨_, back, applied, inside, ⟨rfl, names, comma, areNames, front, by simp, given⟩, closes⟩

/-! ## Texts that a query takes for a value -/

/-- A value stands in a text, with nothing but names behind it. -/
def Stands (cs : List Char) (value : Value) : Prop :=
  Token.commentsEnd cs = true ∧ ∃ front names : List Lexeme,
    Token.lexemes? false cs = some (front ++ names) ∧
      ReadFrom 499 value (front.map Lexeme.token) ∧ AreNames names

/-- A text fills the place of a value, if the first parenthesis that closes has the value in front
of it and what ends a field behind it.  The end of the query is part of that, unless the text
comments it out. -/
def Fills (text : String) (value : Value) : Prop :=
  ∃ before after : List Char, text.toList ++ [')', ' ', '\x7d'] = before ++ ')' :: after ∧
    Stands before value ∧ ∃ (back : List Lexeme) (applied : List Directive)
      (inside : List Selection), Token.lexemes? false after = some back ∧
        Closes 499 applied inside back

theorem eq_of_ofChar?_closeParen {c : Char} (written : Punctuator.ofChar? c = some .closeParen) :
    c = ')' := by
  unfold Punctuator.ofChar? at written
  split at written
  case h_5 => rfl
  all_goals cases written

theorem ofLiteral?_eq_bind (text : String) :
    ofLiteral? text =
      (Token.lexemes? false (text.toList ++ [')', ' ', '\x7d'])).bind fun lexemes =>
        Reading.definitions
            (openingLexemes ⟨"default", by decide⟩ ⟨"value", by decide⟩ ++ lexemes) >>=
          Document.onlyArgument? := by
  rw [ofLiteral?, Document.ofText?, ofText?_query]
  cases Token.lexemes? false (text.toList ++ [')', ' ', '\x7d']) <;> rfl

/-- The value of a literal is what fills the place of the value. -/
theorem ofLiteral?_eq_some_iff {text : String} {value : Value} :
    ofLiteral? text = some value ↔ Fills text value := by
  rw [ofLiteral?_eq_bind]
  constructor
  · intro read
    obtain ⟨lexemes, lexed, read⟩ := Option.bind_eq_some_iff.1 read
    obtain ⟨front, names, back, comma, applied, inside, rfl, given, areNames, closes⟩ :=
      onlyArgument?_opening_iff.1 read
    obtain ⟨before, c, after, whole, written, ends, first, last⟩ :=
      Token.exists_split_of_lexemes? (by decide) lexed
    cases eq_of_ofChar?_closeParen written
    exact ⟨before, after, whole, ⟨ends, front, names, first, given, areNames⟩, back, applied,
      inside, last, closes⟩
  · rintro ⟨before, after, whole, ⟨ends, front, names, first, given, areNames⟩, back, applied,
      inside, last, closes⟩
    obtain ⟨lexemes, comma, same, read⟩ := Token.Spells.of_commentsEnd ends first false
      (')' :: after) ((Token.ends_cons _ _).2 (by decide))
    rw [List.map_append] at same
    obtain ⟨valued, bare, rfl, sameFront, sameNames⟩ := List.map_eq_append_iff.1 same
    rw [whole, read, Token.lexemes?_of_readOne (Token.readOne_punctuator after rfl), last]
    refine onlyArgument?_opening_iff.2 ⟨valued, bare, back, comma, applied, inside, by simp, ?_,
      ?_, closes⟩
    · rwa [sameFront]
    · obtain ⟨found, spelled⟩ := areNames
      exact ⟨found, sameNames.trans spelled⟩

/-! ## Literals -/

/-- A text that is, apart from what separates tokens, one constant value and nothing else. -/
def IsLiteral (text : String) (value : Value) : Prop :=
  value.isConstant = true ∧ ∃ lexemes : List Lexeme, Token.ofText? text = some lexemes ∧
    lexemes.map Lexeme.token = value.tokens

theorem isLiteral_text {value : Value} (isConstant : value.isConstant = true) :
    IsLiteral value.text value := by
  obtain ⟨lexemes, same, read⟩ := value.spells.lexemes?_eq false
  exact ⟨isConstant, lexemes, read, same⟩

mutual

/-- No parenthesis closes inside of a value. -/
theorem closeParen_not_mem_tokens :
    (value : Value) → .punctuator .closeParen ∉ value.tokens
  | .null | .boolean true | .boolean false | .int _ | .float _ | .string _ | .enumerated _
  | .variable _ => by simp [tokens]
  | .list items => by simpa [tokens] using closeParen_not_mem_tokensAll items
  | .object fields => by simpa [tokens] using closeParen_not_mem_tokensIn fields

theorem closeParen_not_mem_tokensAll :
    (items : List Value) → .punctuator .closeParen ∉ tokensAll items
  | [] => by simp [tokensAll]
  | item :: items => by
      simpa [tokensAll] using
        ⟨closeParen_not_mem_tokens item, closeParen_not_mem_tokensAll items⟩

theorem closeParen_not_mem_tokensIn :
    (fields : List (Name × Value)) → .punctuator .closeParen ∉ tokensIn fields
  | [] => by simp [tokensIn]
  | (_, item) :: fields => by
      simpa [tokensIn] using
        ⟨closeParen_not_mem_tokens item, closeParen_not_mem_tokensIn fields⟩

end

/-- A text that has such a parenthesis is no literal. -/
theorem not_isLiteral_of_closeParen {text : String}
    (closes : (Token.ofText? text).any
      (fun lexemes => .punctuator .closeParen ∈ lexemes.map Lexeme.token) = true) (value : Value) :
    ¬ IsLiteral text value := by
  rintro ⟨_, lexemes, read, same⟩
  rw [read, Option.any_some, same, decide_eq_true_eq] at closes
  exact closeParen_not_mem_tokens value closes

/-- A text whose comments end is read as the constant value that it is the literal of, as far as
its levels go. -/
theorem ofLiteral?_of_commentsEnd {text : String} {value : Value} (literal : IsLiteral text value)
    (ends : Token.commentsEnd text.toList = true) :
    ofLiteral? text = if value.depth < Reading.nestingLimit then some value else none := by
  obtain ⟨isConstant, lexemes, read, same⟩ := literal
  obtain ⟨inside, comma, spelled, behind⟩ := Token.Spells.of_commentsEnd ends read false
    [')', ' ', '\x7d'] ((Token.ends_cons _ _).2 (by decide))
  have closes : Token.lexemes? comma [')', ' ', '\x7d'] =
      some [⟨.punctuator .closeParen, comma⟩, ⟨.punctuator .closeBrace, false⟩] := by
    rw [Token.lexemes?_of_readOne (Token.readOne_punctuator _ rfl), Token.lexemes?_ignored rfl,
      Token.lexemes?_of_readOne (Token.readOne_punctuator _ rfl), Token.lexemes?_nil]
    rfl
  rw [ofLiteral?_eq_bind, behind, closes]
  refine definitions_query value isConstant ?_
  rw [List.map_append, List.map_append, spelled, same]
  rfl

/-- A text whose last comment does not end takes the end of the query in, so a literal with such a
comment is no value. -/
theorem ofLiteral?_of_not_commentsEnd {text : String} {value : Value}
    (literal : IsLiteral text value) (unended : Token.commentsEnd text.toList = false) :
    ofLiteral? text = none := by
  obtain ⟨_, lexemes, read, same⟩ := literal
  have sameLine : ∀ c ∈ [')', ' ', '\x7d'], Token.isLineEnd c = false := by
    simp [Token.isLineEnd]
  have whole := Token.lexemes?_append_of_not_commentsEnd unended
    ((Token.ends_cons ')' [' ', '\x7d']).2 (by decide)) sameLine read
  rw [ofLiteral?_eq_bind, whole, Option.bind_some]
  refine Option.eq_none_iff_forall_ne_some.2 fun other found => ?_
  obtain ⟨front, names, back, comma, _, _, rfl, _⟩ := onlyArgument?_opening_iff.1 found
  refine closeParen_not_mem_tokens value ?_
  rw [← same]
  simp

/-- A text that is taken for a value although it is the literal of none. -/
def IsStray (text : String) (value : Value) : Prop :=
  (∀ other : Value, ¬ IsLiteral text other) ∧ Fills text value

end Value

namespace Introspection

theorem valueOf_eq_ok_iff {text : String} {value : Value} :
    valueOf text = .ok value ↔ Value.ofLiteral? text = some value := by
  unfold valueOf
  cases Value.ofLiteral? text <;> simp

/-- A text is taken for a value exactly where it is the literal of a constant value, its comments
end and it is not nested too deep, or where it is no literal and fills the place of the value in
another way.  Every other text is refused.  The text of a constant value is its literal. -/
theorem valueOf_iff (text : String) (value : Value) :
    (valueOf text = .ok value ↔
      Value.IsLiteral text value ∧ Token.commentsEnd text.toList = true ∧
          value.depth < Reading.nestingLimit ∨
        Value.IsStray text value) ∧
      ((∃ other, valueOf text = .ok other) ∨ valueOf text = .error (.invalidDefault text)) ∧
      (value.isConstant = true →
        Value.IsLiteral value.text value ∧
          (valueOf value.text = .ok value ↔ value.depth < Reading.nestingLimit)) := by
  refine ⟨valueOf_eq_ok_iff.trans ⟨fun found => ?_, ?_⟩, ?_, fun isConstant =>
    ⟨Value.isLiteral_text isConstant, ?_⟩⟩
  · by_cases some : ∃ other, Value.IsLiteral text other
    · obtain ⟨other, literal⟩ := some
      cases ends : Token.commentsEnd text.toList with
      | false =>
          rw [Value.ofLiteral?_of_not_commentsEnd literal ends] at found
          cases found
      | true =>
          rw [Value.ofLiteral?_of_commentsEnd literal ends] at found
          split at found
          next fits =>
              cases found
              exact Or.inl ⟨literal, rfl, fits⟩
          next => cases found
    · exact Or.inr ⟨fun other literal => some ⟨other, literal⟩,
        Value.ofLiteral?_eq_some_iff.1 found⟩
  · rintro (⟨literal, ends, fits⟩ | ⟨_, fills⟩)
    · rw [Value.ofLiteral?_of_commentsEnd literal ends, if_pos fits]
    · exact Value.ofLiteral?_eq_some_iff.2 fills
  · unfold valueOf
    cases Value.ofLiteral? text with
    | none => exact Or.inr rfl
    | some other => exact Or.inl ⟨other, rfl⟩
  · rw [valueOf_eq_ok_iff, Value.ofLiteral?_text value isConstant]
    simp

/-- A text that closes the place of the value and comments the rest out, and one that goes on with
a directive, are each taken for a value, and are the literal of none. -/
theorem exists_stray_valueOf :
    ((∃ value, valueOf "1) \x7d #" = .ok value) ∧ ∀ value, ¬ Value.IsLiteral "1) \x7d #" value) ∧
      (∃ value, valueOf "1) @skip(if: true" = .ok value) ∧
        ∀ value, ¬ Value.IsLiteral "1) @skip(if: true" value := by
  have taken {text : String} (isSome : (Value.ofLiteral? text).isSome = true) :
      ∃ value, valueOf text = .ok value :=
    (Option.isSome_iff_exists.1 isSome).imp fun _ => valueOf_eq_ok_iff.2
  exact ⟨⟨taken (by decide +kernel), Value.not_isLiteral_of_closeParen (by decide +kernel)⟩,
    taken (by decide +kernel), Value.not_isLiteral_of_closeParen (by decide +kernel)⟩

end Introspection

end Subgraph
