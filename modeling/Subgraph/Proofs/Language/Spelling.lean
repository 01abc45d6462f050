import Subgraph.Proofs.Language.Token

/-!
# Texts that spell tokens

A text spells some tokens when it is read as them in any place: behind a comma
or not, and in front of whatever ends its last token.  Commas in the text show
only in the lexemes, which a reading rarely looks at.

* `Spells.append` puts two such texts next to each other.
* `Value.spells`, `TypeReference.spells` and `Directive.spells` are the texts of
  values, of references to types and of applied directives.
-/

namespace Subgraph

/-- A list of lexemes without its first token. -/
theorem Lexeme.of_map_token_eq_cons {lexemes : List Lexeme} {token : Token} {tokens : List Token}
    (same : lexemes.map Lexeme.token = token :: tokens) :
    ∃ (afterComma : Bool) (others : List Lexeme),
      lexemes = ⟨token, afterComma⟩ :: others ∧ others.map Lexeme.token = tokens := by
  obtain ⟨⟨_, afterComma⟩, others, whole, rfl, behind⟩ := List.map_eq_cons_iff.1 same
  exact ⟨afterComma, others, whole, behind⟩

theorem Lexeme.of_map_token_eq_singleton {lexemes : List Lexeme} {token : Token}
    (same : lexemes.map Lexeme.token = [token]) :
    ∃ afterComma : Bool, lexemes = [⟨token, afterComma⟩] := by
  obtain ⟨afterComma, others, rfl, behind⟩ := of_map_token_eq_cons same
  rw [List.map_eq_nil_iff.1 behind]
  exact ⟨afterComma, rfl⟩

namespace Token

theorem Ends.append {cs rest : List Char} (first : Ends cs) (second : Ends rest) :
    Ends (cs ++ rest) := by
  cases cs with
  | nil => exact second
  | cons c cs => exact (ends_cons _ _).2 ((ends_cons _ _).1 first)

/-- A text is read as some tokens, whatever is in front of it and whatever ends the last. -/
def Spells (cs : List Char) (tokens : List Token) : Prop :=
  ∀ (afterComma : Bool) (rest : List Char), Ends rest →
    ∃ (lexemes : List Lexeme) (comma : Bool), lexemes.map Lexeme.token = tokens ∧
      lexemes? afterComma (cs ++ rest) = (lexemes? comma rest).map (lexemes ++ ·)

namespace Spells

theorem nil : Spells [] [] := by
  intro afterComma rest _
  refine ⟨[], afterComma, rfl, ?_⟩
  simp only [List.nil_append, Option.map_id']

/-- A text is read alone as what it spells. -/
theorem lexemes?_eq {cs : List Char} {tokens : List Token} (spells : Spells cs tokens)
    (afterComma : Bool) :
    ∃ lexemes : List Lexeme, lexemes.map Lexeme.token = tokens ∧
      lexemes? afterComma cs = some lexemes := by
  obtain ⟨lexemes, comma, same, read⟩ := spells afterComma [] ends_nil
  refine ⟨lexemes, same, ?_⟩
  rwa [List.append_nil, lexemes?_nil, Option.map_some, List.append_nil] at read

theorem eq_nil {tokens : List Token} (spells : Spells [] tokens) : tokens = [] := by
  obtain ⟨lexemes, rfl, read⟩ := spells.lexemes?_eq false
  rw [lexemes?_nil] at read
  cases read
  rfl

theorem append {cs ds : List Char} {tokens others : List Token} (first : Spells cs tokens)
    (second : Spells ds others) (ends : Ends ds) : Spells (cs ++ ds) (tokens ++ others) := by
  intro afterComma rest stops
  obtain ⟨front, comma, rfl, readFront⟩ := first afterComma (ds ++ rest) (ends.append stops)
  obtain ⟨back, last, rfl, readBack⟩ := second comma rest stops
  refine ⟨front ++ back, last, List.map_append, ?_⟩
  rw [List.append_assoc, readFront, readBack, Option.map_map]
  simp only [Function.comp_def, List.append_assoc]

/-- A text that is one token. -/
theorem of_readOne {cs : List Char} {token : Token}
    (read : ∀ rest, Ends rest → readOne (cs ++ rest) = some (token, rest)) :
    Spells cs [token] := fun afterComma rest ends =>
  ⟨[⟨token, afterComma⟩], false, rfl, lexemes?_of_readOne (read rest ends) afterComma⟩

/-- A punctuator needs nothing that ends it. -/
theorem punctuator {c : Char} {cs : List Char} {tokens : List Token} {mark : Punctuator}
    (written : Punctuator.ofChar? c = some mark) (spells : Spells cs tokens) :
    Spells (c :: cs) (.punctuator mark :: tokens) := by
  intro afterComma rest ends
  obtain ⟨lexemes, comma, rfl, read⟩ := spells false rest ends
  refine ⟨⟨.punctuator mark, afterComma⟩ :: lexemes, comma, rfl, ?_⟩
  rw [List.cons_append, lexemes?_of_readOne (readOne_punctuator _ written), read, Option.map_map]
  rfl

theorem ignored {c : Char} {cs : List Char} {tokens : List Token} (isIgnored : isIgnored c = true)
    (spells : Spells cs tokens) : Spells (c :: cs) tokens := by
  intro afterComma rest ends
  rw [List.cons_append, lexemes?_ignored isIgnored]
  exact spells afterComma rest ends

theorem comma {cs : List Char} {tokens : List Token} (spells : Spells cs tokens) :
    Spells (',' :: cs) tokens := by
  intro afterComma rest ends
  rw [List.cons_append, lexemes?_comma]
  exact spells true rest ends

/-- One more text in front of texts with commas between them. -/
theorem commaSeparated {text : String} {texts : List String} {tokens others : List Token}
    (first : Spells text.toList tokens)
    (behind : Spells (", ".intercalate texts).toList others) :
    Spells (", ".intercalate (text :: texts)).toList (tokens ++ others) := by
  cases texts with
  | nil =>
      rw [behind.eq_nil, List.append_nil]
      exact first
  | cons next texts =>
      rw [String.intercalate_cons_cons, String.toList_append, String.toList_append,
        List.append_assoc]
      exact first.append (comma (ignored rfl behind)) ((ends_cons _ _).2 (by decide))

end Spells

end Token

open Token (Spells ends_cons ends_nil)

namespace Name

theorem spells (name : Name) : Spells name.text.toList [.name name] :=
  Spells.of_readOne fun _ ends => Token.readOne_name name ends

end Name

/-! ## Values -/

namespace Value

mutual

/-- The tokens of a value. -/
def tokens : Value → List Token
  | .null => [.name ⟨"null", by decide⟩]
  | .boolean true => [.name ⟨"true", by decide⟩]
  | .boolean false => [.name ⟨"false", by decide⟩]
  | .int literal => [.int literal]
  | .float literal => [.float literal]
  | .string text => [.string text]
  | .enumerated name => [.name name]
  | .variable name => [.punctuator .dollar, .name name]
  | .list items => .punctuator .openBracket :: (tokensAll items ++ [.punctuator .closeBracket])
  | .object fields => .punctuator .openBrace :: (tokensIn fields ++ [.punctuator .closeBrace])

/-- The tokens of some values. -/
def tokensAll : List Value → List Token
  | [] => []
  | item :: rest => item.tokens ++ tokensAll rest

/-- The tokens of some fields. -/
def tokensIn : List (Name × Value) → List Token
  | [] => []
  | (name, value) :: rest => .name name :: .punctuator .colon :: (value.tokens ++ tokensIn rest)

end

/-- A text between two punctuators. -/
theorem spells_between {text : String} {tokens : List Token} {c d : Char}
    {opening closing : Punctuator} (opens : Punctuator.ofChar? c = some opening)
    (closes : Punctuator.ofChar? d = some closing) (ends : Token.isDelimiter d = true)
    (inside : Spells text.toList tokens) :
    Spells (c :: (text.toList ++ [d]))
      (.punctuator opening :: (tokens ++ [.punctuator closing])) :=
  Spells.punctuator opens
    (inside.append (Spells.punctuator closes Spells.nil) ((ends_cons _ _).2 ends))

mutual

/-- A value is written as its tokens. -/
theorem spells : (value : Value) → Spells value.text.toList value.tokens
  | .null => Name.spells ⟨"null", by decide⟩
  | .boolean true => Name.spells ⟨"true", by decide⟩
  | .boolean false => Name.spells ⟨"false", by decide⟩
  | .int literal => Spells.of_readOne fun _ ends => Token.readOne_int literal ends
  | .float literal => Spells.of_readOne fun _ ends => Token.readOne_float literal ends
  | .string text => Spells.of_readOne fun _ ends => Token.readOne_quotedString text ends
  | .enumerated name => name.spells
  | .variable name => by
      rw [text, String.toList_append]
      exact Spells.punctuator rfl name.spells
  | .list items => by
      rw [text, String.toList_append, String.toList_append, List.append_assoc]
      exact spells_between rfl rfl (by decide) (spellsAll items)
  | .object fields => by
      rw [text, String.toList_append, String.toList_append, List.append_assoc]
      exact spells_between rfl rfl (by decide) (spellsIn fields)

theorem spellsAll : (items : List Value) →
    Spells (", ".intercalate (textAll items)).toList (tokensAll items)
  | [] => Spells.nil
  | item :: rest => Spells.commaSeparated item.spells (spellsAll rest)

theorem spellsIn : (fields : List (Name × Value)) →
    Spells (", ".intercalate (textIn fields)).toList (tokensIn fields)
  | [] => Spells.nil
  | (name, value) :: rest => by
      have field : Spells (name.text ++ ": " ++ value.text).toList
          (.name name :: .punctuator .colon :: value.tokens) := by
        rw [String.toList_append, String.toList_append, List.append_assoc]
        exact name.spells.append (Spells.punctuator rfl (Spells.ignored rfl value.spells))
          ((ends_cons _ _).2 (by decide))
      exact Spells.commaSeparated field (spellsIn rest)

end

end Value

/-! ## References to types -/

namespace TypeReference

/-- The token of the mark of a non-null layer. -/
def markTokens (isNonNull : Bool) : List Token :=
  if isNonNull then [.punctuator .bang] else []

/-- The tokens of a reference. -/
def tokens : TypeReference → List Token
  | named name isNonNull => .name name :: markTokens isNonNull
  | list item isNonNull =>
      .punctuator .openBracket ::
        (item.tokens ++ .punctuator .closeBracket :: markTokens isNonNull)

theorem spells_mark (isNonNull : Bool) :
    Spells (mark isNonNull).toList (markTokens isNonNull) ∧
      Token.Ends (mark isNonNull).toList := by
  cases isNonNull with
  | false => exact ⟨Spells.nil, ends_nil⟩
  | true => exact ⟨Spells.punctuator rfl Spells.nil, (ends_cons _ _).2 (by decide)⟩

/-- A reference is written as its tokens. -/
theorem spells (reference : TypeReference) : Spells reference.text.toList reference.tokens := by
  induction reference with
  | named name isNonNull =>
      rw [text, String.toList_append]
      exact name.spells.append (spells_mark isNonNull).1 (spells_mark isNonNull).2
  | list item isNonNull ih =>
      rw [text, String.toList_append, String.toList_append, String.toList_append,
        List.append_assoc, List.append_assoc]
      exact Spells.punctuator rfl (ih.append (Spells.punctuator rfl (spells_mark isNonNull).1)
        ((ends_cons _ _).2 (by decide)))

end TypeReference

/-! ## Applied directives -/

namespace Directive

/-- The tokens of arguments between parentheses. -/
def argumentTokens (arguments : List (Name × Value)) : List Token :=
  if arguments.isEmpty then []
  else .punctuator .openParen :: (Value.tokensIn arguments ++ [.punctuator .closeParen])

/-- The tokens of an applied directive. -/
def tokens (directive : Directive) : List Token :=
  .punctuator .atSign :: .name directive.name :: argumentTokens directive.arguments

/-- An applied directive is written as its tokens. -/
theorem spells (directive : Directive) : Spells directive.text.toList directive.tokens := by
  rw [text, String.toList_append, String.toList_append, List.append_assoc, tokens,
    argumentTokens]
  by_cases none : directive.arguments.isEmpty = true
  · rw [if_pos none, if_pos none]
    exact Spells.punctuator rfl (directive.name.spells.append Spells.nil ends_nil)
  · rw [if_neg none, if_neg none, String.toList_append, String.toList_append, List.append_assoc]
    refine Spells.punctuator rfl
      (directive.name.spells.append ?_ ((ends_cons _ _).2 (by decide)))
    exact Value.spells_between rfl rfl (by decide) (Value.spellsIn directive.arguments)

end Directive

end Subgraph
