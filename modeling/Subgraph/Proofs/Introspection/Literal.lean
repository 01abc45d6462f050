import Subgraph.Proofs.Introspection.SingleArgument

/-!
# Values as literals

A value that is written on one line in the place of an argument is the value
again.  The braces of the query around it take one of the levels that a value may
be nested.
-/

namespace Subgraph

open Token (Spells ends_cons)

namespace Value

/-- The tokens of a query whose only argument is a value. -/
def queryTokens (value : Value) : List Token :=
  .punctuator .openBrace :: .name ⟨"default", by decide⟩ :: .punctuator .openParen ::
    .name ⟨"value", by decide⟩ :: .punctuator .colon ::
    (value.tokens ++ [.punctuator .closeParen, .punctuator .closeBrace])

theorem spells_query (value : Value) :
    Spells ("\x7b default(value: " ++ value.text ++ ") \x7d").toList value.queryTokens := by
  have closes : Spells ") \x7d".toList [.punctuator .closeParen, .punctuator .closeBrace] :=
    Spells.punctuator rfl (Spells.ignored rfl (Spells.punctuator rfl Spells.nil))
  have argument : Spells (": ".toList ++ (value.text.toList ++ ") \x7d".toList))
      (.punctuator .colon ::
        (value.tokens ++ [.punctuator .closeParen, .punctuator .closeBrace])) :=
    Spells.punctuator rfl (Spells.ignored rfl
      (value.spells.append closes ((ends_cons _ _).2 (by decide))))
  have named := (Name.spells ⟨"value", by decide⟩).append argument
    ((ends_cons _ _).2 (by decide))
  have field := (Name.spells ⟨"default", by decide⟩).append (Spells.punctuator (c := '(') rfl named)
    ((ends_cons _ _).2 (by decide))
  rw [String.toList_append, String.toList_append, List.append_assoc]
  exact Spells.punctuator rfl (Spells.ignored rfl field)

/-- A query with one argument is read as the value of the argument. -/
theorem definitions_query (value : Value) (isConstant : value.isConstant = true)
    {lexemes : List Lexeme} (same : lexemes.map Lexeme.token = value.queryTokens) :
    Reading.definitions lexemes >>= Document.onlyArgument? =
      if value.depth < Reading.nestingLimit then some value else none := by
  obtain ⟨braceComma, _, rfl, afterBrace⟩ := Lexeme.of_map_token_eq_cons same
  obtain ⟨fieldComma, _, rfl, afterField⟩ := Lexeme.of_map_token_eq_cons afterBrace
  obtain ⟨parenComma, _, rfl, afterParen⟩ := Lexeme.of_map_token_eq_cons afterField
  obtain ⟨nameComma, _, rfl, afterName⟩ := Lexeme.of_map_token_eq_cons afterParen
  obtain ⟨colonComma, _, rfl, afterColon⟩ := Lexeme.of_map_token_eq_cons afterName
  obtain ⟨inside, _, rfl, spelled, closes⟩ := List.map_eq_append_iff.1 afterColon
  obtain ⟨closeComma, _, rfl, afterClose⟩ := Lexeme.of_map_token_eq_cons closes
  obtain ⟨lastComma, rfl⟩ := Lexeme.of_map_token_eq_singleton afterClose
  have read := value_append value false 499
    [⟨.punctuator .closeParen, closeComma⟩, ⟨.punctuator .closeBrace, lastComma⟩] spelled isConstant
  by_cases fits : value.depth < Reading.nestingLimit
  · rw [if_pos (Nat.le_of_lt_succ fits)] at read
    have noDirectives : Reading.directives false 499 [⟨.punctuator .closeBrace, lastComma⟩] =
        some ([], [⟨.punctuator .closeBrace, lastComma⟩]) :=
      Reading.afterSeparators_of_next_ne (by simp)
    rw [if_pos fits]
    exact Document.onlyArgument?_definitions_iff.2 ⟨_, _, [], [],
      Reading.arguments_eq_single_iff.2 ⟨rfl, [], closeComma, ⟨[], rfl⟩, read⟩,
      _, lastComma, noDirectives, Or.inl ⟨rfl, rfl⟩⟩
  · rw [if_neg fun most => fits (Nat.lt_succ_of_le most)] at read
    rw [if_neg fits]
    refine Option.eq_none_iff_forall_ne_some.2 fun other found => ?_
    obtain ⟨_, _, _, _, argued, _⟩ := Document.onlyArgument?_definitions_iff.1 found
    obtain ⟨_, _, _, _, valued⟩ := Reading.arguments_eq_single_iff.1 argued
    cases read.symm.trans valued

/-- A constant value is the value of its text exactly when the braces around it leave enough
levels. -/
theorem ofLiteral?_text (value : Value) (isConstant : value.isConstant = true) :
    ofLiteral? value.text = if value.depth < Reading.nestingLimit then some value else none := by
  obtain ⟨lexemes, same, read⟩ := value.spells_query.lexemes?_eq false
  rw [ofLiteral?, Document.ofText?, Token.ofText?, read]
  exact definitions_query value isConstant same

end Value

end Subgraph
