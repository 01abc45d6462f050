import Subgraph.Proofs.Language.Reading
import Subgraph.Proofs.Language.Value

/-!
# Reading written directives

* `arguments_append` reads constant arguments between parentheses, or that there
  are none.
* `directives_append` reads applied directives, up to something that goes on
  with none.
-/

namespace Subgraph

open Lexeme (next)

namespace Value

/-- A value that is read back from its text with some levels inside it. -/
def FitsIn (levels : Nat) (value : Value) : Prop :=
  value.isConstant = true ∧ value.depth ≤ levels

theorem FitsIn.value_append {levels : Nat} {value : Value} (fits : value.FitsIn levels)
    {lexemes : List Lexeme} (same : lexemes.map Lexeme.token = value.tokens) (constant : Bool)
    (rest : List Lexeme) :
    Reading.value constant levels (lexemes ++ rest) = some (value, rest) := by
  rw [Value.value_append value constant levels rest same fits.1, if_pos fits.2]

/-- The tokens of a field with its value. -/
def fieldTokens (field : Name × Value) : List Token :=
  .name field.1 :: .punctuator .colon :: field.2.tokens

theorem tokensIn_eq_flatMap (fields : List (Name × Value)) :
    tokensIn fields = fields.flatMap fieldTokens := by
  induction fields with
  | nil => rfl
  | cons field fields ih =>
      rw [tokensIn, ih]
      rfl

end Value

/-- A directive that is read back from its text with some levels inside its arguments. -/
def Directive.FitsIn (levels : Nat) (directive : Directive) : Prop :=
  ∀ argument ∈ directive.arguments, argument.2.FitsIn levels

namespace Reading

variable {constant : Bool} {levels : Nat} {lexemes rest : List Lexeme}

/-- An argument is a name and its value. -/
theorem argument_cons (found : Name) (comma colonComma : Bool) (tokens : List Lexeme) :
    argument constant levels
        (⟨.name found, comma⟩ :: ⟨.punctuator .colon, colonComma⟩ :: tokens) =
      (value constant levels tokens).map fun (item, rest) => (some (found, item), rest) := by
  rw [argument, bind_of_eq (name_cons found comma _),
    bind_of_eq (takes_cons .colon colonComma tokens), if_pos rfl, bind_apply]
  cases value constant levels tokens <;> rfl

theorem arguments_append {fields : List (Name × Value)}
    (fits : ∀ field ∈ fields, field.2.FitsIn levels)
    (same : lexemes.map Lexeme.token = Directive.argumentTokens fields)
    (stops : next rest ≠ some (.punctuator .openParen)) :
    arguments constant levels (lexemes ++ rest) = some (fields, rest) := by
  rw [arguments]
  cases fields with
  | nil =>
      rw [List.map_eq_nil_iff.1 same, List.nil_append,
        bind_of_eq (optionalBetween_of_next_ne stops)]
      rfl
  | cons field fields =>
      obtain ⟨_, _, rfl, behind⟩ := Lexeme.of_map_token_eq_cons same
      obtain ⟨inside, _, rfl, spelled, closes⟩ := List.map_eq_append_iff.1 behind
      obtain ⟨comma, rfl⟩ := Lexeme.of_map_token_eq_singleton closes
      rw [Value.tokensIn_eq_flatMap] at spelled
      have reads := itemsUntil_append .closeParen (argument constant levels)
        Value.fieldTokens some (field :: fields) (List.cons_ne_nil _ _)
        (fun _ _ => ⟨_, _, rfl⟩) (fun entry member lexemes rest same _ => by
          obtain ⟨_, _, rfl, afterName⟩ := Lexeme.of_map_token_eq_cons same
          obtain ⟨_, _, rfl, afterColon⟩ := Lexeme.of_map_token_eq_cons afterName
          rw [List.cons_append, List.cons_append, argument_cons,
            (fits entry member).value_append afterColon]
          rfl) spelled comma rest
      rw [List.cons_append, List.append_assoc, List.singleton_append,
        bind_of_eq ((optionalBetween_cons _).trans reads)]
      simp

/-- An applied directive is read back, after its sign. -/
theorem directive_append {applied : Directive} (fits : applied.FitsIn levels)
    (same : lexemes.map Lexeme.token =
      .name applied.name :: Directive.argumentTokens applied.arguments)
    (stops : next rest ≠ some (.punctuator .openParen)) :
    directive constant levels (lexemes ++ rest) = some (applied, rest) := by
  obtain ⟨comma, behind, rfl, spelled⟩ := Lexeme.of_map_token_eq_cons same
  rw [List.cons_append, directive, bind_of_eq (name_cons applied.name comma _),
    bind_of_eq (arguments_append fits spelled stops)]
  rfl

/-- Applied directives are read back before those that follow them. -/
theorem directives_append {applied others : List Directive} {tail : List Lexeme}
    (fits : ∀ directive ∈ applied, directive.FitsIn levels)
    (same : lexemes.map Lexeme.token = applied.flatMap Directive.tokens)
    (noParen : next tail ≠ some (.punctuator .openParen))
    (behind : directives constant levels tail = some (others, rest)) :
    directives constant levels (lexemes ++ tail) = some (applied ++ others, rest) := by
  have reads := afterSeparators_append_of_eq .atSign (directive constant levels)
    (fun directive : Directive =>
      .name directive.name :: Directive.argumentTokens directive.arguments)
    id applied (fun directive member lexemes after same follows =>
      directive_append (fits directive member) same (by
        rcases follows with sign | last
        · rw [sign]
          simp
        · rwa [last])) behind same
  rwa [List.map_id] at reads

end Reading

end Subgraph
