import Subgraph.Federated.Sdl
import Subgraph.Proofs.Language.Locality

/-!
# Reading written fields

The fields and arguments of a federated schema are read back, each field with
the directives of its options.

* `Reading.Lists` says of some tokens that they list directives.
* `inputValueDefinition_append` and `fieldDefinition_append` read an input field
  and a field in front of what may stand behind one.
-/

namespace Subgraph

open Lexeme (next)

/-! ## References to types -/

namespace TypeReference

/-- How many lists a reference is nested in. -/
def depth : TypeReference → Nat
  | named _ _ => 0
  | list item _ => item.depth + 1

end TypeReference

namespace Reading

variable {levels : Nat} {lexemes rest : List Lexeme}

theorem typeReference_named (name : Name) (isNonNull : Bool)
    (same : lexemes.map Lexeme.token = .name name :: TypeReference.markTokens isNonNull)
    (noBang : next rest ≠ some (.punctuator .bang)) :
    typeReference levels (lexemes ++ rest) = some (.named name isNonNull, rest) := by
  obtain ⟨comma, marks, rfl, marked⟩ := Lexeme.of_map_token_eq_cons same
  cases isNonNull with
  | true =>
      obtain ⟨_, rfl⟩ := Lexeme.of_map_token_eq_singleton marked
      rw [List.cons_append, List.singleton_append, typeReference]
  | false =>
      rw [List.map_eq_nil_iff.1 marked, List.singleton_append, typeReference]
      rintro comma tail rfl
      exact noBang rfl

/-- A reference is read back exactly when the reader goes as deep as it is nested. -/
theorem typeReference_append (reference : TypeReference)
    (same : lexemes.map Lexeme.token = reference.tokens)
    (noBang : next rest ≠ some (.punctuator .bang)) :
    typeReference levels (lexemes ++ rest) =
      if reference.depth ≤ levels then some (reference, rest) else none := by
  induction reference generalizing levels lexemes rest with
  | named name isNonNull =>
      rw [typeReference_named name isNonNull same noBang]
      rfl
  | list item isNonNull ih =>
      obtain ⟨comma, _, rfl, behind⟩ := Lexeme.of_map_token_eq_cons same
      obtain ⟨inside, _, rfl, spelled, closes⟩ := List.map_eq_append_iff.1 behind
      obtain ⟨closeComma, marks, rfl, marked⟩ := Lexeme.of_map_token_eq_cons closes
      rw [List.cons_append, List.append_assoc, List.cons_append, TypeReference.depth]
      cases levels with
      | zero => rw [typeReference, if_neg (Nat.not_succ_le_zero _)]
      | succ inner =>
          rw [typeReference, ih spelled (by simp)]
          by_cases fits : item.depth ≤ inner
          · rw [if_pos fits, if_pos (Nat.succ_le_succ fits)]
            cases isNonNull with
            | true =>
                obtain ⟨_, rfl⟩ := Lexeme.of_map_token_eq_singleton marked
                rfl
            | false =>
                rw [List.map_eq_nil_iff.1 marked, List.nil_append]
                simp only [Option.bind_eq_bind, Option.bind_some]
                split
                next begins =>
                    cases begins
                    exact absurd rfl noBang
                next begins =>
                    cases begins
                    rfl
                next _ none => exact absurd rfl (none _ _)
          · rw [if_neg fits, if_neg fun deep => fits (Nat.le_of_succ_le_succ deep)]
            rfl

theorem typeReference_append_of_le {reference : TypeReference} (fits : reference.depth ≤ levels)
    (same : lexemes.map Lexeme.token = reference.tokens)
    (noBang : next rest ≠ some (.punctuator .bang)) :
    typeReference levels (lexemes ++ rest) = some (reference, rest) := by
  rw [typeReference_append reference same noBang, if_pos fits]

/-! ## Lists of directives -/

/-- Some tokens are those of a list of directives, whatever stands behind and goes on with no
directive. -/
structure Lists (tokens : List Token) (directives : List Directive) : Prop where
  begins : ∀ token ∈ tokens.head?, token = .punctuator .atSign
  reads : ∀ {lexemes rest : List Lexeme}, lexemes.map Lexeme.token = tokens →
    next rest ≠ some (.punctuator .atSign) → next rest ≠ some (.punctuator .openParen) →
    constantDirectives (lexemes ++ rest) = some (directives, rest)

namespace Lists

theorem nil : Lists [] [] where
  begins := by
    intro token member
    cases member
  reads := by
    intro lexemes rest same noSign _
    rw [List.map_eq_nil_iff.1 same]
    exact afterSeparators_of_next_ne noSign

variable {tokens : List Token} {applied : List Directive}

/-- In front of what goes on with no directive, there is the sign of one or nothing. -/
theorem next_append (lists : Lists tokens applied) (same : lexemes.map Lexeme.token = tokens)
    (rest : List Lexeme) :
    next (lexemes ++ rest) = some (.punctuator .atSign) ∨ next (lexemes ++ rest) = next rest := by
  cases tokens with
  | nil =>
      rw [List.map_eq_nil_iff.1 same]
      exact Or.inr rfl
  | cons token tokens =>
      cases lists.begins token rfl
      exact Or.inl (Lexeme.next_append same)

/-- What is no sign of a directive comes next only where it comes next behind the list. -/
theorem next_append_ne (lists : Lists tokens applied) (same : lexemes.map Lexeme.token = tokens)
    {token : Token} (noSign : token ≠ .punctuator .atSign) (other : next rest ≠ some token) :
    next (lexemes ++ rest) ≠ some token := by
  rcases lists.next_append same rest with sign | behind
  · rw [sign]
    exact fun equal => noSign (Option.some.inj equal).symm
  · rwa [behind]

/-- Directives with known arguments stand in front of a list. -/
theorem append {directives : List Directive} (lists : Lists tokens applied)
    (fits : ∀ directive ∈ directives, directive.FitsIn nestingLimit) :
    Lists (directives.flatMap Directive.tokens ++ tokens) (directives ++ applied) where
  begins := by
    cases directives with
    | nil => exact lists.begins
    | cons directive directives =>
        intro token member
        cases member
        rfl
  reads := by
    intro lexemes rest same noSign noParen
    obtain ⟨front, back, rfl, first, second⟩ := List.map_eq_append_iff.1 same
    have noParenNext : next (back ++ rest) ≠ some (.punctuator .openParen) :=
      lists.next_append_ne second (by simp) noParen
    rw [List.append_assoc]
    exact directives_append fits first noParenNext (lists.reads second noSign noParen)

end Lists

/-! ## Arguments and input fields -/

/-- A token that goes on with no field. -/
def Pauses (token : Option Token) : Prop :=
  ∀ mark ∈ [Punctuator.bang, .equals, .atSign, .openParen], token ≠ some (.punctuator mark)

theorem pauses_of_closing {token : Option Token} {closing : Punctuator}
    (mark : closing = .closeParen ∨ closing = .closeBrace)
    (follows : token = some (.punctuator closing) ∨ ∃ found, token = some (.name found)) :
    Pauses token := by
  intro other member same
  rcases follows with rfl | ⟨found, rfl⟩
  · cases same
    rcases mark with rfl | rfl <;> exact absurd member (by decide)
  · cases same

end Reading

/-- The tokens of a default. -/
def defaultTokens : Option Value → List Token
  | some value => .punctuator .equals :: value.tokens
  | none => []

namespace InputDeclaration

/-- The tokens of an argument or an input field. -/
def tokens (input : InputDeclaration) : List Token :=
  .name input.name :: .punctuator .colon :: (input.type.tokens ++ defaultTokens input.defaultValue)

/-- The definition of an argument or an input field, with some directives. -/
def definition (input : InputDeclaration) (directives : List Directive) :
    InputValueDefinition where
  name := input.name
  type := input.type
  defaultValue := input.defaultValue
  directives := directives

/-- What can be read back of an argument or an input field: a constant default, and nothing too
deep. -/
structure IsReadable (input : InputDeclaration) : Prop where
  type : input.type.depth ≤ Reading.nestingLimit
  defaultValue : ∀ value ∈ input.defaultValue, value.FitsIn Reading.nestingLimit

end InputDeclaration

namespace Reading

variable {lexemes rest : List Lexeme} {listed : List Token} {applied : List Directive}

theorem defaultValue?_append {default : Option Value}
    (fits : ∀ value ∈ default, value.FitsIn nestingLimit)
    (same : lexemes.map Lexeme.token = defaultTokens default)
    (noEquals : next rest ≠ some (.punctuator .equals)) :
    defaultValue? (lexemes ++ rest) = some (default, rest) := by
  cases default with
  | none =>
      rw [List.map_eq_nil_iff.1 same, List.nil_append, defaultValue?,
        bind_of_eq (takes_of_next_ne noEquals)]
      rfl
  | some value =>
      obtain ⟨comma, inside, rfl, spelled⟩ := Lexeme.of_map_token_eq_cons same
      rw [List.cons_append, defaultValue?, bind_of_eq (takes_cons .equals comma _), if_pos rfl,
        bind_of_eq ((fits value rfl).value_append spelled true rest)]
      rfl

/-- An argument or an input field is read back, with the directives listed behind it. -/
theorem inputValueDefinition_append {input : InputDeclaration} (readable : input.IsReadable)
    (lists : Lists listed applied)
    (same : lexemes.map Lexeme.token = input.tokens ++ listed) (pauses : Pauses (next rest)) :
    inputValueDefinition (lexemes ++ rest) = some (input.definition applied, rest) := by
  rw [InputDeclaration.tokens, List.cons_append, List.cons_append, List.append_assoc] at same
  obtain ⟨comma, _, rfl, afterName⟩ := Lexeme.of_map_token_eq_cons same
  obtain ⟨colonComma, _, rfl, afterColon⟩ := Lexeme.of_map_token_eq_cons afterName
  obtain ⟨type, _, rfl, typed, afterType⟩ := List.map_eq_append_iff.1 afterColon
  obtain ⟨default, last, rfl, given, directed⟩ := List.map_eq_append_iff.1 afterType
  have noEquals : next (last ++ rest) ≠ some (.punctuator .equals) :=
    lists.next_append_ne directed (by simp) (pauses .equals (by decide))
  have noBang : next (default ++ (last ++ rest)) ≠ some (.punctuator .bang) := by
    cases same : input.defaultValue with
    | some value =>
        rw [same] at given
        rw [Lexeme.next_append given]
        simp
    | none =>
        rw [same] at given
        rw [List.map_eq_nil_iff.1 given, List.nil_append]
        exact lists.next_append_ne directed (by simp) (pauses .bang (by decide))
  have typeRead := typeReference_append_of_le readable.type typed noBang
  simp only [List.cons_append, List.append_assoc]
  rw [inputValueDefinition, bind_of_eq (string?_of_name rfl),
    bind_of_eq (name_cons input.name comma _), bind_of_eq (expect_cons .colon colonComma _),
    bind_of_eq typeRead, bind_of_eq (defaultValue?_append readable.defaultValue given noEquals),
    bind_of_eq (lists.reads directed (pauses .atSign (by decide)) (pauses .openParen (by decide)))]
  rfl

end Reading

/-! ## Fields -/

namespace FieldDeclaration

/-- The tokens of arguments between parentheses. -/
def argumentTokens (arguments : List InputDeclaration) : List Token :=
  if arguments.isEmpty then []
  else .punctuator .openParen ::
    (arguments.flatMap InputDeclaration.tokens ++ [.punctuator .closeParen])

/-- The tokens of a field. -/
def tokens (field : FieldDeclaration) : List Token :=
  .name field.name ::
    (argumentTokens field.arguments ++ .punctuator .colon :: field.type.tokens)

/-- The definition of a field, with some directives. -/
def definition (field : FieldDeclaration) (directives : List Directive) : FieldDefinition where
  name := field.name
  arguments := field.arguments.map fun argument => argument.definition []
  type := field.type
  directives := directives

/-- What can be read back of a field. -/
structure IsReadable (field : FieldDeclaration) : Prop where
  type : field.type.depth ≤ Reading.nestingLimit
  arguments : ∀ argument ∈ field.arguments, argument.IsReadable

end FieldDeclaration

namespace Reading

variable {lexemes rest : List Lexeme} {listed : List Token} {applied : List Directive}

theorem argumentDefinitions_append {arguments : List InputDeclaration}
    (readable : ∀ argument ∈ arguments, argument.IsReadable)
    (same : lexemes.map Lexeme.token = FieldDeclaration.argumentTokens arguments)
    (noParen : next rest ≠ some (.punctuator .openParen)) :
    argumentDefinitions (lexemes ++ rest) =
      some (arguments.map fun argument => argument.definition [], rest) := by
  cases arguments with
  | nil =>
      rw [List.map_eq_nil_iff.1 same]
      exact optionalBetween_of_next_ne noParen
  | cons argument arguments =>
      obtain ⟨_, _, rfl, behind⟩ := Lexeme.of_map_token_eq_cons same
      obtain ⟨inside, _, rfl, spelled, closes⟩ := List.map_eq_append_iff.1 behind
      obtain ⟨comma, rfl⟩ := Lexeme.of_map_token_eq_singleton closes
      rw [List.cons_append, List.append_assoc, List.singleton_append, argumentDefinitions,
        optionalBetween_cons]
      refine itemsUntil_append .closeParen inputValueDefinition InputDeclaration.tokens
        (fun argument => argument.definition []) (argument :: arguments) (List.cons_ne_nil _ _)
        (fun _ _ => ⟨_, _, rfl⟩) (fun input member lexemes rest same follows => ?_) spelled comma
        rest
      refine inputValueDefinition_append (readable input member) Lists.nil ?_
        (pauses_of_closing (Or.inl rfl) follows)
      rw [same, List.append_nil]

/-- A field is read back, with the directives listed behind it. -/
theorem fieldDefinition_append {field : FieldDeclaration} (readable : field.IsReadable)
    (lists : Lists listed applied)
    (same : lexemes.map Lexeme.token = field.tokens ++ listed) (pauses : Pauses (next rest)) :
    fieldDefinition (lexemes ++ rest) = some (field.definition applied, rest) := by
  rw [FieldDeclaration.tokens, List.cons_append, List.append_assoc, List.cons_append] at same
  obtain ⟨comma, _, rfl, afterName⟩ := Lexeme.of_map_token_eq_cons same
  obtain ⟨arguments, _, rfl, given, afterArguments⟩ := List.map_eq_append_iff.1 afterName
  obtain ⟨colonComma, _, rfl, afterColon⟩ := Lexeme.of_map_token_eq_cons afterArguments
  obtain ⟨type, last, rfl, typed, directed⟩ := List.map_eq_append_iff.1 afterColon
  have noBang : next (last ++ rest) ≠ some (.punctuator .bang) :=
    lists.next_append_ne directed (by simp) (pauses .bang (by decide))
  have typeRead := typeReference_append_of_le readable.type typed noBang
  simp only [List.cons_append, List.append_assoc]
  rw [fieldDefinition, bind_of_eq (string?_of_name rfl), bind_of_eq (name_cons field.name comma _),
    bind_of_eq (argumentDefinitions_append readable.arguments given (by simp)),
    bind_of_eq (expect_cons .colon colonComma _), bind_of_eq typeRead,
    bind_of_eq (lists.reads directed (pauses .atSign (by decide)) (pauses .openParen (by decide)))]
  rfl

end Reading

/-! ## Texts -/

open Token (Spells ends_cons ends_nil)

theorem spells_defaultText (default : Option Value) :
    Spells (defaultText default).toList (defaultTokens default) ∧
      Token.Ends (defaultText default).toList := by
  cases default with
  | none => exact ⟨Spells.nil, ends_nil⟩
  | some value =>
      rw [defaultText, String.toList_append]
      exact ⟨Spells.ignored rfl (Spells.punctuator rfl (Spells.ignored rfl value.spells)),
        (ends_cons _ _).2 (by decide)⟩

/-- An argument or an input field is written as its tokens. -/
theorem InputDeclaration.spells (input : InputDeclaration) :
    Spells input.text.toList input.tokens := by
  obtain ⟨default, ends⟩ := spells_defaultText input.defaultValue
  rw [text, String.toList_append, String.toList_append, String.toList_append, List.append_assoc,
    List.append_assoc]
  exact input.name.spells.append
    (Spells.punctuator rfl (Spells.ignored rfl (input.type.spells.append default ends)))
    ((ends_cons _ _).2 (by decide))

theorem InputDeclaration.spellsAll (inputs : List InputDeclaration) :
    Spells (", ".intercalate (inputs.map InputDeclaration.text)).toList
      (inputs.flatMap InputDeclaration.tokens) := by
  induction inputs with
  | nil => exact Spells.nil
  | cons input inputs ih => exact Spells.commaSeparated input.spells ih

/-- A field is written as its tokens. -/
theorem FieldDeclaration.spells (field : FieldDeclaration) :
    Spells field.text.toList field.tokens := by
  have typed : Spells (": ".toList ++ field.type.text.toList)
      (.punctuator .colon :: field.type.tokens) :=
    Spells.punctuator rfl (Spells.ignored rfl field.type.spells)
  have ends : Token.Ends (": ".toList ++ field.type.text.toList) := (ends_cons _ _).2 (by decide)
  rw [text, String.toList_append, String.toList_append, String.toList_append, List.append_assoc,
    List.append_assoc, tokens, argumentTokens]
  by_cases none : field.arguments.isEmpty = true
  · rw [if_pos none, if_pos none]
    exact field.name.spells.append typed ends
  · rw [if_neg none, if_neg none, String.toList_append, String.toList_append]
    have between := (Value.spells_between (c := '(') (d := ')') rfl rfl (by decide)
      (InputDeclaration.spellsAll field.arguments)).append typed ends
    have whole := field.name.spells.append (Spells.ignored (c := ' ') rfl between)
      ((ends_cons _ _).2 (by decide))
    simpa using whole

end Subgraph
