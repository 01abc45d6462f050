import Subgraph.Proofs.Federated.OptionText
import Subgraph.Proofs.OrderedMap

/-!
# Reading written declarations

What stands behind the word of a declaration is written as tokens, and those are
read back as the definition that stands for the declaration under its options.

* `Declaration.typeDefinition` is that definition, with the directives of the
  type before those of the options, and in each field only those of the options.
* `DeclarationBody.part_append` reads directives and a body, and
  `Declaration.spells` is about their text.
-/

namespace Subgraph

open Lexeme (next)

/-! ## Definitions -/

namespace TypeOptions

/-- The text of the directives that a field gets. -/
def givenTo (options : TypeOptions) (field : Name) : Option String :=
  (options.fields.find? field.text).bind (·.directives)

/-- The directives that a field gets. -/
def directivesOf (options : TypeOptions) (field : Name) : List Directive :=
  optionDirectives (options.givenTo field)

/-- Options in which every text of directives lists directives. -/
structure IsListed (options : TypeOptions) : Prop where
  type : ListsDirectives options.directives
  fields : ∀ entry ∈ options.fields.entries, ListsDirectives entry.2.directives

theorem isListed_iff (options : TypeOptions) :
    options.IsListed ↔ ListsDirectives options.directives ∧
      ∀ entry ∈ options.fields.entries, ListsDirectives entry.2.directives :=
  ⟨fun listed => ⟨listed.type, listed.fields⟩, fun both => ⟨both.1, both.2⟩⟩

instance (options : TypeOptions) : Decidable options.IsListed :=
  decidable_of_iff _ options.isListed_iff.symm

theorem IsListed.givenTo {options : TypeOptions} (listed : options.IsListed) (field : Name) :
    ListsDirectives (options.givenTo field) := by
  intro text member
  obtain ⟨found, same, given⟩ := Option.bind_eq_some_iff.1 member
  exact listed.fields _ (Assoc.mem_of_find? same) text given

theorem isListed_default : IsListed {} where
  type := by
    intro text member
    cases member
  fields := by
    intro entry member
    cases member

end TypeOptions

/-- Whether a name is read as a literal. -/
def Name.IsLiteral (name : Name) : Prop :=
  name.text = "true" ∨ name.text = "false" ∨ name.text = "null"

namespace DeclarationBody

theorem isValid_keyword (body : DeclarationBody) : Name.isValid body.keyword.toList = true := by
  cases body <;> simp only [keyword] <;> decide

/-- The word of a declaration, as a name. -/
def word (body : DeclarationBody) : Name := ⟨body.keyword, body.isValid_keyword⟩

/-- What a body adds to a definition under options. -/
def typeBody (options : TypeOptions) : DeclarationBody → TypeBody
  | object fields =>
      .object [] (fields.map fun field => field.definition (options.directivesOf field.name))
  | input fields =>
      .input (fields.map fun field => field.definition (options.directivesOf field.name))
  | scalar => .scalar
  | enum values => .enum (values.map fun value => { name := value })
  | union members => .union members

/-- Whether there is a field, a value or a member, in a kind that has them. -/
def HasMembers : DeclarationBody → Prop
  | object fields => fields ≠ []
  | input fields => fields ≠ []
  | scalar => True
  | enum values => values ≠ []
  | union members => members ≠ []

/-- What can be read back of a body: readable fields, and values that are no literals. -/
def IsReadable : DeclarationBody → Prop
  | object fields => ∀ field ∈ fields, field.IsReadable
  | input fields => ∀ field ∈ fields, field.IsReadable
  | scalar => True
  | enum values => ∀ value ∈ values, ¬ value.IsLiteral
  | union _ => True

end DeclarationBody

namespace Declaration

/-- The definition of a type that stands for a declaration under options. -/
def typeDefinition (declaration : Declaration) (options : TypeOptions) : TypeDefinition where
  name := declaration.name
  directives := declaration.directives ++ optionDirectives options.directives
  body := declaration.body.typeBody options

/-- The definition that stands for a declaration under options, an extension if they say so. -/
def definition (declaration : Declaration) (options : TypeOptions) : Definition :=
  if options.extend = some true then .extendType (declaration.typeDefinition options)
  else .type (declaration.typeDefinition options)

/-- What can be read back of a declaration. -/
structure IsReadable (declaration : Declaration) : Prop where
  directives : ∀ directive ∈ declaration.directives, directive.FitsIn Reading.nestingLimit
  body : declaration.body.IsReadable

end Declaration

/-! ## What definitions keep -/

theorem InputDeclaration.declaration_definition (input : InputDeclaration)
    (applied : List Directive) : (input.definition applied).declaration = input :=
  rfl

theorem FieldDeclaration.declaration_definition (field : FieldDeclaration)
    (applied : List Directive) : (field.definition applied).declaration = field := by
  obtain ⟨name, arguments, type⟩ := field
  simp [definition, FieldDefinition.declaration, InputDeclaration.declaration_definition,
    Function.comp_def]

/-- A body says what was declared, besides the directives of its fields. -/
theorem DeclarationBody.declaration?_typeBody (body : DeclarationBody) (options : TypeOptions) :
    (body.typeBody options).declaration? = some body := by
  cases body with
  | object fields =>
      simp [typeBody, TypeBody.declaration?, FieldDeclaration.declaration_definition,
        Function.comp_def]
  | input fields =>
      simp [typeBody, TypeBody.declaration?, InputDeclaration.declaration_definition,
        Function.comp_def]
  | scalar => rfl
  | enum values => simp [typeBody, TypeBody.declaration?, Function.comp_def]
  | union members => rfl

namespace Declaration

variable {first second : Declaration} {options others : TypeOptions}

theorem typeDefinition_eq_of_definition_eq
    (same : first.definition options = second.definition others) :
    first.typeDefinition options = second.typeDefinition others := by
  unfold definition at same
  split at same
  next =>
      split at same
      next => exact Definition.extendType.inj same
      next => exact Definition.noConfusion same
  next =>
      split at same
      next => exact Definition.noConfusion same
      next => exact Definition.type.inj same

theorem name_eq_of_definition_eq (same : first.definition options = second.definition others) :
    first.name = second.name :=
  congrArg TypeDefinition.name (typeDefinition_eq_of_definition_eq same)

/-- Equal definitions under the same options stand for equal declarations. -/
theorem eq_of_definition_eq (same : first.definition options = second.definition options) :
    first = second := by
  have equal := typeDefinition_eq_of_definition_eq same
  have sameName := name_eq_of_definition_eq same
  have sameDirectives := List.append_cancel_right (congrArg TypeDefinition.directives equal)
  have sameBody := congrArg TypeBody.declaration? (congrArg TypeDefinition.body equal)
  simp only [typeDefinition, DeclarationBody.declaration?_typeBody, Option.some.injEq] at sameBody
  obtain ⟨name, directives, body⟩ := first
  cases sameName
  cases sameDirectives
  cases sameBody
  rfl

end Declaration

/-! ## Tokens -/

/-- Tokens between braces. -/
def bracedTokens (tokens : List Token) : List Token :=
  .punctuator .openBrace :: (tokens ++ [.punctuator .closeBrace])

/-- Names as tokens with pipes between them. -/
def memberTokens : List Name → List Token
  | [] => []
  | first :: members =>
      .name first :: members.flatMap fun member => [.punctuator .pipe, .name member]

namespace DeclarationBody

/-- The tokens of a body. -/
def tokens (options : TypeOptions) : DeclarationBody → List Token
  | object fields =>
      bracedTokens (fields.flatMap fun field =>
        field.tokens ++ optionTokens (options.givenTo field.name))
  | input fields =>
      bracedTokens (fields.flatMap fun field =>
        field.tokens ++ optionTokens (options.givenTo field.name))
  | scalar => []
  | enum values => bracedTokens (values.flatMap fun value => [.name value])
  | union members => .punctuator .equals :: memberTokens members

/-- The reading of what follows the name in front of a body. -/
def part : DeclarationBody → Reading (List Directive × TypeBody)
  | object _ => Reading.fieldsPart .object
  | input _ => Reading.inputPart
  | scalar => Reading.scalarPart
  | enum _ => Reading.enumPart
  | union _ => Reading.unionPart

theorem typePart?_keyword (body : DeclarationBody) :
    Reading.typePart? body.keyword = some body.part := by
  cases body <;> rfl

end DeclarationBody

namespace Declaration

/-- The tokens of directives, first those of the type, then those of the options. -/
def directiveTokens (declaration : Declaration) (options : TypeOptions) : List Token :=
  declaration.directives.flatMap Directive.tokens ++ optionTokens options.directives

/-- The tokens behind the word of a declaration. -/
def tokens (declaration : Declaration) (options : TypeOptions) : List Token :=
  .name declaration.name ::
    (declaration.directiveTokens options ++ declaration.body.tokens options)

theorem lists_directiveTokens {declaration : Declaration} {options : TypeOptions}
    (readable : declaration.IsReadable) (listed : options.IsListed) :
    Reading.Lists (declaration.directiveTokens options)
      (declaration.directives ++ optionDirectives options.directives) :=
  (lists_optionTokens listed.type).append readable.directives

end Declaration

/-! ## Bodies -/

/-- What may stand behind a definition: nothing, or the word of the next one. -/
def Lexeme.IsPause (rest : List Lexeme) : Prop :=
  next rest = none ∨ ∃ found, next rest = some (.name found)

theorem Lexeme.IsPause.next_ne {rest : List Lexeme} (pause : IsPause rest) (mark : Punctuator) :
    next rest ≠ some (.punctuator mark) := by
  rcases pause with none | ⟨found, named⟩
  · simp [none]
  · simp [named]

namespace Reading

variable {lexemes rest : List Lexeme}

/-- No word stands in front of a punctuator. -/
theorem takesWord_of_punctuator {text : String} {mark : Punctuator}
    (begins : next lexemes = some (.punctuator mark)) :
    takesWord text lexemes = some (false, lexemes) := by
  obtain ⟨comma, behind, rfl⟩ := Lexeme.of_next_eq begins
  rfl

/-- No interfaces stand in front of a punctuator. -/
theorem interfaces_of_punctuator {mark : Punctuator}
    (begins : next lexemes = some (.punctuator mark)) :
    interfaces lexemes = some ([], lexemes) := by
  rw [interfaces, bind_of_eq (takesWord_of_punctuator begins)]
  rfl

/-- Items that begin with names are read between braces. -/
theorem braced_append {α β : Type} (item : Reading α) (spell : β → List Token) (result : β → α)
    {items : List β} (nonempty : items ≠ [])
    (begins : ∀ x ∈ items, ∃ found others, spell x = .name found :: others)
    (reads : ∀ x ∈ items, ∀ lexemes rest : List Lexeme, lexemes.map Lexeme.token = spell x →
      (next rest = some (.punctuator .closeBrace) ∨ ∃ found, next rest = some (.name found)) →
      item (lexemes ++ rest) = some (result x, rest))
    (same : lexemes.map Lexeme.token = bracedTokens (items.flatMap spell)) (rest : List Lexeme) :
    optionalBetween .openBrace .closeBrace item (lexemes ++ rest) =
      some (items.map result, rest) := by
  obtain ⟨_, _, rfl, behind⟩ := Lexeme.of_map_token_eq_cons same
  obtain ⟨inside, _, rfl, spelled, closes⟩ := List.map_eq_append_iff.1 behind
  obtain ⟨comma, rfl⟩ := Lexeme.of_map_token_eq_singleton closes
  rw [List.cons_append, List.append_assoc, List.singleton_append, optionalBetween_cons]
  exact itemsUntil_append .closeBrace item spell result items nonempty begins reads spelled comma
    rest

theorem enumName_cons {value : Name} (noLiteral : ¬ value.IsLiteral) (comma : Bool)
    (rest : List Lexeme) : enumName (⟨.name value, comma⟩ :: rest) = some (value, rest) := by
  have other : ¬ (value.text = "true" ∨ value.text = "false" ∨ value.text = "null") := noLiteral
  rw [enumName, bind_of_eq (name_cons value comma rest), if_neg other]
  rfl

theorem enumValueDefinition_cons {value : Name} (noLiteral : ¬ value.IsLiteral) (comma : Bool)
    (noSign : next rest ≠ some (.punctuator .atSign)) :
    enumValueDefinition (⟨.name value, comma⟩ :: rest) = some ({ name := value }, rest) := by
  have none : constantDirectives rest = some ([], rest) := afterSeparators_of_next_ne noSign
  rw [enumValueDefinition, bind_of_eq (string?_of_name rfl),
    bind_of_eq (enumName_cons noLiteral comma rest), bind_of_eq none]
  rfl

/-- The members of a union are read as long as there is a pipe. -/
theorem members_append {first : Name} {members : List Name}
    (same : lexemes.map Lexeme.token = memberTokens (first :: members))
    (noPipe : next rest ≠ some (.punctuator .pipe)) :
    separated .pipe name (lexemes ++ rest) = some (first :: members, rest) := by
  have read := separated_append .pipe name (fun member => [.name member]) id first members
    ⟨first, [], rfl⟩ (fun member _ lexemes after same _ => by
      obtain ⟨comma, rfl⟩ := Lexeme.of_map_token_eq_singleton same
      rfl) noPipe same
  rwa [List.map_id] at read

end Reading

namespace DeclarationBody

open Reading (Lists bind_of_eq)

variable {body : DeclarationBody} {options : TypeOptions} {lexemes rest : List Lexeme}
  {directed : List Token} {applied : List Directive}

theorem objectPart_append {fields : List FieldDeclaration} (nonempty : fields ≠ [])
    (readable : ∀ field ∈ fields, field.IsReadable) (listed : options.IsListed)
    (lists : Lists directed applied)
    (same : lexemes.map Lexeme.token = directed ++ (object fields).tokens options)
    (rest : List Lexeme) :
    Reading.fieldsPart .object (lexemes ++ rest) =
      some ((applied, (object fields).typeBody options), rest) := by
  obtain ⟨front, back, rfl, first, second⟩ := List.map_eq_append_iff.1 same
  have braces : next (back ++ rest) = some (.punctuator .openBrace) := Lexeme.next_append second
  have noInterfaces : Reading.interfaces (front ++ (back ++ rest)) =
      some ([], front ++ (back ++ rest)) := by
    rcases lists.next_append first (back ++ rest) with sign | last
    · exact Reading.interfaces_of_punctuator sign
    · exact Reading.interfaces_of_punctuator (last.trans braces)
  have inside := Reading.braced_append Reading.fieldDefinition
    (fun field => field.tokens ++ optionTokens (options.givenTo field.name))
    (fun field => field.definition (options.directivesOf field.name)) nonempty
    (fun _ _ => ⟨_, _, rfl⟩) (fun field member lexemes rest same follows =>
      Reading.fieldDefinition_append (readable field member)
        (lists_optionTokens (listed.givenTo field.name)) same
        (Reading.pauses_of_closing (Or.inr rfl) follows)) second rest
  rw [List.append_assoc, Reading.fieldsPart, bind_of_eq noInterfaces,
    bind_of_eq (lists.reads first (by simp [braces]) (by simp [braces])), bind_of_eq inside]
  rfl

theorem inputPart_append {fields : List InputDeclaration} (nonempty : fields ≠ [])
    (readable : ∀ field ∈ fields, field.IsReadable) (listed : options.IsListed)
    (lists : Lists directed applied)
    (same : lexemes.map Lexeme.token = directed ++ (input fields).tokens options)
    (rest : List Lexeme) :
    Reading.inputPart (lexemes ++ rest) =
      some ((applied, (input fields).typeBody options), rest) := by
  obtain ⟨front, back, rfl, first, second⟩ := List.map_eq_append_iff.1 same
  have braces : next (back ++ rest) = some (.punctuator .openBrace) := Lexeme.next_append second
  have inside := Reading.braced_append Reading.inputValueDefinition
    (fun field => field.tokens ++ optionTokens (options.givenTo field.name))
    (fun field => field.definition (options.directivesOf field.name)) nonempty
    (fun _ _ => ⟨_, _, rfl⟩) (fun field member lexemes rest same follows =>
      Reading.inputValueDefinition_append (readable field member)
        (lists_optionTokens (listed.givenTo field.name)) same
        (Reading.pauses_of_closing (Or.inr rfl) follows)) second rest
  rw [List.append_assoc, Reading.inputPart,
    bind_of_eq (lists.reads first (by simp [braces]) (by simp [braces])), bind_of_eq inside]
  rfl

theorem enumPart_append {values : List Name} (nonempty : values ≠ [])
    (noLiterals : ∀ value ∈ values, ¬ value.IsLiteral) (lists : Lists directed applied)
    (same : lexemes.map Lexeme.token = directed ++ (enum values).tokens options)
    (rest : List Lexeme) :
    Reading.enumPart (lexemes ++ rest) =
      some ((applied, (enum values).typeBody options), rest) := by
  obtain ⟨front, back, rfl, first, second⟩ := List.map_eq_append_iff.1 same
  have braces : next (back ++ rest) = some (.punctuator .openBrace) := Lexeme.next_append second
  have inside := Reading.braced_append Reading.enumValueDefinition
    (fun value => [.name value]) (fun value => { name := value }) nonempty (fun _ _ => ⟨_, _, rfl⟩)
    (fun value member lexemes rest same follows => by
      obtain ⟨comma, rfl⟩ := Lexeme.of_map_token_eq_singleton same
      refine Reading.enumValueDefinition_cons (noLiterals value member) comma ?_
      rcases follows with closes | ⟨found, named⟩
      · simp [closes]
      · simp [named]) second rest
  rw [List.append_assoc, Reading.enumPart,
    bind_of_eq (lists.reads first (by simp [braces]) (by simp [braces])), bind_of_eq inside]
  rfl

theorem unionPart_append {members : List Name} (nonempty : members ≠ [])
    (lists : Lists directed applied)
    (same : lexemes.map Lexeme.token = directed ++ (union members).tokens options)
    (pause : Lexeme.IsPause rest) :
    Reading.unionPart (lexemes ++ rest) =
      some ((applied, (union members).typeBody options), rest) := by
  obtain ⟨front, _, rfl, first, second⟩ := List.map_eq_append_iff.1 same
  obtain ⟨comma, back, rfl, others⟩ := Lexeme.of_map_token_eq_cons second
  cases members with
  | nil => exact absurd rfl nonempty
  | cons member members =>
      rw [List.append_assoc, List.cons_append, Reading.unionPart,
        bind_of_eq (lists.reads first (by simp) (by simp)),
        bind_of_eq (Reading.takes_cons .equals comma _), if_pos rfl,
        bind_of_eq (Reading.members_append others (pause.next_ne .pipe))]
      rfl

theorem scalarPart_append (lists : Lists directed applied)
    (same : lexemes.map Lexeme.token = directed ++ scalar.tokens options)
    (pause : Lexeme.IsPause rest) :
    Reading.scalarPart (lexemes ++ rest) =
      some ((applied, scalar.typeBody options), rest) := by
  rw [tokens, List.append_nil] at same
  rw [Reading.scalarPart,
    bind_of_eq (lists.reads same (pause.next_ne .atSign) (pause.next_ne .openParen))]
  rfl

/-- Directives and a body are read back in front of the next definition. -/
theorem part_append (hasMembers : body.HasMembers) (readable : body.IsReadable)
    (listed : options.IsListed) (lists : Lists directed applied)
    (same : lexemes.map Lexeme.token = directed ++ body.tokens options)
    (pause : Lexeme.IsPause rest) :
    body.part (lexemes ++ rest) = some ((applied, body.typeBody options), rest) := by
  cases body with
  | object fields => exact objectPart_append hasMembers readable listed lists same rest
  | input fields => exact inputPart_append hasMembers readable listed lists same rest
  | scalar => exact scalarPart_append lists same pause
  | enum values => exact enumPart_append hasMembers readable lists same rest
  | union members => exact unionPart_append hasMembers lists same pause

end DeclarationBody

end Subgraph
