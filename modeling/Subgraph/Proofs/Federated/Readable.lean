import Subgraph.Proofs.Federated.Declaration
import Subgraph.Proofs.Language.Given

/-!
# What is read can be read back

The readings of the type system refuse what their own text could not hold:
variables in defaults, literals as values of an enum, and anything nested too
deep.

* `TypeDefinition.IsReadable` says that the declaration of a type can be read
  back.
* `Document.isReadable_of_ofText?` says so of all types in a document.
-/

namespace Subgraph

/-- A body whose declaration can be read back. -/
def TypeBody.IsReadable (body : TypeBody) : Prop :=
  ∀ declared ∈ body.declaration?, declared.IsReadable

/-- A type whose declaration can be read back. -/
structure TypeDefinition.IsReadable (type : TypeDefinition) : Prop where
  directives : ∀ directive ∈ type.directives, directive.FitsIn Reading.nestingLimit
  body : type.body.IsReadable

/-- A definition that, if it is one of a type, can be read back. -/
def Definition.IsReadable : Definition → Prop
  | type defined => defined.IsReadable
  | extendType extension => extension.IsReadable
  | operation _ | fragment _ | schema _ | directive _ | extendSchema _ => True

/-- What stands for a declaration can be read back only if the declaration can. -/
theorem Declaration.isReadable_of_definition {declaration : Declaration} {options : TypeOptions}
    (readable : (declaration.definition options).IsReadable) : declaration.IsReadable := by
  have type : (declaration.typeDefinition options).IsReadable := by
    unfold definition at readable
    split at readable
    next => exact readable
    next => exact readable
  refine ⟨fun directive member => ?_, ?_⟩
  · exact type.directives directive (List.mem_append_left _ member)
  · exact type.body _ (declaration.body.declaration?_typeBody options)

namespace Reading

/-! ## Fields -/

theorem gives_typeReference (levels : Nat) :
    Gives (typeReference levels) fun reference => reference.depth ≤ levels := by
  intro tokens rest found read
  induction levels generalizing tokens rest found with
  | zero =>
      unfold typeReference at read
      split at read
      case h_3 => cases read
      case h_4 => cases read
      all_goals
        cases read
        exact Nat.le_refl 0
  | succ inner ih =>
      unfold typeReference at read
      split at read
      case h_3 =>
          obtain ⟨⟨item, after⟩, one, read⟩ := Option.bind_eq_some_iff.1 read
          have deep := ih one
          dsimp only at read
          split at read
          case h_3 => cases read
          all_goals
            cases read
            exact Nat.succ_le_succ deep
      case h_4 => cases read
      all_goals
        cases read
        exact Nat.zero_le _

theorem gives_defaultValue? :
    Gives defaultValue? fun given => ∀ default ∈ given, default.FitsIn nestingLimit := by
  refine Gives.next (takes .equals) fun hasDefault => Gives.ite ?_ ?_
  · refine (gives_value nestingLimit).bind fun default fits => Gives.pure ?_
    simpa using fits
  · refine Gives.pure ?_
    simp

theorem gives_inputValueDefinition :
    Gives inputValueDefinition fun input => input.declaration.IsReadable := by
  refine Gives.next string? fun _ => Gives.next name fun _ => Gives.next (expect .colon) fun _ => ?_
  refine (gives_typeReference nestingLimit).bind fun type typeFits => ?_
  refine gives_defaultValue?.bind fun default defaultFits => ?_
  exact Gives.next constantDirectives fun _ => Gives.pure ⟨typeFits, defaultFits⟩

theorem gives_fieldDefinition :
    Gives fieldDefinition fun field => field.declaration.IsReadable := by
  refine Gives.next string? fun _ => Gives.next name fun _ => ?_
  refine (gives_inputValueDefinition.optionalBetween .openParen .closeParen).bind
    fun arguments readable => Gives.next (expect .colon) fun _ => ?_
  refine (gives_typeReference nestingLimit).bind fun type typeFits => ?_
  refine Gives.next constantDirectives fun _ => Gives.pure ⟨typeFits, ?_⟩
  intro argument member
  obtain ⟨input, inside, rfl⟩ := List.mem_map.1 member
  exact readable input inside

theorem gives_enumName : Gives enumName fun value => ¬ value.IsLiteral := by
  refine Gives.next name fun found => ?_
  by_cases literal : found.text = "true" ∨ found.text = "false" ∨ found.text = "null"
  · rw [if_pos literal]
    exact Gives.failure
  · rw [if_neg literal]
    exact Gives.pure literal

theorem gives_enumValueDefinition :
    Gives enumValueDefinition fun value => ¬ value.name.IsLiteral := by
  refine Gives.next string? fun _ => gives_enumName.bind fun value noLiteral => ?_
  exact Gives.next constantDirectives fun _ => Gives.pure noLiteral

/-! ## Parts -/

/-- Directives and a body that can be read back. -/
def PartIsReadable (part : List Directive × TypeBody) : Prop :=
  (∀ directive ∈ part.1, directive.FitsIn nestingLimit) ∧ part.2.IsReadable

theorem gives_constantDirectives :
    Gives constantDirectives fun applied =>
      ∀ directive ∈ applied, directive.FitsIn nestingLimit :=
  gives_directives nestingLimit

theorem gives_fieldsPart {body : List Name → List FieldDefinition → TypeBody}
    (readable : ∀ interfaces fields,
      (∀ field ∈ fields, field.declaration.IsReadable) → (body interfaces fields).IsReadable) :
    Gives (fieldsPart body) PartIsReadable := by
  refine Gives.next interfaces fun implemented => ?_
  refine gives_constantDirectives.bind fun applied fits => ?_
  refine (gives_fieldDefinition.optionalBetween .openBrace .closeBrace).bind fun fields each => ?_
  exact Gives.pure ⟨fits, readable implemented fields each⟩

theorem gives_objectPart : Gives (fieldsPart .object) PartIsReadable := by
  refine gives_fieldsPart fun interfaces fields each declared same => ?_
  cases same
  intro field member
  obtain ⟨defined, inside, rfl⟩ := List.mem_map.1 member
  exact each defined inside

theorem gives_interfacePart : Gives (fieldsPart .interface) PartIsReadable := by
  refine gives_fieldsPart fun interfaces fields each declared same => ?_
  cases same

theorem gives_inputPart : Gives inputPart PartIsReadable := by
  refine gives_constantDirectives.bind fun applied fits => ?_
  refine (gives_inputValueDefinition.optionalBetween .openBrace .closeBrace).bind
    fun fields each => Gives.pure ⟨fits, fun declared same => ?_⟩
  cases same
  intro field member
  obtain ⟨defined, inside, rfl⟩ := List.mem_map.1 member
  exact each defined inside

theorem gives_enumPart : Gives enumPart PartIsReadable := by
  refine gives_constantDirectives.bind fun applied fits => ?_
  refine (gives_enumValueDefinition.optionalBetween .openBrace .closeBrace).bind
    fun values each => Gives.pure ⟨fits, fun declared same => ?_⟩
  cases same
  intro value member
  obtain ⟨defined, inside, rfl⟩ := List.mem_map.1 member
  exact each defined inside

theorem isReadable_union (members : List Name) : (TypeBody.union members).IsReadable := by
  intro declared same
  cases same
  trivial

theorem gives_unionPart : Gives unionPart PartIsReadable := by
  refine gives_constantDirectives.bind fun applied fits => ?_
  refine Gives.next (takes .equals) fun hasMembers => Gives.ite ?_ ?_
  · exact Gives.next (separated .pipe name) fun members =>
      Gives.pure ⟨fits, isReadable_union members⟩
  · exact Gives.pure ⟨fits, isReadable_union []⟩

theorem gives_scalarPart : Gives scalarPart PartIsReadable := by
  refine gives_constantDirectives.bind fun applied fits => Gives.pure ⟨fits, ?_⟩
  intro declared same
  cases same
  trivial

theorem gives_typePart? {keyword : String} {part : Reading (List Directive × TypeBody)}
    (found : typePart? keyword = some part) : Gives part PartIsReadable := by
  unfold typePart? at found
  repeat' split at found
  all_goals cases found
  · exact gives_scalarPart
  · exact gives_objectPart
  · exact gives_interfacePart
  · exact gives_unionPart
  · exact gives_enumPart
  · exact gives_inputPart

/-! ## Definitions -/

/-- A property that a definition has once it is read: a type or its extension has it for what was
read behind the name, a directive for what was read behind its word, and the rest has it anyway. -/
structure Settles (property : Definition → Prop) : Prop where
  type : ∀ keyword part, typePart? keyword = some part →
    Gives part fun read => ∀ description name,
      property (.type { description, name, directives := read.1, body := read.2 }) ∧
        property (.extendType { name, directives := read.1, body := read.2 })
  directive : ∀ description,
    Gives (directiveDefinition description) fun defined => property (.directive defined)
  operation : ∀ operation, property (.operation operation)
  fragment : ∀ fragment, property (.fragment fragment)
  schema : ∀ schema, property (.schema schema)
  extendSchema : ∀ extension, property (.extendSchema extension)

namespace Settles

variable {property : Definition → Prop} (settles : Settles property)

include settles

theorem gives_typeSystemDefinition (description : Option String) (keyword : String) :
    Gives (typeSystemDefinition description keyword) property := by
  refine Gives.ite ?_ (Gives.ite ?_ ?_)
  · exact Gives.next _ fun _ => Gives.next _ fun _ => Gives.pure (settles.schema _)
  · exact (settles.directive description).bind fun _ holds => Gives.pure holds
  · split
    next part found =>
        refine Gives.next name fun typeName => (settles.type _ _ found).bind fun _ holds => ?_
        exact Gives.pure (holds description typeName).1
    next => exact Gives.failure

theorem gives_extension : Gives extension property := by
  refine Gives.next noComma fun _ => Gives.next name fun keyword => Gives.ite ?_ ?_
  · refine Gives.next _ fun _ => Gives.next _ fun _ => Gives.ite ?_ ?_
    · exact Gives.failure
    · exact Gives.pure (settles.extendSchema _)
  · split
    next part found =>
        refine Gives.next name fun typeName => (settles.type _ _ found).bind fun _ holds => ?_
        exact Gives.ite Gives.failure (Gives.pure (holds none typeName).2)
    next => exact Gives.failure

theorem gives_definition : Gives definition property := by
  refine Gives.next string? fun description => ?_
  cases description with
  | some text =>
      refine Gives.next noComma fun _ => Gives.next name fun keyword => ?_
      exact settles.gives_typeSystemDefinition (some text) keyword.text
  | none =>
      refine Gives.next (isNext .openBrace) fun begins => Gives.ite ?_ ?_
      · exact Gives.next _ fun _ => Gives.pure (settles.operation _)
      · refine Gives.next name fun keyword => Gives.ite settles.gives_extension (Gives.ite ?_ ?_)
        · exact Gives.next Reading.fragment fun _ => Gives.pure (settles.fragment _)
        · split
          next kind _ =>
              exact Gives.next (Reading.operation kind) fun _ => Gives.pure (settles.operation _)
          next => exact settles.gives_typeSystemDefinition none keyword.text

theorem forall_of_definitions {lexemes : List Lexeme} {defined : List Definition}
    (read : definitions lexemes = some defined) :
    ∀ definition ∈ defined, property definition := by
  induction size : lexemes.length using Nat.strongRecOn generalizing lexemes defined with
  | ind size ih =>
      rw [definitions] at read
      obtain ⟨⟨first, rest⟩, one, read⟩ := Option.bind_eq_some_iff.1 read
      dsimp only at read
      intro definition member
      split at read
      next =>
          cases read
          rw [List.mem_singleton.1 member]
          exact settles.gives_definition one
      next =>
          split at read
          next shorter =>
              obtain ⟨others, two, read⟩ := Option.bind_eq_some_iff.1 read
              cases read
              rcases List.mem_cons.1 member with rfl | member
              · exact settles.gives_definition one
              · exact ih rest.length (size ▸ shorter) two rfl definition member
          next => cases read

/-- What a definition has once it is read, every definition of a text has. -/
theorem forall_of_ofText? {text : String} {document : Document}
    (read : Document.ofText? text = some document) :
    ∀ definition ∈ document, property definition := by
  obtain ⟨lexemes, _, defined⟩ := Option.bind_eq_some_iff.1 read
  exact settles.forall_of_definitions defined

end Settles

theorem settles_isReadable : Settles Definition.IsReadable where
  type _ _ found := (gives_typePart? found).weaken fun _ readable _ _ =>
    ⟨⟨readable.1, readable.2⟩, ⟨readable.1, readable.2⟩⟩
  directive _ := (Gives.any _).weaken fun _ _ => trivial
  operation _ := trivial
  fragment _ := trivial
  schema _ := trivial
  extendSchema _ := trivial

end Reading

/-- A document that was read has a definition. -/
theorem Document.ne_nil_of_ofText? {text : String} {document : Document}
    (read : ofText? text = some document) : document ≠ [] := by
  obtain ⟨lexemes, _, defined⟩ := Option.bind_eq_some_iff.1 read
  rw [Reading.definitions] at defined
  obtain ⟨⟨first, rest⟩, _, defined⟩ := Option.bind_eq_some_iff.1 defined
  dsimp only at defined
  split at defined
  next =>
      cases defined
      simp
  next =>
      split at defined
      next =>
          obtain ⟨others, _, defined⟩ := Option.bind_eq_some_iff.1 defined
          cases defined
          simp
      next => cases defined

/-- The types of a document that was read can be read back. -/
theorem Document.isReadable_of_ofText? {text : String} {document : Document}
    (read : ofText? text = some document) : ∀ definition ∈ document, definition.IsReadable :=
  Reading.settles_isReadable.forall_of_ofText? read

end Subgraph
