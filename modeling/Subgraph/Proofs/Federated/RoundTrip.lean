import Subgraph.Proofs.Federated.Extraction
import Subgraph.Proofs.Federated.Text

/-!
# Reading federated schemas back

The text of a federated schema, read as a document, has one definition for each
declaration, in order.

* `Sdl.IsComplete` and `Sdl.IsReadable` are what this takes: declarations that
  are definitions, under options that list directives, and nothing that the
  language could not say.
* `Sdl.ofText?_render_iff` says that nothing else is needed, and
  `Sdl.eq_of_definitions_eq` that the definitions tell declarations apart.
-/

namespace Subgraph

open Lexeme (next IsPause)

/-! ## One definition -/

namespace DeclarationBody

theorem isEmpty_typeBody {body : DeclarationBody} (hasMembers : body.HasMembers)
    (other : body ≠ scalar) (options : TypeOptions) : (body.typeBody options).isEmpty = false := by
  cases body with
  | object fields => simpa [typeBody, TypeBody.isEmpty, HasMembers] using hasMembers
  | input fields => simpa [typeBody, TypeBody.isEmpty, HasMembers] using hasMembers
  | scalar => exact absurd rfl other
  | enum values => simpa [typeBody, TypeBody.isEmpty, HasMembers] using hasMembers
  | union members => simpa [typeBody, TypeBody.isEmpty, HasMembers] using hasMembers

end DeclarationBody

namespace Reading

variable {lexemes rest : List Lexeme} {body : DeclarationBody}

/-- The word of a declaration begins a definition of the type system. -/
theorem definition_of_word (body : DeclarationBody) (comma : Bool) (tokens : List Lexeme) :
    definition (⟨.name body.word, comma⟩ :: tokens) =
      typeSystemDefinition none body.keyword tokens := by
  rw [definition, bind_of_eq (string?_of_name rfl)]
  dsimp only
  rw [bind_of_eq (isNext_of_next_ne (by simp)), if_neg (by simp),
    bind_of_eq (name_cons body.word comma tokens)]
  cases body <;> rfl

/-- The word in front of an extension. -/
def extendWord : Name := ⟨"extend", by decide⟩

theorem definition_of_extend (comma : Bool) (tokens : List Lexeme) :
    definition (⟨.name extendWord, comma⟩ :: tokens) = extension tokens := by
  rw [definition, bind_of_eq (string?_of_name rfl)]
  dsimp only
  rw [bind_of_eq (isNext_of_next_ne (by simp)), if_neg (by simp),
    bind_of_eq (name_cons extendWord comma tokens)]
  rfl

theorem typeSystemDefinition_of_part {typeName : Name} {comma : Bool}
    {applied : List Directive} {added : TypeBody}
    (read : body.part lexemes = some ((applied, added), rest)) :
    typeSystemDefinition none body.keyword (⟨.name typeName, comma⟩ :: lexemes) =
      some (.type { name := typeName, directives := applied, body := added }, rest) := by
  have noSchema : body.keyword ≠ "schema" := by cases body <;> simp [DeclarationBody.keyword]
  have noDirective : body.keyword ≠ "directive" := by
    cases body <;> simp [DeclarationBody.keyword]
  rw [typeSystemDefinition, if_neg noSchema, if_neg noDirective, body.typePart?_keyword]
  dsimp only
  rw [bind_of_eq (name_cons typeName comma lexemes), bind_of_eq read]
  rfl

theorem extension_of_part {typeName : Name} {comma : Bool}
    {applied : List Directive} {added : TypeBody}
    (read : body.part lexemes = some ((applied, added), rest))
    (adds : (applied.isEmpty && added.isEmpty) = false) :
    extension (⟨.name body.word, false⟩ :: ⟨.name typeName, comma⟩ :: lexemes) =
      some (.extendType { name := typeName, directives := applied, body := added }, rest) := by
  have noSchema : body.word.text ≠ "schema" := by
    cases body <;> simp [DeclarationBody.word, DeclarationBody.keyword]
  have noComma : noComma (⟨.name body.word, false⟩ :: ⟨.name typeName, comma⟩ :: lexemes) =
      some ((), ⟨.name body.word, false⟩ :: ⟨.name typeName, comma⟩ :: lexemes) := rfl
  have part : typePart? body.word.text = some body.part := body.typePart?_keyword
  rw [extension, bind_of_eq noComma, bind_of_eq (name_cons body.word false _), if_neg noSchema,
    part]
  dsimp only
  rw [bind_of_eq (name_cons typeName comma lexemes), bind_of_eq read]
  simp [adds]

/-- A text is read as one definition, in front of the end or of another definition. -/
def Defines (cs : List Char) (defined : Definition) : Prop :=
  ∀ (afterComma : Bool) (more : List Char), Token.Ends more →
    ∃ (lexemes : List Lexeme) (comma : Bool),
      Token.lexemes? afterComma (cs ++ more) =
        (Token.lexemes? comma more).map (lexemes ++ ·) ∧
      (∃ found, next lexemes = some (.name found)) ∧
      ∀ rest : List Lexeme, IsPause rest →
        definition (lexemes ++ rest) = some (defined, rest)

end Reading

namespace Declaration

/-- What a declaration needs to be a definition: a member in a kind that has members, options
that list directives, and a directive on the extension of a scalar. -/
structure IsComplete (declaration : Declaration) (options : TypeOptions) : Prop where
  hasMembers : declaration.body.HasMembers
  listed : options.IsListed
  scalar : declaration.body = .scalar → options.extend = some true →
    (declaration.typeDefinition options).directives ≠ []

section

variable {declaration : Declaration} {options : TypeOptions} {lexemes rest : List Lexeme}

/-- The tokens behind the word are the name, and what the reading of the kind takes. -/
theorem part_append (complete : declaration.IsComplete options)
    (readable : declaration.IsReadable)
    (same : lexemes.map Lexeme.token = declaration.tokens options) (pause : IsPause rest) :
    ∃ (comma : Bool) (behind : List Lexeme),
      lexemes = ⟨.name declaration.name, comma⟩ :: behind ∧
      declaration.body.part (behind ++ rest) =
        some (((declaration.typeDefinition options).directives,
          (declaration.typeDefinition options).body), rest) := by
  obtain ⟨comma, behind, rfl, spelled⟩ := Lexeme.of_map_token_eq_cons same
  exact ⟨comma, behind, rfl, DeclarationBody.part_append complete.hasMembers readable.body
    complete.listed (lists_directiveTokens readable complete.listed) spelled pause⟩

theorem adds (complete : declaration.IsComplete options)
    (isExtension : options.extend = some true) :
    ((declaration.typeDefinition options).directives.isEmpty &&
      (declaration.typeDefinition options).body.isEmpty) = false := by
  by_cases kind : declaration.body = .scalar
  · have some := complete.scalar kind isExtension
    simp [some]
  · have some := DeclarationBody.isEmpty_typeBody complete.hasMembers kind options
    simp [typeDefinition, some]

end

/-- The text of a declaration is read as its definition. -/
theorem IsComplete.defines {declaration : Declaration} {options : TypeOptions}
    (complete : declaration.IsComplete options) (readable : declaration.IsReadable) :
    Reading.Defines (declaration.text options).toList (declaration.definition options) := by
  intro afterComma more ends
  have spells := declaration.spells complete.hasMembers complete.listed
  have endsBehind : Token.Ends ((declaration.textBehind options).toList ++ more) := by
    rw [textBehind, String.toList_append]
    exact (Token.ends_cons _ _).2 (by decide)
  have word (comma : Bool) :
      Token.lexemes? comma (declaration.body.keyword.toList ++
          ((declaration.textBehind options).toList ++ more)) =
        (Token.lexemes? false ((declaration.textBehind options).toList ++ more)).map
          (⟨.name declaration.body.word, comma⟩ :: ·) :=
    Token.lexemes?_of_readOne (Token.readOne_name declaration.body.word endsBehind) comma
  obtain ⟨lexemes, comma, same, lexed⟩ := spells false more ends
  rw [text, definition]
  by_cases isExtension : options.extend = some true
  · refine ⟨⟨.name Reading.extendWord, afterComma⟩ :: ⟨.name declaration.body.word, false⟩ ::
      lexemes, comma, ?_, ⟨_, rfl⟩, fun rest pause => ?_⟩
    · have spaced : Token.Ends (' ' :: (declaration.body.keyword.toList ++
          ((declaration.textBehind options).toList ++ more))) := (Token.ends_cons _ _).2 (by decide)
      have front :=
        Token.lexemes?_of_readOne (Token.readOne_name Reading.extendWord spaced) afterComma
      rw [Token.lexemes?_ignored rfl, word, lexed] at front
      simpa [isExtension, Function.comp_def, Reading.extendWord] using front
    · obtain ⟨nameComma, behind, rfl, read⟩ := part_append complete readable same pause
      rw [List.cons_append, List.cons_append, List.cons_append, Reading.definition_of_extend,
        Reading.extension_of_part read (adds complete isExtension), if_pos isExtension]
      rfl
  · refine ⟨⟨.name declaration.body.word, afterComma⟩ :: lexemes, comma, ?_, ⟨_, rfl⟩,
      fun rest pause => ?_⟩
    · have front := word afterComma
      rw [lexed] at front
      simpa [isExtension, Function.comp_def] using front
    · obtain ⟨nameComma, behind, rfl, read⟩ := part_append complete readable same pause
      rw [List.cons_append, List.cons_append, Reading.definition_of_word,
        Reading.typeSystemDefinition_of_part read, if_neg isExtension]
      rfl

end Declaration

/-! ## Documents -/

namespace Reading

/-- The last definition stands in front of nothing. -/
theorem definitions_last {lexemes : List Lexeme} {defined : Definition}
    (read : definition lexemes = some (defined, [])) :
    definitions lexemes = some [defined] := by
  rw [definitions, read]
  rfl

/-- A definition stands in front of the definitions that follow it. -/
theorem definitions_cons {lexemes rest : List Lexeme} {defined : Definition}
    (read : definition lexemes = some (defined, rest)) (some : rest ≠ [])
    (shorter : rest.length < lexemes.length) :
    definitions lexemes = (definitions rest).map (defined :: ·) := by
  have more : rest.isEmpty = false := by simpa using some
  rw [definitions, read]
  simp only [Option.bind_eq_bind, Option.bind_some, more, if_pos shorter]
  cases definitions rest <;> rfl

/-- Texts of definitions on lines of their own are read as those definitions. -/
theorem definitions_of_defines {α : Type} {text : α → List Char} {defined : α → Definition}
    {items : List α} (nonempty : items ≠ []) (each : ∀ x ∈ items, Defines (text x) (defined x))
    (afterComma : Bool) :
    ∃ lexemes : List Lexeme,
      Token.lexemes? afterComma (items.flatMap fun x => '\n' :: text x) = some lexemes ∧
      (∃ found, next lexemes = some (.name found)) ∧
      definitions lexemes = some (items.map defined) := by
  induction items generalizing afterComma with
  | nil => exact absurd rfl nonempty
  | cons x items ih =>
      have first := each x List.mem_cons_self
      rw [List.flatMap_cons, List.cons_append, Token.lexemes?_ignored rfl]
      cases items with
      | nil =>
          obtain ⟨front, comma, lexed, begins, read⟩ := first afterComma [] Token.ends_nil
          refine ⟨front, ?_, begins, definitions_last ?_⟩
          · rw [Token.lexemes?_nil] at lexed
            simpa using lexed
          · have last := read [] (Or.inl rfl)
            rwa [List.append_nil] at last
      | cons y items =>
          obtain ⟨front, comma, lexed, ⟨found, begins⟩, read⟩ := first afterComma
            ((y :: items).flatMap fun x => '\n' :: text x) ((Token.ends_cons _ _).2 (by decide))
          obtain ⟨back, behind, starts, others⟩ := ih (List.cons_ne_nil _ _)
            (fun z member => each z (List.mem_cons_of_mem _ member)) comma
          obtain ⟨comma, inside, rfl⟩ := Lexeme.of_next_eq begins
          refine ⟨⟨.name found, comma⟩ :: inside ++ back, ?_, ⟨found, rfl⟩, ?_⟩
          · rw [lexed, behind]
            rfl
          · rw [definitions_cons (read back (Or.inr starts)), others]
            · rfl
            · rintro rfl
              obtain ⟨_, none⟩ := starts
              cases none
            · simp only [List.length_append, List.length_cons]
              omega

end Reading

namespace Sdl

/-- The definitions that stand for declarations under the options of their types. -/
def definitions (declarations : List Declaration) (types : OrderedMap String TypeOptions) :
    Document :=
  declarations.map fun declaration => declaration.definition (optionsOf types declaration)

/-- Declarations with a member in each kind that has members, under options that list directives
and give one to each scalar that they make an extension. -/
structure IsComplete (declarations : List Declaration) (types : OrderedMap String TypeOptions) :
    Prop where
  hasMembers : ∀ declaration ∈ declarations, declaration.body.HasMembers
  listed : ∀ entry ∈ types.entries, entry.2.IsListed
  scalars : ∀ declaration ∈ declarations, declaration.body = .scalar →
    (optionsOf types declaration).extend = some true →
    (declaration.typeDefinition (optionsOf types declaration)).directives ≠ []

/-- Declarations that a document can hold. -/
structure IsReadable (declarations : List Declaration) : Prop where
  nonempty : declarations ≠ []
  each : ∀ declaration ∈ declarations, declaration.IsReadable

section

variable {declarations others : List Declaration} {types : OrderedMap String TypeOptions}

theorem IsComplete.optionsOf (complete : IsComplete declarations types)
    (declaration : Declaration) : (optionsOf types declaration).IsListed := by
  unfold Sdl.optionsOf
  cases found : types.find? declaration.name.text with
  | none => exact TypeOptions.isListed_default
  | some options => exact complete.listed _ (Assoc.mem_of_find? found)

theorem IsComplete.declaration (complete : IsComplete declarations types)
    {declaration : Declaration} (member : declaration ∈ declarations) :
    declaration.IsComplete (Sdl.optionsOf types declaration) where
  hasMembers := complete.hasMembers declaration member
  listed := complete.optionsOf declaration
  scalar := complete.scalars declaration member

/-- The text of complete and readable declarations is read back as their definitions. -/
theorem ofText?_render (complete : IsComplete declarations types)
    (readable : IsReadable declarations) :
    Document.ofText? (render declarations types) = some (definitions declarations types) := by
  obtain ⟨lexemes, lexed, _, read⟩ := Reading.definitions_of_defines readable.nonempty
    (fun declaration member => (complete.declaration member).defines
      (readable.each declaration member)) false
  rw [← render_toList types readable.nonempty, Token.lexemes?_ignored rfl] at lexed
  rw [Document.ofText?, Token.ofText?, lexed]
  exact read

/-- Declarations whose definitions were read from some text can be read back. -/
theorem isReadable_of_ofText? {text : String}
    (read : Document.ofText? text = some (definitions declarations types)) :
    IsReadable declarations where
  nonempty := by
    rintro rfl
    exact Document.ne_nil_of_ofText? read rfl
  each := by
    intro declaration member
    exact Declaration.isReadable_of_definition
      (Document.isReadable_of_ofText? read _ (List.mem_map_of_mem member))

/-- Equal definitions stand for the same declarations, under the same options. -/
theorem eq_of_definitions_eq (same : definitions others types = definitions declarations types) :
    others = declarations := by
  refine List.map_injective_iff.2 (fun first second equal => ?_) same
  have sameName := Declaration.name_eq_of_definition_eq equal
  have sameOptions : Sdl.optionsOf types first = Sdl.optionsOf types second := by
    rw [Sdl.optionsOf, sameName]
    rfl
  rw [sameOptions] at equal
  exact Declaration.eq_of_definition_eq equal

/-- The text of complete declarations is read back as their definitions exactly when they can be
read back, as those of a schema that a text defines can, unless there are none.  Then no others
have the same text unless their definitions are the same. -/
theorem render_unambiguous (complete : IsComplete declarations types) :
    (Document.ofText? (render declarations types) = some (definitions declarations types) ↔
      IsReadable declarations) ∧
    (∀ (text : String) (schema : Schema), Schema.ofText text = .ok schema →
      schema.declarations = declarations → declarations ≠ [] → IsReadable declarations) ∧
    (IsReadable declarations →
      ∀ (others : List Declaration) (otherTypes : OrderedMap String TypeOptions),
        IsComplete others otherTypes → IsReadable others →
        render others otherTypes = render declarations types →
        definitions others otherTypes = definitions declarations types ∧
          (otherTypes = types → others = declarations)) := by
  refine ⟨⟨isReadable_of_ofText?, ofText?_render complete⟩, ?_, ?_⟩
  · rintro text schema read rfl nonempty
    exact ⟨nonempty, Schema.isReadable_of_ofText read⟩
  · intro readable others otherTypes otherComplete otherReadable sameText
    have same : definitions others otherTypes = definitions declarations types := by
      have read := ofText?_render otherComplete otherReadable
      rw [sameText, ofText?_render complete readable] at read
      exact (Option.some.inj read).symm
    refine ⟨same, ?_⟩
    rintro rfl
    exact eq_of_definitions_eq same

end

/-- An extended object whose field has options, an extended scalar, an enum and a union. -/
def library : List Declaration := [
  { name := OperationKind.query.defaultRoot
    body := .object [{
      name := ⟨"book", by decide⟩
      arguments := [{
        name := ⟨"title", by decide⟩
        type := .list (.named BuiltIn.string true) false
        defaultValue := some (.list [.string "a \"b\""]) }]
      type := .named ⟨"Book", by decide⟩ false }] },
  { name := ⟨"Date", by decide⟩, body := .scalar },
  { name := ⟨"Genre", by decide⟩
    directives := [{
      name := ⟨"tag", by decide⟩
      arguments := [(⟨"label", by decide⟩, .string "shelf")] }]
    body := .enum [⟨"NOVEL", by decide⟩, ⟨"POEM", by decide⟩] },
  { name := ⟨"Item", by decide⟩
    body := .union [⟨"Book", by decide⟩, ⟨"Film", by decide⟩] }]

/-- The options of the library. -/
def libraryTypes : OrderedMap String TypeOptions := ⟨[
  ("Query", {
    extend := some true
    directives := some " @shareable\n"
    fields := ⟨[("book", { directives := some "@tag(name: \"public\")" })], by decide⟩ }),
  ("Date", { extend := some true, directives := some "@inaccessible" })], by decide⟩

theorem render_unambiguous_library :
    IsComplete library libraryTypes ∧ IsReadable library ∧
      Document.ofText? (render library libraryTypes) = some (definitions library libraryTypes) := by
  have complete : IsComplete library libraryTypes := by
    refine ⟨?_, by decide +kernel, ?_⟩
    · simp [library, DeclarationBody.HasMembers]
    · intro declaration member kind _ none
      simp only [library, List.mem_cons, List.not_mem_nil, or_false] at member
      rcases member with rfl | rfl | rfl | rfl
      · cases kind
      · exact absurd (congrArg List.isEmpty none) (by decide +kernel)
      · cases kind
      · cases kind
  have readable : IsReadable library := by
    refine ⟨by simp [library], fun declaration member => ?_⟩
    simp only [library, List.mem_cons, List.not_mem_nil, or_false] at member
    rcases member with rfl | rfl | rfl | rfl
    · refine ⟨by simp, fun field member => ?_⟩
      rw [List.mem_singleton.1 member]
      refine ⟨Nat.zero_le _, fun argument member => ?_⟩
      rw [List.mem_singleton.1 member]
      refine ⟨by decide, fun default member => ?_⟩
      cases member
      exact ⟨by decide, by decide⟩
    · exact ⟨by simp, trivial⟩
    · refine ⟨fun directive member => ?_, fun value member => ?_⟩
      · rw [List.mem_singleton.1 member]
        intro argument member
        rw [List.mem_singleton.1 member]
        exact ⟨by decide, by decide⟩
      · simp only [List.mem_cons, List.not_mem_nil, or_false] at member
        rcases member with rfl | rfl <;> simp [Name.IsLiteral]
    · exact ⟨by simp, trivial⟩
  exact ⟨complete, readable, (render_unambiguous complete).1.2 readable⟩

/-! ## Schemas whose text is not read back -/

/-- A document of a schema with complete declarations whose text is not read back. -/
def NotReadBack (document : Document) : Prop :=
  ∃ schema : Schema, Schema.ofDocument? document = some schema ∧
    IsComplete schema.declarations .empty ∧
    Document.ofText? (render schema.declarations .empty) ≠
      some (definitions schema.declarations .empty)

/-- An interface, of which a federated schema says nothing. -/
def shape : TypeDefinition where
  name := ⟨"Shape", by decide⟩
  body := .interface [] [BuiltIn.name]

/-- An enum with one value. -/
def answerOf (value : Name) : TypeDefinition where
  name := ⟨"Answer", by decide⟩
  body := .enum [{ name := value }]

/-- An input object with one field that has a default. -/
def filterOf (default : Value) : TypeDefinition where
  name := ⟨"Filter", by decide⟩
  body := .input [{
    name := ⟨"marks", by decide⟩
    type := .named BuiltIn.id false
    defaultValue := some default }]

theorem notReadBack_of_declarations {document : Document} {declarations : List Declaration}
    (built : (Schema.ofDocument? document).map Schema.declarations = some declarations)
    (complete : IsComplete declarations .empty) (unreadable : ¬ IsReadable declarations) :
    NotReadBack document := by
  obtain ⟨schema, defined, rfl⟩ := Option.map_eq_some_iff.1 built
  exact ⟨schema, defined, complete, fun read => unreadable (isReadable_of_ofText? read)⟩

theorem isComplete_singleton {declaration : Declaration}
    (hasMembers : declaration.body.HasMembers) (noScalar : declaration.body ≠ .scalar) :
    IsComplete [declaration] .empty where
  hasMembers := by
    intro other member
    rwa [List.mem_singleton.1 member]
  listed := by
    intro entry member
    cases member
  scalars := by
    intro other member kind
    rw [List.mem_singleton.1 member] at kind
    exact absurd kind noScalar

theorem notReadBack_filterOf {default : Value}
    (unfit : ¬ default.FitsIn Reading.nestingLimit) : NotReadBack [.type (filterOf default)] := by
  refine notReadBack_of_declarations rfl
    (isComplete_singleton (by simp [DeclarationBody.HasMembers]) (by simp)) fun readable => ?_
  have body := (readable.each _ List.mem_cons_self).body
  exact unfit ((body _ List.mem_cons_self).defaultValue default rfl)

/-- Nothing is read back of an interface alone, of a literal as a value of an enum, and of a
default with a variable or with too much nesting. -/
theorem notReadBack_extracted :
    NotReadBack [.type shape] ∧ NotReadBack [.type (answerOf ⟨"true", by decide⟩)] ∧
      NotReadBack [.type (filterOf (.variable ⟨"marks", by decide⟩))] ∧
      NotReadBack [.type (filterOf (Value.nest 501))] := by
  refine ⟨?_, ?_, ?_, ?_⟩
  · refine notReadBack_of_declarations rfl ⟨?_, ?_, ?_⟩ fun readable => readable.nonempty rfl
    · intro declaration member
      cases member
    · intro entry member
      cases member
    · intro declaration member
      cases member
  · refine notReadBack_of_declarations rfl
      (isComplete_singleton (by simp [DeclarationBody.HasMembers]) (by simp)) fun readable => ?_
    have body := (readable.each _ List.mem_cons_self).body
    exact body _ List.mem_cons_self (Or.inl rfl)
  · refine notReadBack_filterOf fun fits => ?_
    cases fits.1
  · refine notReadBack_filterOf fun fits => ?_
    have deep := fits.2
    rw [Value.depth_nest] at deep
    exact absurd deep (by decide)

end Sdl

/-- The federated text of a schema that a text defines is read back, unless it is empty. -/
theorem Schema.ofText?_render_of_ofText {text : String} {schema : Schema}
    (read : Schema.ofText text = .ok schema) (nonempty : schema.declarations ≠ [])
    {types : OrderedMap String TypeOptions} (complete : Sdl.IsComplete schema.declarations types) :
    Document.ofText? (Sdl.render schema.declarations types) =
      some (Sdl.definitions schema.declarations types) :=
  Sdl.ofText?_render complete ⟨nonempty, Schema.isReadable_of_ofText read⟩

end Subgraph
