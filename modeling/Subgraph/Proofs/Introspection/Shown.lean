import Subgraph.Proofs.Introspection.Roots
import Subgraph.Proofs.Schema.Default

/-!
# What introspection shows of any schema

Introspection says nothing about the directives applied in a schema, but for
deprecations, and nothing about which part of a type stood in an extension.

* `TypeDefinition.shown` is what it shows of a type, and `Schema.document` the
  document that a service of the schema tells about.
* `Schema.exists_document_eq_ok` says that this document comes back as far as it is
  shown, where no default value is nested too deep, and
  `Schema.exists_ofDocument?_shownDocument` which types the schema has that it
  defines.
-/

namespace Subgraph

open Introspection

/-! ## What is shown -/

/-- An argument or an input field without the directives applied to it. -/
def InputValueDefinition.shown (value : InputValueDefinition) : InputValueDefinition :=
  { value with directives := [] }

/-- Directives reduced to the one that says why something is deprecated. -/
def shownDirectives (directives : List Directive) : List Directive :=
  deprecation (Document.deprecationReason? directives).isSome
    (Document.deprecationReason? directives)

/-- A field with no other directives than one that says why it is deprecated. -/
def FieldDefinition.shown (field : FieldDefinition) : FieldDefinition :=
  { field with
    arguments := field.arguments.map InputValueDefinition.shown
    directives := shownDirectives field.directives }

/-- A value of an enum with no other directives than one that says why it is deprecated. -/
def EnumValueDefinition.shown (value : EnumValueDefinition) : EnumValueDefinition :=
  { value with directives := shownDirectives value.directives }

/-- A kind's own part as introspection shows it. -/
def TypeBody.shown : TypeBody → TypeBody
  | .scalar => .scalar
  | .object interfaces fields => .object interfaces (fields.map FieldDefinition.shown)
  | .interface interfaces fields => .interface interfaces (fields.map FieldDefinition.shown)
  | .union members => .union members
  | .enum values => .enum (values.map EnumValueDefinition.shown)
  | .input fields => .input (fields.map InputValueDefinition.shown)

/-- A type as introspection shows it. -/
def TypeDefinition.shown (type : TypeDefinition) : TypeDefinition :=
  { type with directives := [], body := type.body.shown }

/-- A directive as introspection shows it. -/
def DirectiveDefinition.shown (directive : DirectiveDefinition) : DirectiveDefinition :=
  { directive with arguments := directive.arguments.map InputValueDefinition.shown }

/-! ## The records of what is shown -/

theorem deprecationReason?_shownDirectives (directives : List Directive) :
    Document.deprecationReason? (shownDirectives directives) =
      Document.deprecationReason? directives := by
  unfold shownDirectives deprecation
  cases same : Document.deprecationReason? directives with
  | none => rfl
  | some reason =>
      by_cases usual : reason = defaultReason
      · simp [usual]
        rfl
      · simp [usual]
        rfl

theorem isDeprecation_shownDirectives (directives : List Directive) :
    IsDeprecation (shownDirectives directives) := by
  unfold shownDirectives deprecation
  cases same : Document.deprecationReason? directives with
  | none => exact .inl rfl
  | some reason =>
      by_cases usual : reason = defaultReason
      · exact .inr (.inl (by simp [usual]))
      · exact .inr (.inr ⟨reason, usual, by simp [usual]⟩)

namespace Document

variable (document : Document)

theorem map_inputValueRecord_shown (values : List InputValueDefinition) :
    (values.map InputValueDefinition.shown).map document.inputValueRecord =
      values.map document.inputValueRecord := by
  rw [List.map_map]
  rfl

theorem fieldRecord_shown (field : FieldDefinition) :
    document.fieldRecord field.shown = document.fieldRecord field := by
  simp only [fieldRecord, FieldDefinition.shown, map_inputValueRecord_shown,
    deprecationReason?_shownDirectives]

theorem map_fieldRecord_shown (fields : List FieldDefinition) :
    (fields.map FieldDefinition.shown).map document.fieldRecord =
      fields.map document.fieldRecord := by
  rw [List.map_map]
  exact List.map_congr_left fun field _ => document.fieldRecord_shown field

theorem map_enumValueRecord_shown (values : List EnumValueDefinition) :
    (values.map EnumValueDefinition.shown).map enumValueRecord = values.map enumValueRecord := by
  rw [List.map_map]
  refine List.map_congr_left fun value _ => ?_
  simp only [Function.comp_apply, enumValueRecord, EnumValueDefinition.shown,
    deprecationReason?_shownDirectives]

/-- A type has the record of what is shown of it. -/
theorem typeRecord_shown (type : TypeDefinition) :
    document.typeRecord type.shown = document.typeRecord type := by
  obtain ⟨description, name, directives, body⟩ := type
  cases body with
  | scalar | union => rfl
  | object | interface =>
      simp only [typeRecord, TypeDefinition.shown, TypeBody.shown, TypeBody.kind,
        map_fieldRecord_shown]
  | enum =>
      simp only [typeRecord, TypeDefinition.shown, TypeBody.shown, TypeBody.kind,
        map_enumValueRecord_shown]
  | input =>
      simp only [typeRecord, TypeDefinition.shown, TypeBody.shown, TypeBody.kind,
        map_inputValueRecord_shown]

theorem directiveRecord_shown (directive : DirectiveDefinition) :
    document.directiveRecord directive.shown = document.directiveRecord directive := by
  simp only [directiveRecord, DirectiveDefinition.shown, map_inputValueRecord_shown]

end Document

/-! ## Nothing is lost of what is shown -/

theorem isShown_map_shown {values : List InputValueDefinition}
    (constants : ∀ value ∈ values, value.HasConstant) :
    ∀ value ∈ values.map InputValueDefinition.shown, value.IsShown :=
  List.forall_mem_map.2 fun value member => ⟨rfl, constants value member⟩

theorem FieldDefinition.isShown_shown {field : FieldDefinition}
    (constants : ∀ value ∈ field.arguments, value.HasConstant) : field.shown.IsShown where
  arguments := isShown_map_shown constants
  directives := isDeprecation_shownDirectives field.directives

theorem FieldDefinition.isShown_map_shown {fields : List FieldDefinition}
    (constants : ∀ value ∈ fields.flatMap (·.arguments), value.HasConstant) :
    ∀ field ∈ fields.map FieldDefinition.shown, field.IsShown :=
  List.forall_mem_map.2 fun field member => isShown_shown fun value inside =>
    constants value (List.mem_flatMap.2 ⟨field, member, inside⟩)

theorem TypeBody.isShown_shown {body : TypeBody}
    (constants : ∀ value ∈ body.inputValues, value.HasConstant) : body.shown.IsShown := by
  cases body with
  | scalar | union => trivial
  | object | interface => exact FieldDefinition.isShown_map_shown constants
  | enum =>
      exact List.forall_mem_map.2 fun value _ => isDeprecation_shownDirectives value.directives
  | input => exact Subgraph.isShown_map_shown constants

theorem TypeBody.inputValues_shown (body : TypeBody) :
    body.shown.inputValues = body.inputValues.map InputValueDefinition.shown := by
  cases body with
  | scalar | union | enum | input => rfl
  | object | interface =>
      simp only [shown, inputValues, List.flatMap_map, List.map_flatMap, FieldDefinition.shown]

namespace Document

variable (document : Document)

section

variable {type : TypeDefinition} (own : ¬ IsSystemType type.name.text)
  (constants : ∀ value ∈ type.body.inputValues, value.HasConstant)

include own constants

/-- What introspection shows of a type is converted to it where the defaults can be read. -/
theorem definition?_typeRecord_shown (shallow : ∀ value ∈ type.body.inputValues, value.IsShallow) :
    (document.typeRecord type).definition? = .ok (some type.shown) := by
  have isShown : type.shown.IsShown := ⟨own, rfl, TypeBody.isShown_shown constants⟩
  rw [← document.typeRecord_shown]
  refine document.definition?_typeRecord isShown ?_
  exact type.body.inputValues_shown ▸ List.forall_mem_map.2 shallow

/-- Where it is converted, the defaults can be read. -/
theorem isShallow_of_typeRecord {found : Option TypeDefinition}
    (converted : (document.typeRecord type).definition? = .ok found) :
    ∀ value ∈ type.body.inputValues, value.IsShallow := by
  have isShown : type.shown.IsShown := ⟨own, rfl, TypeBody.isShown_shown constants⟩
  rw [← document.typeRecord_shown] at converted
  have values : type.shown.body.inputValues = type.body.inputValues.map InputValueDefinition.shown :=
    type.body.inputValues_shown
  intro value inside
  exact document.isShallow_of_definition?_typeRecord isShown converted value.shown
    (values ▸ List.mem_map_of_mem inside)

end

section

variable {directive : DirectiveDefinition} (own : ¬ IsSystemDirective directive.name.text)
  (constants : ∀ value ∈ directive.arguments, value.HasConstant)

include own constants

/-- What introspection shows of a directive is converted to it where the defaults can be read. -/
theorem definition_directiveRecord_shown
    (shallow : ∀ value ∈ directive.arguments, value.IsShallow) :
    (document.directiveRecord directive).definition = .ok directive.shown := by
  have isShown : directive.shown.IsShown := ⟨own, isShown_map_shown constants⟩
  rw [← document.directiveRecord_shown]
  exact document.definition_directiveRecord isShown (List.forall_mem_map.2 shallow)

theorem isShallow_of_directiveRecord {found : DirectiveDefinition}
    (converted : (document.directiveRecord directive).definition = .ok found) :
    ∀ value ∈ directive.arguments, value.IsShallow := by
  have isShown : directive.shown.IsShown := ⟨own, isShown_map_shown constants⟩
  rw [← document.directiveRecord_shown] at converted
  intro value inside
  exact document.isShallow_of_definition_directiveRecord isShown converted value.shown
    (List.mem_map_of_mem inside)

end

end Document

/-! ## The document of a schema -/

/-- What is listed by kind of operation is listed once for each. -/
theorem OperationKind.nodup_filterMap_all {α : Type} (listed : OperationKind → Option α) :
    ((all.filterMap fun kind => (listed kind).map fun value => (kind, value)).map
      Prod.fst).Nodup := by
  cases query : listed .query <;> cases mutation : listed .mutation <;>
    cases subscription : listed .subscription <;>
    simp [all, query, mutation, subscription]

namespace Schema

variable (schema : Schema)

/-- The document of a schema: the directives, the root types and the types of its own, each type
with its extensions. -/
def document : Document :=
  .ofParts (schema.directives.filter fun directive => !decide (IsSystemDirective directive.name.text))
    [{ roots := schema.roots }] schema.declared

/-- The document that is rebuilt from introspection, with the schema definition that it has, if it
has one. -/
def shownDocument (definition : Option SchemaDefinition) : Document :=
  .ofParts (schema.document.directives.map DirectiveDefinition.shown) definition.toList
    (schema.declared.map TypeDefinition.shown)

@[simp] theorem types_document : schema.document.types = schema.declared := by simp [document]

theorem rootTypes_document : schema.document.rootTypes = schema.roots := by
  simp [document, Document.rootTypes]

theorem not_isSystemDirective {directive : DirectiveDefinition}
    (member : directive ∈ schema.document.directives) :
    ¬ IsSystemDirective directive.name.text := by
  rw [document, Document.directives_ofParts] at member
  simpa using (List.mem_filter.1 member).2

variable {schema}

section

variable {record : SchemaRecord} (shows : record.Shows schema.document)

include shows

/-- A service tells the root types of its schema. -/
theorem root?_of_shows (kind : OperationKind) :
    record.root? kind = (schema.root? kind).map fun name => { name := name.text } := by
  have told : record.root? kind = schema.document.rootRecord? kind := by
    cases kind with
    | query => exact shows.queryType
    | mutation => exact shows.mutationType
    | subscription => exact shows.subscriptionType
  rw [told, Document.rootRecord?, rootTypes_document]
  rfl

/-- A schema definition is made of them, where one has another name than the default one. -/
theorem exists_schema?_of_shows :
    ∃ definition, record.schema? = .ok definition ∧
      ∀ made ∈ definition, (made.roots.map Prod.fst).Nodup := by
  let roots := OperationKind.all.filterMap fun kind => (schema.root? kind).map fun name => (kind, name)
  have told : record.roots = roots.map fun root => (root.1, root.2.text) := by
    simp only [SchemaRecord.roots, root?_of_shows shows, roots, List.map_filterMap, Option.map_map]
    rfl
  have back : (roots.map fun root => (root.1, root.2.text)).mapM
      (fun root => (nameOf root.2).map fun name => (root.1, name)) = .ok roots :=
    mapM_map_eq_ok fun root _ => by
      rw [nameOf_text]
      rfl
  have distinct : (roots.map Prod.fst).Nodup := OperationKind.nodup_filterMap_all schema.root?
  rw [SchemaRecord.schema?, told]
  split
  next => exact ⟨none, rfl, by simp⟩
  next =>
      rw [back]
      exact ⟨some { roots }, rfl, by simpa using distinct⟩

variable (own : ∀ type ∈ schema.declared, ¬ IsSystemType type.name.text)
  (constants : ∀ value ∈ schema.document.inputValues, value.HasConstant)

include own constants

/-- The document of a schema comes back as far as introspection shows it. -/
theorem exists_document_eq_ok
    (shallow : ∀ value ∈ schema.document.inputValues, value.IsShallow) :
    ∃ definition, record.document = .ok (schema.shownDocument definition) ∧
      ∀ made ∈ definition, (made.roots.map Prod.fst).Nodup := by
  obtain ⟨definition, isDefined, distinct⟩ := exists_schema?_of_shows shows
  refine ⟨definition, ?_, distinct⟩
  rw [shownDocument, ← types_document]
  refine Document.document_eq_ok_ofParts (fun _ => not_isSystemDirective schema)
    (schema.types_document.symm ▸ own) shows (fun directive member => ?_) isDefined
    fun type member => ?_
  · exact schema.document.definition_directiveRecord_shown (not_isSystemDirective schema member)
      (fun value inside => constants value (Document.mem_inputValues_of_directive member inside))
      fun value inside => shallow value (Document.mem_inputValues_of_directive member inside)
  · exact schema.document.definition?_typeRecord_shown (own type (schema.types_document ▸ member))
      (fun value inside => constants value (Document.mem_inputValues_of_type member inside))
      fun value inside => shallow value (Document.mem_inputValues_of_type member inside)

/-- It comes back only where all defaults can be read. -/
theorem isShallow_of_document {found : Document} (converted : record.document = .ok found) :
    ∀ value ∈ schema.document.inputValues, value.IsShallow :=
  Document.forall_inputValues_of_document (fun _ => not_isSystemDirective schema)
    (schema.types_document.symm ▸ own) shows converted
    (fun _ member _ same =>
      schema.document.isShallow_of_directiveRecord (not_isSystemDirective schema member)
        (fun value inside => constants value (Document.mem_inputValues_of_directive member inside))
        same)
    fun type member _ same =>
      schema.document.isShallow_of_typeRecord (own type (schema.types_document ▸ member))
        (fun value inside => constants value (Document.mem_inputValues_of_type member inside)) same

end

/-! ## The rebuilt schema -/

theorem isDistinct_shown {body : TypeBody} (distinct : body.IsDistinct) : body.shown.IsDistinct := by
  have fields (fields : List FieldDefinition) :
      (fields.map FieldDefinition.shown).map (·.name) = fields.map (·.name) := by
    rw [List.map_map]
    rfl
  cases body with
  | scalar | union => exact distinct
  | object | interface => exact ⟨distinct.1, (fields _).symm ▸ distinct.2⟩
  | enum values =>
      change ((values.map EnumValueDefinition.shown).map (·.name)).Nodup
      rw [List.map_map]
      exact distinct
  | input values =>
      change ((values.map InputValueDefinition.shown).map (·.name)).Nodup
      rw [List.map_map]
      exact distinct

theorem map_name_shown (types : List TypeDefinition) :
    (types.map TypeDefinition.shown).map (·.name) = types.map (·.name) := by
  rw [List.map_map]
  rfl

/-- Root types that are given once each are those of a schema, and so are default ones. -/
theorem exists_roots?_eq_some (types : List TypeDefinition) {definition : Option SchemaDefinition}
    (distinct : ∀ made ∈ definition, (made.roots.map Prod.fst).Nodup) :
    ∃ roots, roots? types definition.toList [] = some roots := by
  have nodup : OperationKind.all.Nodup := by decide
  cases definition with
  | none =>
      refine ⟨implicitRoots types, Option.filter_eq_some_iff.2 ⟨by simp, ?_⟩⟩
      simpa using nodup.sublist (Document.map_fst_implicitRoots_sublist types)
  | some made =>
      have given := decide_eq_true (distinct made rfl)
      exact ⟨made.roots, by simp [roots?, Option.filter, given]⟩

/-- Directives, perhaps a schema definition, and types make a schema, where nothing comes twice. -/
theorem exists_ofDocument?_ofParts {directives : List DirectiveDefinition}
    {definition : Option SchemaDefinition} {types : List TypeDefinition}
    (distinctDirectives : (directives.map (·.name)).Nodup)
    (distinctRoots : ∀ made ∈ definition, (made.roots.map Prod.fst).Nodup)
    (distinctParts : ∀ type ∈ types, type.body.IsDistinct)
    (distinctNames : ((BuiltIn.types ++ types).map (·.name)).Nodup) :
    ∃ schema, ofDocument? (.ofParts directives definition.toList types) = some schema ∧
      schema.types = BuiltIn.types ++ types ∧ schema.directives = directives := by
  have builtIn : ∀ type ∈ BuiltIn.types, type.body.IsDistinct := by decide +kernel
  obtain ⟨roots, rooted⟩ := exists_roots?_eq_some (BuiltIn.types ++ types) distinctRoots
  exact ⟨⟨_, _, roots, distinctNames⟩, ofDocument?_ofParts_eq_some_iff.2
    ⟨distinctDirectives, List.forall_mem_append.2 ⟨builtIn, distinctParts⟩, rooted, rfl, rfl⟩,
    rfl, rfl⟩

/-- What comes back of a document is the document of a schema. -/
theorem exists_ofDocument?_shownDocument {source : Document}
    (built : ofDocument? source = some schema) {definition : Option SchemaDefinition}
    (distinctRoots : ∀ made ∈ definition, (made.roots.map Prod.fst).Nodup) :
    ∃ rebuilt, ofDocument? (schema.shownDocument definition) = some rebuilt ∧
      rebuilt.types = BuiltIn.types ++ schema.declared.map TypeDefinition.shown := by
  obtain ⟨distinctDirectives, sameDirectives, found⟩ := of_ofDocument?_eq_some built
  obtain ⟨_, distinctParts⟩ := of_types?_eq_some found
  obtain ⟨builtIn, append, same⟩ := exists_types_eq_append built
  have directives :
      ((schema.document.directives.map DirectiveDefinition.shown).map (·.name)).Nodup := by
    have kept : schema.document.directives.Sublist source.directives := by
      rw [document, Document.directives_ofParts, sameDirectives]
      exact List.filter_sublist
    rw [List.map_map]
    exact distinctDirectives.sublist (kept.map _)
  have parts : ∀ type ∈ schema.declared.map TypeDefinition.shown, type.body.IsDistinct :=
    List.forall_mem_map.2 fun type member =>
      isDistinct_shown (distinctParts type (List.mem_filter.1 member).1)
  have names : ((BuiltIn.types ++ schema.declared.map TypeDefinition.shown).map (·.name)).Nodup := by
    have sameNames : builtIn.map (·.name) = BuiltIn.types.map (·.name) := by
      simpa only [List.map_map, Function.comp_def] using congrArg (List.map Prod.fst) same
    have distinct := schema.distinct
    rw [append, List.map_append, sameNames] at distinct
    rwa [List.map_append, map_name_shown]
  obtain ⟨rebuilt, defined, types, _⟩ :=
    exists_ofDocument?_ofParts directives distinctRoots parts names
  exact ⟨rebuilt, defined, types⟩

end Schema

end Subgraph
