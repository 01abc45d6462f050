import Subgraph.Proofs.Conversion
import Subgraph.Proofs.Introspection.Encoding
import Subgraph.Proofs.Introspection.Literal
import Subgraph.Proofs.OrderedMap
import Subgraph.Proofs.Schema.Parts

/-!
# Introspection and back

What introspection shows of a document is converted to the document again, one
lemma for each kind of record.  The only thing that may get lost is a default
value that is nested too deep to be read as a literal.

* `SchemaRecord.document_eq_ok_iff` is the round trip, with its exact condition.
-/

namespace Subgraph

/-! ## Leaving out extras -/

/-- Leaving out the extras leaves the items they were put between. -/
theorem Inserted.filter_eq {β : Type} {extra : β → Prop} {items all : List β} {keep : β → Bool}
    (inserted : Inserted extra items all) (drops : ∀ item, extra item → keep item = false)
    (keeps : ∀ item ∈ items, keep item = true) : all.filter keep = items := by
  induction inserted with
  | nil => rfl
  | keep item rest ih =>
      rw [List.filter_cons_of_pos (keeps item List.mem_cons_self),
        ih fun other member => keeps other (List.mem_cons_of_mem _ member)]
  | insert isExtra rest ih =>
      rw [List.filter_cons_of_neg (by rw [drops _ isExtra]; exact Bool.false_ne_true), ih keeps]

open Introspection

/-! ## Names and references -/

@[simp] theorem Introspection.nameOf_text (name : Name) : nameOf name.text = .ok name := by
  rw [nameOf, Name.ofText?_text]

namespace Document

variable (document : Document)

/-- A named type is no wrapper. -/
theorem kindOf_ne (name : Name) :
    document.kindOf name ≠ .list ∧ document.kindOf name ≠ .nonNull := by
  unfold kindOf
  split
  next type _ => cases type.body <;> simp [TypeBody.kind]
  next => simp

theorem typeName_nameRecord (name : Name) : (document.nameRecord name).typeName = .ok name :=
  nameOf_text name

theorem reference_nameRecord (name : Name) :
    (document.nameRecord name).reference = .ok (.named name false) := by
  obtain ⟨noList, noNonNull⟩ := document.kindOf_ne name
  have named : nameOf name.text = .ok name := nameOf_text name
  unfold nameRecord
  generalize document.kindOf name = kind at noList noNonNull
  cases kind with
  | list => exact absurd rfl noList
  | nonNull => exact absurd rfl noNonNull
  | _ =>
      simp only [ReferenceRecord.reference, named]
      rfl

/-- A chain of wrappers is the reference that it was made from. -/
theorem reference_referenceRecord (type : TypeReference) :
    (document.referenceRecord type).reference = .ok type := by
  induction type with
  | named name isNonNull =>
      cases isNonNull with
      | false => exact document.reference_nameRecord name
      | true =>
          rw [referenceRecord, ReferenceRecord.reference, document.reference_nameRecord name]
          rfl
  | list item isNonNull ih =>
      cases isNonNull with
      | false =>
          rw [referenceRecord, ReferenceRecord.reference, ih]
          rfl
      | true =>
          rw [referenceRecord, ReferenceRecord.reference, ReferenceRecord.reference, ih]
          rfl

/-! ## Arguments, fields and values -/

/-- An argument or input field comes back when its default can be read. -/
theorem definition_inputValueRecord {value : InputValueDefinition} (shown : value.IsShown)
    (shallow : value.IsShallow) : (document.inputValueRecord value).definition = .ok value := by
  have defaults : valueOf? (value.defaultValue.map Value.text) = .ok value.defaultValue := by
    cases same : value.defaultValue with
    | none => rfl
    | some default =>
        rw [Option.map_some, valueOf?, valueOf,
          Value.ofLiteral?_text default (shown.constant default same),
          if_pos (shallow default same)]
        rfl
  obtain ⟨description, name, type, defaultValue, directives⟩ := value
  cases shown.directives
  simp only [inputValueRecord, InputValueRecord.definition, nameOf_text,
    document.reference_referenceRecord type, defaults]
  rfl

/-- An argument or input field comes back only when its default can be read. -/
theorem isShallow_of_definition {value : InputValueDefinition} (shown : value.IsShown)
    {found : InputValueDefinition}
    (converted : (document.inputValueRecord value).definition = .ok found) :
    value.IsShallow := by
  intro default same
  refine Classical.byContradiction fun deep => ?_
  have failed : valueOf? (value.defaultValue.map Value.text) =
      .error (.invalidDefault default.text) := by
    rw [same, Option.map_some, valueOf?, valueOf,
      Value.ofLiteral?_text default (shown.constant default same), if_neg deep]
    rfl
  simp only [inputValueRecord, InputValueRecord.definition, nameOf_text,
    document.reference_referenceRecord, failed] at converted
  cases converted

/-- A list of arguments or input fields comes back when all defaults can be read. -/
theorem mapM_inputValueRecord {values : List InputValueDefinition}
    (shown : ∀ value ∈ values, value.IsShown) (shallow : ∀ value ∈ values, value.IsShallow) :
    (values.map document.inputValueRecord).mapM InputValueRecord.definition = .ok values :=
  mapM_map_eq_ok fun value member =>
    document.definition_inputValueRecord (shown value member) (shallow value member)

theorem isShallow_of_mapM {values found : List InputValueDefinition}
    (shown : ∀ value ∈ values, value.IsShown)
    (converted : (values.map document.inputValueRecord).mapM InputValueRecord.definition =
      .ok found) : ∀ value ∈ values, value.IsShallow := by
  intro value member
  obtain ⟨one, same⟩ := exists_ok_of_mapM converted _ (List.mem_map_of_mem member)
  exact document.isShallow_of_definition (shown value member) same

/-- The directives that say why something is deprecated come back. -/
theorem deprecation_deprecationReason? {directives : List Directive}
    (shown : IsDeprecation directives) :
    deprecation (deprecationReason? directives).isSome (deprecationReason? directives) =
      directives := by
  rcases shown with rfl | rfl | ⟨reason, other, rfl⟩
  · rfl
  · rfl
  · have found : deprecationReason? [{ name := deprecatedName
                                       arguments := [(reasonName, .string reason)] }] =
        some reason := rfl
    rw [found, Option.isSome_some, deprecation, if_pos rfl]
    exact if_neg other

theorem definition_fieldRecord {field : FieldDefinition} (shown : field.IsShown)
    (shallow : ∀ value ∈ field.arguments, value.IsShallow) :
    (document.fieldRecord field).definition = .ok field := by
  have arguments := document.mapM_inputValueRecord shown.arguments shallow
  have directives := deprecation_deprecationReason? shown.directives
  simp only [fieldRecord, FieldRecord.definition, nameOf_text,
    document.reference_referenceRecord, arguments, directives]
  rfl

theorem isShallow_of_definition_fieldRecord {field found : FieldDefinition}
    (shown : field.IsShown) (converted : (document.fieldRecord field).definition = .ok found) :
    ∀ value ∈ field.arguments, value.IsShallow := by
  obtain ⟨name, _, converted⟩ := of_bind_eq_ok converted
  obtain ⟨arguments, same, _⟩ := of_bind_eq_ok converted
  exact document.isShallow_of_mapM shown.arguments same

theorem definition_enumValueRecord {value : EnumValueDefinition}
    (shown : IsDeprecation value.directives) :
    (enumValueRecord value).definition = .ok value := by
  have directives := deprecation_deprecationReason? shown
  simp only [enumValueRecord, EnumValueRecord.definition, nameOf_text, directives]
  rfl

/-! ## Types -/

theorem mapM_nameRecord (names : List Name) :
    (names.map document.nameRecord).mapM ReferenceRecord.typeName = .ok names :=
  mapM_map_eq_ok fun name _ => document.typeName_nameRecord name

/-- The fields of an object or an interface come back when all defaults can be read. -/
theorem mapM_fieldRecord {fields : List FieldDefinition} (shown : ∀ field ∈ fields, field.IsShown)
    (shallow : ∀ value ∈ fields.flatMap (·.arguments), value.IsShallow) :
    (fields.map document.fieldRecord).mapM FieldRecord.definition = .ok fields :=
  mapM_map_eq_ok fun field member =>
    document.definition_fieldRecord (shown field member) fun value inside =>
      shallow value (List.mem_flatMap.2 ⟨field, member, inside⟩)

theorem isShallow_of_mapM_fieldRecord {fields found : List FieldDefinition}
    (shown : ∀ field ∈ fields, field.IsShown)
    (converted : (fields.map document.fieldRecord).mapM FieldRecord.definition = .ok found) :
    ∀ value ∈ fields.flatMap (·.arguments), value.IsShallow := by
  intro value member
  obtain ⟨field, among, inside⟩ := List.mem_flatMap.1 member
  obtain ⟨one, same⟩ := exists_ok_of_mapM converted _ (List.mem_map_of_mem among)
  exact document.isShallow_of_definition_fieldRecord (shown field among) same value inside

theorem definition?_typeRecord {type : TypeDefinition} (shown : type.IsShown)
    (shallow : ∀ value ∈ type.body.inputValues, value.IsShallow) :
    (document.typeRecord type).definition? = .ok (some type) := by
  obtain ⟨description, name, directives, body⟩ := type
  cases shown.directives
  have inside := shown.body
  cases body with
  | scalar =>
      simp only [typeRecord, TypeRecord.definition?, nameOf_text]
      rfl
  | object interfaces fields =>
      have back := document.mapM_fieldRecord inside shallow
      simp only [typeRecord, TypeRecord.definition?, nameOf_text, TypeRecord.body?,
        TypeBody.kind, TypeRecord.fieldsPart, Option.getD_some, document.mapM_nameRecord, back]
      rfl
  | interface interfaces fields =>
      have back := document.mapM_fieldRecord inside shallow
      simp only [typeRecord, TypeRecord.definition?, nameOf_text, TypeRecord.body?,
        TypeBody.kind, TypeRecord.fieldsPart, Option.getD_some, document.mapM_nameRecord, back]
      rfl
  | union members =>
      simp only [typeRecord, TypeRecord.definition?, nameOf_text, TypeRecord.body?,
        TypeBody.kind, Option.getD_some, document.mapM_nameRecord]
      rfl
  | enum values =>
      have back : (values.map enumValueRecord).mapM EnumValueRecord.definition = .ok values :=
        mapM_map_eq_ok fun value member => definition_enumValueRecord (inside value member)
      simp only [typeRecord, TypeRecord.definition?, nameOf_text, TypeRecord.body?,
        TypeBody.kind, Option.getD_some, back]
      rfl
  | input fields =>
      have back := document.mapM_inputValueRecord inside shallow
      simp only [typeRecord, TypeRecord.definition?, nameOf_text, TypeRecord.body?,
        TypeBody.kind, Option.getD_some, back]
      rfl

theorem isShallow_of_definition?_typeRecord {type : TypeDefinition} (shown : type.IsShown)
    {found : Option TypeDefinition}
    (converted : (document.typeRecord type).definition? = .ok found) :
    ∀ value ∈ type.body.inputValues, value.IsShallow := by
  obtain ⟨_, _, converted⟩ := of_bind_eq_ok converted
  obtain ⟨_, converted, _⟩ := of_bind_eq_ok converted
  have inside := shown.body
  unfold typeRecord at converted
  cases same : type.body with
  | scalar | union | enum =>
      intro value member
      cases member
  | object interfaces fields | interface interfaces fields =>
      rw [same] at converted inside
      obtain ⟨_, converted, _⟩ := of_map_eq_ok converted
      obtain ⟨_, _, converted⟩ := of_bind_eq_ok converted
      obtain ⟨_, converted, _⟩ := of_bind_eq_ok converted
      exact document.isShallow_of_mapM_fieldRecord inside converted
  | input fields =>
      rw [same] at converted inside
      obtain ⟨_, converted, _⟩ := of_map_eq_ok converted
      exact document.isShallow_of_mapM inside converted

/-! ## Directives -/

theorem mapM_locationOf (locations : List DirectiveLocation) :
    (locations.map DirectiveLocation.text).mapM locationOf = .ok locations :=
  mapM_map_eq_ok fun location _ => by rw [locationOf, DirectiveLocation.ofText?_text]

theorem definition_directiveRecord {directive : DirectiveDefinition} (shown : directive.IsShown)
    (shallow : ∀ value ∈ directive.arguments, value.IsShallow) :
    (document.directiveRecord directive).definition = .ok directive := by
  have arguments := document.mapM_inputValueRecord shown.arguments shallow
  simp only [directiveRecord, DirectiveRecord.definition, nameOf_text, arguments, mapM_locationOf]
  rfl

theorem isShallow_of_definition_directiveRecord {directive found : DirectiveDefinition}
    (shown : directive.IsShown)
    (converted : (document.directiveRecord directive).definition = .ok found) :
    ∀ value ∈ directive.arguments, value.IsShallow := by
  obtain ⟨name, _, converted⟩ := of_bind_eq_ok converted
  obtain ⟨arguments, same, _⟩ := of_bind_eq_ok converted
  exact document.isShallow_of_mapM shown.arguments same

/-! ## Root types -/

theorem map_fst_implicitRoots_sublist (types : List TypeDefinition) :
    ((Schema.implicitRoots types).map Prod.fst).Sublist OperationKind.all := by
  unfold Schema.implicitRoots
  induction OperationKind.all with
  | nil => exact List.Sublist.slnil
  | cons kind kinds ih =>
      rw [List.filterMap_cons]
      by_cases has : types.any fun type => type.isObject && type.name = kind.defaultRoot
      · rw [if_pos has]
        exact ih.cons_cons kind
      · rw [if_neg has]
        exact ih.cons kind

theorem defaultRoot_of_mem_implicitRoots {types : List TypeDefinition}
    {root : OperationKind × Name} (member : root ∈ Schema.implicitRoots types) :
    root.2 = root.1.defaultRoot := by
  obtain ⟨kind, _, same⟩ := List.mem_filterMap.1 member
  split at same
  · cases same
    rfl
  · cases same

variable {document}

theorem map_fst_rootTypes_sublist (shown : document.IsShown) :
    (document.rootTypes.map Prod.fst).Sublist OperationKind.all := by
  unfold rootTypes
  cases same : document.schemas with
  | nil => exact map_fst_implicitRoots_sublist document.types
  | cons schema rest => exact (shown.schemas schema (same ▸ List.mem_cons_self)).ordered

/-- The root types that a service tells about are those of the document, as texts. -/
theorem roots_eq {record : SchemaRecord} (shown : document.IsShown)
    (shows : record.Shows document) :
    record.roots = document.rootTypes.map fun root => (root.1, root.2.text) := by
  have told (kind : OperationKind) : record.root? kind = document.rootRecord? kind := by
    cases kind with
    | query => exact shows.queryType
    | mutation => exact shows.mutationType
    | subscription => exact shows.subscriptionType
  have whole := Assoc.filterMap_find? (map_fst_rootTypes_sublist shown) (by decide)
  rw [SchemaRecord.roots]
  conv_rhs => rw [← whole]
  rw [List.map_filterMap]
  simp only [told, rootRecord?, Option.map_map, Function.comp_def]

/-- The root types come back, as the schema definition when there is one. -/
theorem schema?_eq {record : SchemaRecord} (shown : document.IsShown)
    (shows : record.Shows document) : record.schema? = .ok document.schemas.head? := by
  rw [SchemaRecord.schema?, roots_eq shown shows]
  cases same : document.schemas with
  | nil =>
      have usual : document.rootTypes = Schema.implicitRoots document.types := by
        rw [rootTypes, same]
      rw [if_pos]
      · rfl
      · rw [List.all_map, List.all_eq_true, usual]
        intro root member
        simp only [Function.comp_apply, defaultRoot_of_mem_implicitRoots member, decide_true]
  | cons schema rest =>
      have given : document.rootTypes = schema.roots := by
        rw [rootTypes, same]
      have whole := shown.schemas schema (same ▸ List.mem_cons_self)
      have back : (schema.roots.map fun root => (root.1, root.2.text)).mapM
          (fun root => (nameOf root.2).map fun name => (root.1, name)) = .ok schema.roots :=
        mapM_map_eq_ok fun root _ => by
          rw [nameOf_text]
          rfl
      obtain ⟨root, member, other⟩ := whole.named
      rw [given, if_neg, back]
      · obtain ⟨description, directives, roots⟩ := schema
        cases whole.description
        cases whole.directives
        rfl
      · rw [List.all_map, List.all_eq_true]
        intro usual
        exact other (Name.text_injective (of_decide_eq_true (usual root member)))

/-! ## Documents -/

theorem isLeftOut_type_iff (record : TypeRecord) :
    record.isLeftOut = true ↔ IsSystemType record.name := by
  have scalar : (BuiltIn.scalarNames.any fun name => name.text = record.name) = true ↔
      record.name ∈ ["Int", "Float", "String", "Boolean", "ID"] := by
    simp only [BuiltIn.scalarNames, List.any_cons, List.any_nil, Bool.or_eq_true,
      decide_eq_true_eq, Bool.or_false, List.mem_cons, List.not_mem_nil, or_false, BuiltIn.int,
      BuiltIn.float, BuiltIn.string, BuiltIn.boolean, BuiltIn.id, @eq_comm String record.name]
  rw [TypeRecord.isLeftOut, Bool.or_eq_true, List.isPrefixOf_iff_prefix, scalar]
  rfl

theorem isLeftOut_directive_iff (record : DirectiveRecord) :
    record.isLeftOut = true ↔ IsSystemDirective record.name :=
  List.contains_iff_mem

theorem name_typeRecord (type : TypeDefinition) :
    (document.typeRecord type).name = type.name.text := by
  unfold typeRecord
  cases type.body <;> rfl

/-- The types that are not left out are those of the document. -/
theorem filter_types {record : SchemaRecord}
    (own : ∀ type ∈ document.types, ¬ IsSystemType type.name.text)
    (shows : record.Shows document) :
    record.types.filter (fun type => !type.isLeftOut) = document.types.map document.typeRecord := by
  refine shows.types.filter_eq (fun extra isExtra => ?_) fun told member => ?_
  · rw [(isLeftOut_type_iff extra).2 isExtra]
    rfl
  · obtain ⟨type, among, rfl⟩ := List.mem_map.1 member
    rw [Bool.not_eq_true', Bool.eq_false_iff, ne_eq, isLeftOut_type_iff, name_typeRecord]
    exact own type among

/-- The directives that are not left out are those of the document. -/
theorem filter_directives {record : SchemaRecord}
    (own : ∀ directive ∈ document.directives, ¬ IsSystemDirective directive.name.text)
    (shows : record.Shows document) :
    record.directives.filter (fun directive => !directive.isLeftOut) =
      document.directives.map document.directiveRecord := by
  refine shows.directives.filter_eq (fun extra isExtra => ?_) fun told member => ?_
  · rw [(isLeftOut_directive_iff extra).2 isExtra]
    rfl
  · obtain ⟨directive, among, rfl⟩ := List.mem_map.1 member
    rw [Bool.not_eq_true', Bool.eq_false_iff, ne_eq, isLeftOut_directive_iff]
    exact own directive among

section

variable {record : SchemaRecord}
  (ownDirectives : ∀ directive ∈ document.directives, ¬ IsSystemDirective directive.name.text)
  (ownTypes : ∀ type ∈ document.types, ¬ IsSystemType type.name.text)
  (shows : record.Shows document)

include ownDirectives ownTypes shows

/-- What comes back is made of what the directives, the schema and the types are converted to. -/
theorem document_eq_ok_ofParts {directive' : DirectiveDefinition → DirectiveDefinition}
    {definition : Option SchemaDefinition} {type' : TypeDefinition → TypeDefinition}
    (directives : ∀ directive ∈ document.directives,
      (document.directiveRecord directive).definition = .ok (directive' directive))
    (schema : record.schema? = .ok definition)
    (types : ∀ type ∈ document.types,
      (document.typeRecord type).definition? = .ok (some (type' type))) :
    record.document = .ok (.ofParts (document.directives.map directive') definition.toList
      (document.types.map type')) := by
  have convertedDirectives : (document.directives.map document.directiveRecord).mapM
      DirectiveRecord.definition = .ok (document.directives.map directive') :=
    mapM_map_eq_ok_map directives
  have convertedTypes : (document.types.map document.typeRecord).mapM TypeRecord.definition? =
      .ok (document.types.map fun type => some (type' type)) :=
    mapM_map_eq_ok_map types
  have defined : (document.types.map fun type => some (type' type)).filterMap id =
      document.types.map type' := by
    simp [List.filterMap_map]
  rw [SchemaRecord.document, filter_directives ownDirectives shows, filter_types ownTypes shows,
    convertedDirectives, schema, convertedTypes, ← defined]
  rfl

/-- What holds of the arguments and input fields of all that is converted holds of those of the
document, if it comes back. -/
theorem forall_inputValues_of_document {property : InputValueDefinition → Prop}
    {found : Document} (converted : record.document = .ok found)
    (ofDirective : ∀ directive ∈ document.directives, ∀ one,
      (document.directiveRecord directive).definition = .ok one →
        ∀ value ∈ directive.arguments, property value)
    (ofType : ∀ type ∈ document.types, ∀ one, (document.typeRecord type).definition? = .ok one →
      ∀ value ∈ type.body.inputValues, property value) :
    ∀ value ∈ document.inputValues, property value := by
  rw [SchemaRecord.document, filter_directives ownDirectives shows,
    filter_types ownTypes shows] at converted
  obtain ⟨_, directives, converted⟩ := of_bind_eq_ok converted
  obtain ⟨_, _, converted⟩ := of_bind_eq_ok converted
  obtain ⟨_, types, _⟩ := of_bind_eq_ok converted
  refine List.forall_mem_append.2 ⟨fun value member => ?_, fun value member => ?_⟩
  · obtain ⟨directive, among, within⟩ := List.mem_flatMap.1 member
    obtain ⟨one, same⟩ := exists_ok_of_mapM directives _ (List.mem_map_of_mem among)
    exact ofDirective directive among one same value within
  · obtain ⟨type, among, within⟩ := List.mem_flatMap.1 member
    obtain ⟨one, same⟩ := exists_ok_of_mapM types _ (List.mem_map_of_mem among)
    exact ofType type among one same value within

end

theorem mem_inputValues_of_directive {directive : DirectiveDefinition} {value : InputValueDefinition}
    (member : directive ∈ document.directives) (inside : value ∈ directive.arguments) :
    value ∈ document.inputValues :=
  List.mem_append_left _ (List.mem_flatMap.2 ⟨directive, member, inside⟩)

theorem mem_inputValues_of_type {type : TypeDefinition} {value : InputValueDefinition}
    (member : type ∈ document.types) (inside : value ∈ type.body.inputValues) :
    value ∈ document.inputValues :=
  List.mem_append_right _ (List.mem_flatMap.2 ⟨type, member, inside⟩)

/-- A document comes back when all its defaults can be read. -/
theorem document_eq_ok {record : SchemaRecord} (shown : document.IsShown)
    (shows : record.Shows document) (shallow : ∀ value ∈ document.inputValues, value.IsShallow) :
    record.document = .ok document := by
  have oneSchema : document.schemas.head?.toList = document.schemas := by
    have few := shown.oneSchema
    generalize document.schemas = schemas at few
    cases schemas with
    | nil => rfl
    | cons schema rest =>
        cases List.length_eq_zero_iff.1 (Nat.le_zero.1 (Nat.le_of_succ_le_succ few))
        rfl
  have whole := document_eq_ok_ofParts (fun _ among => (shown.directives _ among).name)
    (fun _ among => (shown.types _ among).name) shows
    (fun directive member => document.definition_directiveRecord (shown.directives directive member)
      fun value inside => shallow value (mem_inputValues_of_directive member inside))
    (schema?_eq shown shows)
    (fun type member => document.definition?_typeRecord (shown.types type member)
      fun value inside => shallow value (mem_inputValues_of_type member inside))
  rw [List.map_id', List.map_id', oneSchema] at whole
  exact whole.trans (congrArg Except.ok shown.ordered.symm)

/-- A document comes back only when all its defaults can be read. -/
theorem isShallow_of_document_eq_ok {record : SchemaRecord} (shown : document.IsShown)
    (shows : record.Shows document) {found : Document} (converted : record.document = .ok found) :
    ∀ value ∈ document.inputValues, value.IsShallow :=
  forall_inputValues_of_document (fun _ among => (shown.directives _ among).name)
    (fun _ among => (shown.types _ among).name) shows converted
    (fun directive member _ same =>
      document.isShallow_of_definition_directiveRecord (shown.directives directive member) same)
    fun type member _ same =>
      document.isShallow_of_definition?_typeRecord (shown.types type member) same

end Document

/-- What introspection shows of a document is converted to the document again, whatever is told
about types and directives that every service has, exactly when no default value is nested too
deep to be read as a literal. -/
theorem Introspection.SchemaRecord.document_eq_ok_iff {record : SchemaRecord}
    {document : Document} (shown : document.IsShown) (shows : record.Shows document) :
    record.document = .ok document ↔ ∀ value ∈ document.inputValues, value.IsShallow :=
  ⟨Document.isShallow_of_document_eq_ok shown shows, Document.document_eq_ok shown shows⟩

namespace Document

/-- A document with a directive, a root type of its own, defaults and deprecations. -/
def library : Document :=
  [.directive
      { name := ⟨"limit", by decide⟩
        arguments :=
          [{ name := ⟨"max", by decide⟩, type := .named BuiltIn.int true
             defaultValue := some (.int ⟨"10", by decide⟩) }]
        repeatable := true
        locations := [.fieldDefinition] },
    .schema { roots := [(.query, ⟨"Library", by decide⟩)] },
    .type
      { name := ⟨"Library", by decide⟩
        body := .object [⟨"Node", by decide⟩]
          [{ name := ⟨"books", by decide⟩
             arguments :=
               [{ name := ⟨"titles", by decide⟩, type := .list (.named BuiltIn.string true) false
                  defaultValue := some (.list [.string "a \"b\"", .null]) }]
             type := .list (.list (.named BuiltIn.string false) true) true
             directives :=
               [{ name := Introspection.deprecatedName
                  arguments := [(Introspection.reasonName, .string "Closed")] }] }] },
    .type
      { description := some "A color", name := ⟨"Color", by decide⟩
        body := .enum
          [{ name := ⟨"RED", by decide⟩, directives := [{ name := Introspection.deprecatedName }] }] }]

theorem isShown_library : library.IsShown where
  ordered := rfl
  oneSchema := Nat.le_refl 1
  directives := by
    intro directive member
    cases List.mem_singleton.1 member
    refine ⟨by decide, fun argument member => ?_⟩
    cases List.mem_singleton.1 member
    exact ⟨rfl, fun default same => by cases same; rfl⟩
  schemas := by
    intro schema member
    cases List.mem_singleton.1 member
    exact ⟨rfl, rfl, by decide, _, List.mem_cons_self, by decide⟩
  types := by
    intro type member
    rcases List.mem_cons.1 member with rfl | member
    · refine ⟨by decide, rfl, fun field member => ?_⟩
      cases List.mem_singleton.1 member
      refine ⟨fun argument member => ?_, Or.inr (Or.inr ⟨_, by decide, rfl⟩)⟩
      cases List.mem_singleton.1 member
      exact ⟨rfl, fun default same => by cases same; rfl⟩
    · cases List.mem_singleton.1 member
      refine ⟨by decide, rfl, fun value member => ?_⟩
      cases List.mem_singleton.1 member
      exact Or.inr (Or.inl rfl)

/-- What a service may tell about the document, its string type and a directive of all services
included. -/
def libraryTold : SchemaRecord :=
  { library.record with
    types := { name := "String" } :: library.record.types
    directives := library.record.directives ++ [{ name := "skip", locations := ["NOWHERE"] }] }

theorem libraryTold_shows : libraryTold.Shows library where
  queryType := rfl
  mutationType := rfl
  subscriptionType := rfl
  types := .insert (by decide) (Inserted.refl _)
  directives := .keep _ (.insert (by decide) .nil)

theorem document_library :
    library.IsShown ∧ libraryTold.Shows library ∧ libraryTold.document = .ok library := by
  refine ⟨isShown_library, libraryTold_shows,
    (SchemaRecord.document_eq_ok_iff isShown_library libraryTold_shows).2 ?_⟩
  intro value member
  rcases List.mem_cons.1 member with rfl | member
  · intro default same
    cases same
    decide
  · cases List.mem_singleton.1 member
    intro default same
    cases same
    decide

/-! ## Deep defaults -/

/-- A query whose only field has an argument with a default. -/
def queryWith (default : Value) : Document :=
  [.type
    { name := OperationKind.query.defaultRoot
      body := .object []
        [{ name := ⟨"find", by decide⟩
           arguments :=
             [{ name := ⟨"ids", by decide⟩, type := .named BuiltIn.int false
                defaultValue := some default }]
           type := .named BuiltIn.int false }] }]

theorem isShown_queryWith {default : Value} (constant : default.isConstant = true) :
    (queryWith default).IsShown where
  ordered := rfl
  oneSchema := Nat.zero_le 1
  directives := by
    intro directive member
    cases member
  schemas := by
    intro schema member
    cases member
  types := by
    have own : ¬ IsSystemType "Query" := by decide
    intro type member
    cases List.mem_singleton.1 member
    refine ⟨own, rfl, fun field member => ?_⟩
    cases List.mem_singleton.1 member
    refine ⟨fun argument member => ?_, Or.inl rfl⟩
    cases List.mem_singleton.1 member
    exact ⟨rfl, fun found same => by cases same; exact constant⟩

/-- A default in six hundred lists does not come back. -/
theorem document_queryWith_ne :
    (queryWith (.nest 600)).IsShown ∧
      (queryWith (.nest 600)).record.Shows (queryWith (.nest 600)) ∧
      (queryWith (.nest 600)).record.document ≠ .ok (queryWith (.nest 600)) := by
  have shown := isShown_queryWith (Value.isConstant_nest 600)
  refine ⟨shown, record_shows _, fun back => ?_⟩
  have shallow := isShallow_of_document_eq_ok shown (record_shows _) back _ List.mem_cons_self
    (.nest 600) rfl
  rw [Value.depth_nest] at shallow
  exact absurd shallow (by decide)

end Document

end Subgraph
