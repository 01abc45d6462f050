import Subgraph.Introspection.Schema
import Subgraph.Proofs.Introspection.Answer
import Subgraph.Proofs.Schema.Parts

/-!
# Root types of schemas from introspection

A schema from introspection has the root types that are told, but for one case:
where no told root type has a name other than the default one, an object type
with the default name of another root is taken for that root.

* `Schema.root?_ofIntrospection_iff` says that nothing else goes wrong.
* `Schema.exists_stray_root` is a service whose schema gets a root too many.
-/

namespace Subgraph

open Introspection

/-! ## Converted records -/

/-- What a conversion of a list gives is what it gives for an item. -/
theorem mem_mapM_iff {ε α β : Type} {convert : α → Except ε β} {items : List α} {found : List β}
    (converted : items.mapM convert = .ok found) {one : β} :
    one ∈ found ↔ ∃ item ∈ items, convert item = .ok one := by
  induction items generalizing found with
  | nil =>
      cases converted
      simp
  | cons item items ih =>
      rw [List.mapM_cons] at converted
      obtain ⟨first, head, converted⟩ := of_bind_eq_ok converted
      obtain ⟨others, tail, converted⟩ := of_bind_eq_ok converted
      cases converted
      simp [ih tail, head, eq_comm]

theorem Introspection.text_of_nameOf {text : String} {name : Name}
    (converted : nameOf text = .ok name) : name.text = text := by
  unfold nameOf at converted
  split at converted
  next found same =>
      cases converted
      exact (Name.ofText?_eq_some_iff.1 same)
  next => cases converted

namespace Introspection.TypeRecord

/-- The record of a type gives a part of its kind, that of a wrapper nothing. -/
theorem map_kind_of_body? {record : TypeRecord} {found : Option TypeBody}
    (converted : record.body? = .ok found) :
    found.map TypeBody.kind =
      if record.kind = .list ∨ record.kind = .nonNull then none else some record.kind := by
  unfold body? at converted
  cases same : record.kind with
  | scalar | list | nonNull =>
      rw [same] at converted
      cases converted
      rfl
  | object | interface | union | enum | inputObject =>
      rw [same] at converted
      obtain ⟨_, _, rfl⟩ := of_map_eq_ok converted
      rfl

/-- The definition of a type has the name and the kind of its record. -/
theorem of_definition? {record : TypeRecord} {found : Option TypeDefinition}
    (converted : record.definition? = .ok found) :
    (∀ type ∈ found, type.name.text = record.name) ∧
      found.map (·.body.kind) =
        if record.kind = .list ∨ record.kind = .nonNull then none else some record.kind := by
  obtain ⟨name, named, converted⟩ := of_bind_eq_ok converted
  obtain ⟨body, bodied, converted⟩ := of_bind_eq_ok converted
  cases converted
  refine ⟨?_, ?_⟩
  · rintro type isFound
    obtain ⟨_, _, rfl⟩ := Option.map_eq_some_iff.1 isFound
    exact text_of_nameOf named
  · rw [Option.map_map]
    exact map_kind_of_body? bodied

end Introspection.TypeRecord

theorem TypeDefinition.isObject_iff (type : TypeDefinition) :
    type.isObject = true ↔ type.body.kind = .object := by
  unfold isObject objectFields?
  cases type.body <;> simp [TypeBody.kind]

/-- What is found under a kind of operation is what is listed for it. -/
theorem OperationKind.find?_filterMap_all {α : Type} (listed : OperationKind → Option α)
    (kind : OperationKind) :
    Assoc.find? kind (all.filterMap fun kind => (listed kind).map fun value => (kind, value)) =
      listed kind := by
  cases kind <;> cases query : listed .query <;> cases mutation : listed .mutation <;>
    cases subscription : listed .subscription <;>
    simp [all, Assoc.find?, query, mutation, subscription]

/-! ## What is told about roots -/

namespace Introspection.SchemaRecord

variable (record : SchemaRecord)

/-- An object type with some name is told. -/
def HasObject (name : String) : Prop := ∃ type ∈ record.types, type.kind = .object ∧ type.name = name

/-- Each root type that is told is an object type that is told. -/
def IsRooted : Prop := ∀ kind, ∀ root ∈ record.root? kind, record.HasObject root.name

/-- Each root type that is told has the default name. -/
def HasUsualRoots : Prop := ∀ kind, ∀ root ∈ record.root? kind, root.name = kind.defaultRoot.text

/-- No root type is told for a kind of operation, and yet an object type will pass for it. -/
structure HasStray (kind : OperationKind) : Prop where
  untold : record.root? kind = none
  usual : record.HasUsualRoots
  object : record.HasObject kind.defaultRoot.text

variable {record}

/-- The parts of a document from records. -/
theorem of_document_eq_ok {document : Document} (converted : record.document = .ok document) :
    ∃ directives schema types,
      (record.directives.filter fun directive => !directive.isLeftOut).mapM
        DirectiveRecord.definition = .ok directives ∧
      record.schema? = .ok schema ∧
      (record.types.filter fun type => !type.isLeftOut).mapM TypeRecord.definition? = .ok types ∧
      document = .ofParts directives schema.toList (types.filterMap id) := by
  obtain ⟨directives, isDirectives, converted⟩ := of_bind_eq_ok converted
  obtain ⟨schema, isSchema, converted⟩ := of_bind_eq_ok converted
  obtain ⟨types, isTypes, converted⟩ := of_bind_eq_ok converted
  cases converted
  exact ⟨directives, schema, types, isDirectives, isSchema, isTypes, rfl⟩

/-- The object types of a document from records are those that are told, but for the built-in
ones. -/
theorem exists_object_iff {types : List (Option TypeDefinition)}
    (converted : (record.types.filter fun type => !type.isLeftOut).mapM TypeRecord.definition? =
      .ok types) {name : Name} (own : ¬ IsSystemType name.text) :
    (∃ type ∈ types.filterMap id, type.isObject = true ∧ type.name = name) ↔
      record.HasObject name.text := by
  constructor
  · rintro ⟨type, member, isObject, rfl⟩
    obtain ⟨_, inside, rfl⟩ := List.mem_filterMap.1 member
    obtain ⟨told, among, same⟩ := (mem_mapM_iff converted).1 inside
    obtain ⟨sameName, sameKind⟩ := TypeRecord.of_definition? same
    refine ⟨told, (List.mem_filter.1 among).1, ?_, (sameName type rfl).symm⟩
    rw [Option.map_some, (TypeDefinition.isObject_iff type).1 isObject] at sameKind
    split at sameKind
    · cases sameKind
    · exact (Option.some.inj sameKind).symm
  · rintro ⟨told, member, isObject, named⟩
    have kept : told ∈ record.types.filter fun type => !type.isLeftOut := by
      refine List.mem_filter.2 ⟨member, ?_⟩
      rw [Bool.not_eq_true', Bool.eq_false_iff, ne_eq, Document.isLeftOut_type_iff, named]
      exact own
    obtain ⟨found, same⟩ := exists_ok_of_mapM converted told kept
    obtain ⟨sameName, sameKind⟩ := TypeRecord.of_definition? same
    rw [isObject] at sameKind
    obtain ⟨type, rfl, kind⟩ := Option.map_eq_some_iff.1 sameKind
    refine ⟨type, List.mem_filterMap.2 ⟨_, (mem_mapM_iff converted).2 ⟨told, kept, same⟩, rfl⟩,
      (TypeDefinition.isObject_iff type).2 kind, Name.text_injective ?_⟩
    rw [sameName type rfl, named]

/-! ## The root types of the schema -/

theorem mem_roots_iff {kind : OperationKind} {name : String} :
    (kind, name) ∈ record.roots ↔ ∃ root ∈ record.root? kind, root.name = name := by
  rw [roots, List.mem_filterMap]
  constructor
  · rintro ⟨_, _, same⟩
    obtain ⟨root, told, same⟩ := Option.map_eq_some_iff.1 same
    cases same
    exact ⟨root, told, rfl⟩
  · rintro ⟨root, told, rfl⟩
    refine ⟨kind, by cases kind <;> decide, ?_⟩
    rw [Option.mem_def.1 told, Option.map_some]

theorem all_usual_iff :
    (record.roots.all fun root => root.2 = root.1.defaultRoot.text) = true ↔
      record.HasUsualRoots := by
  simp only [List.all_eq_true, decide_eq_true_eq]
  constructor
  · intro usual kind root told
    exact usual (kind, root.name) (mem_roots_iff.2 ⟨root, told, rfl⟩)
  · rintro usual ⟨kind, name⟩ member
    obtain ⟨root, told, rfl⟩ := mem_roots_iff.1 member
    exact usual kind root told

theorem find?_roots (kind : OperationKind) :
    Assoc.find? kind record.roots = (record.root? kind).map RootRecord.name := by
  have found := OperationKind.find?_filterMap_all (fun kind => (record.root? kind).map RootRecord.name) kind
  rw [roots]
  simpa only [Option.map_map, Function.comp_def] using found

/-- Names that are converted are found where their texts are. -/
theorem find?_of_mapM {told : List (OperationKind × String)} {roots : List (OperationKind × Name)}
    (converted : told.mapM (fun root => (nameOf root.2).map fun name => (root.1, name)) =
      .ok roots) (kind : OperationKind) :
    (Assoc.find? kind roots).map Name.text = Assoc.find? kind told := by
  induction told generalizing roots with
  | nil =>
      cases converted
      rfl
  | cons root told ih =>
      rw [List.mapM_cons] at converted
      obtain ⟨_, one, converted⟩ := of_bind_eq_ok converted
      obtain ⟨others, rest, converted⟩ := of_bind_eq_ok converted
      obtain ⟨name, named, rfl⟩ := of_map_eq_ok one
      cases converted
      by_cases same : root.1 = kind
      · simp [Assoc.find?, same, text_of_nameOf named]
      · simpa [Assoc.find?, same] using ih rest

/-- A schema definition is made where some root type has a name of its own, and it has the root
types that are told. -/
theorem of_schema?_eq_ok {schema : Option SchemaDefinition}
    (converted : record.schema? = .ok schema) :
    (record.HasUsualRoots ∧ schema = none) ∨
      (¬ record.HasUsualRoots ∧ ∃ roots, schema = some { roots } ∧
        ∀ kind, (Assoc.find? kind roots).map Name.text =
          (record.root? kind).map RootRecord.name) := by
  unfold schema? at converted
  split at converted
  next usual =>
      cases converted
      exact .inl ⟨all_usual_iff.1 usual, rfl⟩
  next unusual =>
      obtain ⟨roots, found, converted⟩ := of_bind_eq_ok converted
      cases converted
      refine .inr ⟨fun usual => unusual (all_usual_iff.2 usual), roots, rfl, fun kind => ?_⟩
      rw [find?_of_mapM found, find?_roots]

end Introspection.SchemaRecord

namespace Schema

/-- Without a definition, a root is the object type with the default name. -/
theorem find?_of_roots? {types : List TypeDefinition} {roots : List (OperationKind × Name)}
    (rooted : roots? types [] [] = some roots) (kind : OperationKind) :
    Assoc.find? kind roots =
      if types.any fun type => type.isObject && type.name = kind.defaultRoot then
        some kind.defaultRoot
      else none := by
  obtain ⟨found, _⟩ := Option.filter_eq_some_iff.1 rooted
  simp only [List.flatMap_nil, List.append_nil, List.isEmpty_nil, Bool.not_true, Bool.and_false,
    Bool.false_eq_true, ↓reduceIte, Option.some.injEq] at found
  rw [← found, ← OperationKind.find?_filterMap_all (fun kind =>
    if types.any fun type => type.isObject && type.name = kind.defaultRoot then
      some kind.defaultRoot
    else none) kind, implicitRoots]
  refine congrArg (Assoc.find? kind) (congrArg (List.filterMap · _) (funext fun other => ?_))
  split
  · rfl
  · rfl

/-- With a definition, the roots are those that it gives. -/
theorem roots_of_roots? {types : List TypeDefinition} {definition : SchemaDefinition}
    {roots : List (OperationKind × Name)} (rooted : roots? types [definition] [] = some roots) :
    roots = definition.roots := by
  unfold roots? at rooted
  obtain ⟨found, _⟩ := Option.filter_eq_some_iff.1 rooted
  simpa using found.symm

/-- A schema from introspection is that of the document from the records. -/
theorem of_ofIntrospection {data : Json} {schema : Schema}
    (built : ofIntrospection data = .ok schema) :
    ∃ record document, SchemaRecord.ofData data = .ok record ∧ record.document = .ok document ∧
      ofDocument? document = some schema := by
  obtain ⟨document, converted, built⟩ := of_bind_eq_ok built
  unfold documentOfIntrospection at converted
  split at converted
  next => cases converted
  next record told =>
      split at converted
      next => cases converted
      next found same =>
          cases converted
          refine ⟨record, document, told, same, ?_⟩
          unfold ofDocument at built
          split at built
          next found =>
              cases built
              exact found
          next => cases built

theorem ofIntrospection_of_built {data : Json} {record : SchemaRecord} {document : Document}
    {schema : Schema} (told : SchemaRecord.ofData data = .ok record)
    (converted : record.document = .ok document) (built : ofDocument? document = some schema) :
    ofIntrospection data = .ok schema := by
  rw [ofIntrospection, documentOfIntrospection, told]
  dsimp only
  rw [converted]
  change ofDocument document = .ok schema
  rw [ofDocument, built]

/-- There is a schema where records are told whose document defines one. -/
theorem exists_of_ofData {data : Json} {record : SchemaRecord}
    (told : SchemaRecord.ofData data = .ok record)
    (defines : (record.document.toOption.bind ofDocument?).isSome = true) :
    ∃ schema, ofIntrospection data = .ok schema := by
  obtain ⟨schema, found⟩ := Option.isSome_iff_exists.1 defines
  cases converted : record.document with
  | error fault =>
      rw [converted] at found
      cases found
  | ok document =>
      rw [converted] at found
      exact ⟨schema, ofIntrospection_of_built told converted found⟩

end Schema

namespace Introspection.SchemaRecord

variable {record : SchemaRecord} {document : Document} {schema : Schema}

/-- The object types of a schema from records are those that are told, but for the built-in ones. -/
theorem exists_object_of_built (converted : record.document = .ok document)
    (built : Schema.ofDocument? document = some schema) {name : Name}
    (own : ¬ IsSystemType name.text) :
    (∃ type ∈ schema.types, type.isObject = true ∧ type.name = name) ↔
      record.HasObject name.text := by
  obtain ⟨_, _, types, _, _, isTypes, rfl⟩ := of_document_eq_ok converted
  obtain ⟨_, _, _, sameTypes, _⟩ := Schema.ofDocument?_ofParts_eq_some_iff.1 built
  rw [← exists_object_iff isTypes own, sameTypes]
  constructor
  · rintro ⟨type, member, isObject, rfl⟩
    rcases List.mem_append.1 member with builtIn | inside
    · have system : ∀ type ∈ BuiltIn.types, IsSystemType type.name.text := by decide +kernel
      exact absurd (system type builtIn) own
    · exact ⟨type, inside, isObject, rfl⟩
  · rintro ⟨type, inside, isObject, rfl⟩
    exact ⟨type, List.mem_append_right _ inside, isObject, rfl⟩

/-- The root types of a schema from records are those that are told, and the strays. -/
theorem root?_of_built (rooted : record.IsRooted) (converted : record.document = .ok document)
    (built : Schema.ofDocument? document = some schema) (kind : OperationKind) :
    (record.HasStray kind → schema.root? kind = some kind.defaultRoot) ∧
      (¬ record.HasStray kind →
        (schema.root? kind).map Name.text = (record.root? kind).map RootRecord.name) := by
  have own : ¬ IsSystemType kind.defaultRoot.text := by cases kind <;> decide
  have object := exists_object_of_built converted built own
  obtain ⟨_, _, types, _, isSchema, _, rfl⟩ := of_document_eq_ok converted
  obtain ⟨_, _, found, sameTypes, _⟩ := Schema.ofDocument?_ofParts_eq_some_iff.1 built
  rw [← sameTypes] at found
  rcases of_schema?_eq_ok isSchema with ⟨usual, rfl⟩ | ⟨unusual, roots, rfl, same⟩
  · have passes : (schema.types.any fun type =>
        type.isObject && type.name = kind.defaultRoot) = true ↔
          record.HasObject kind.defaultRoot.text := by
      rw [← object, List.any_eq_true]
      simp only [Bool.and_eq_true, decide_eq_true_eq]
    have implicit := Schema.find?_of_roots? found kind
    refine ⟨fun stray => ?_, fun noStray => ?_⟩
    · rw [Schema.root?, implicit, if_pos (passes.2 stray.object)]
    · cases isTold : record.root? kind with
      | some root =>
          have named := usual kind root isTold
          have isObject := rooted kind root isTold
          rw [named] at isObject
          rw [Schema.root?, implicit, if_pos (passes.2 isObject), Option.map_some, Option.map_some,
            named]
      | none =>
          have absent := fun object => noStray ⟨isTold, usual, object⟩
          rw [Schema.root?, implicit, if_neg (mt passes.1 absent)]
          rfl
  · have given := Schema.roots_of_roots? found
    refine ⟨fun stray => absurd stray.usual unusual, fun _ => ?_⟩
    rw [Schema.root?, given]
    exact same kind

end Introspection.SchemaRecord

namespace Schema

/-- The root types of a schema from introspection are those that are told, if each of these is an
object type that is told too, except that a kind of operation without one may have a stray. -/
theorem root?_ofIntrospection_iff {data : Json} {schema : Schema}
    (built : ofIntrospection data = .ok schema) :
    ∃ record, SchemaRecord.ofData data = .ok record ∧
      (record.IsRooted → ∀ kind,
        ((schema.root? kind).map Name.text = (record.root? kind).map RootRecord.name ↔
          ¬ record.HasStray kind) ∧
        ∀ name ∈ schema.root? kind, ¬ IsSystemType name.text →
          ∃ type ∈ schema.find? name, type.isObject = true) := by
  obtain ⟨record, document, told, converted, built⟩ := of_ofIntrospection built
  refine ⟨record, told, fun rooted kind => ?_⟩
  obtain ⟨stray, faithful⟩ := SchemaRecord.root?_of_built rooted converted built kind
  refine ⟨⟨fun same isStray => ?_, faithful⟩, fun name isRoot own => ?_⟩
  · rw [stray isStray, isStray.untold] at same
    cases same
  · have object : record.HasObject name.text := by
      by_cases isStray : record.HasStray kind
      · cases (stray isStray).symm.trans isRoot
        exact isStray.object
      · have same := faithful isStray
        rw [Option.mem_def.1 isRoot] at same
        obtain ⟨root, isTold, named⟩ := Option.map_eq_some_iff.1 same.symm
        exact named ▸ rooted kind root isTold
    obtain ⟨type, member, isObject, rfl⟩ :=
      (SchemaRecord.exists_object_of_built converted built own).2 object
    exact ⟨type, find?_of_mem member, isObject⟩

/-! ## A service with a stray -/

/-- The record of an object type with one field. -/
def objectRecord (name : String) : TypeRecord where
  kind := .object
  name := name
  fields := some [{ name := "hello", type := { kind := .scalar, name := some "String" } }]
  interfaces := some []

/-- The records of a service that has a query root, no other root, and an object type with the
default name of the mutation root. -/
def queriesRecord (root : String) : SchemaRecord where
  queryType := some ⟨root⟩
  types := [objectRecord root, objectRecord "Mutation"]

/-- The data that such a service tells. -/
def queriesData (root : String) : Json := (queriesRecord root).answer

theorem isRooted_queriesRecord (root : String) : (queriesRecord root).IsRooted := by
  intro kind told isTold
  cases kind with
  | query =>
      cases isTold
      exact ⟨objectRecord root, List.mem_cons_self, rfl, rfl⟩
  | mutation | subscription => cases isTold

theorem ofData_queriesData (root : String) :
    SchemaRecord.ofData (queriesData root) = .ok (queriesRecord root) :=
  (queriesRecord root).ofData_answer

/-- Where the query root has a name of its own, the other object type is no root. -/
theorem root?_queriesData_root :
    ∃ schema, ofIntrospection (queriesData "Root") = .ok schema ∧
      (schema.root? .query).map Name.text = some "Root" ∧ schema.root? .mutation = none := by
  obtain ⟨schema, built⟩ := exists_of_ofData (ofData_queriesData "Root") (by decide +kernel)
  obtain ⟨record, told, roots⟩ := root?_ofIntrospection_iff built
  cases (ofData_queriesData "Root").symm.trans told
  have noStray (kind : OperationKind) : ¬ (queriesRecord "Root").HasStray kind := fun stray =>
    absurd (stray.usual .query ⟨"Root"⟩ rfl) (by decide)
  have same (kind : OperationKind) :=
    (roots (isRooted_queriesRecord "Root") kind).1.2 (noStray kind)
  exact ⟨schema, built, same .query, Option.map_eq_none_iff.1 (same .mutation)⟩

/-- Where the query root has the default name, the other object type becomes a root that nothing
was told about. -/
theorem exists_stray_root :
    ∃ record schema, SchemaRecord.ofData (queriesData "Query") = .ok record ∧
      ofIntrospection (queriesData "Query") = .ok schema ∧ record.IsRooted ∧
      record.root? .mutation = none ∧
      schema.root? .mutation = some OperationKind.mutation.defaultRoot := by
  obtain ⟨schema, built⟩ := exists_of_ofData (ofData_queriesData "Query") (by decide +kernel)
  obtain ⟨record, document, told, converted, defined⟩ := of_ofIntrospection built
  cases (ofData_queriesData "Query").symm.trans told
  have rooted := isRooted_queriesRecord "Query"
  have usual : (queriesRecord "Query").HasUsualRoots := by
    intro kind root isTold
    cases kind with
    | query =>
        cases isTold
        rfl
    | mutation | subscription => cases isTold
  have stray : (queriesRecord "Query").HasStray .mutation :=
    ⟨rfl, usual, objectRecord "Mutation", by simp [queriesRecord], rfl, rfl⟩
  exact ⟨_, schema, told, built, rooted, rfl,
    (SchemaRecord.root?_of_built rooted converted defined .mutation).1 stray⟩

end Schema

end Subgraph
