import Subgraph.Proofs.Introspection.Answer

/-!
# References that the introspection query reaches to their end

The introspection query asks for a bounded number of wrappers around a named type.

* `TypeReference.wrappers` counts those of a reference.
* `SchemaRecord.Shows.kept` says that a service tells all about a document in its
  answer where no reference has more than the query asks for.
-/

namespace Subgraph

open Introspection

/-! ## Wrappers -/

/-- The number of wrappers of a reference, one for each list and one for each type that is not
null. -/
def TypeReference.wrappers : TypeReference → Nat
  | .named _ false => 0
  | .named _ true => 1
  | .list item false => item.wrappers + 1
  | .list item true => item.wrappers + 2

/-- The references of a field: its type, then those of its arguments. -/
def FieldDefinition.references (field : FieldDefinition) : List TypeReference :=
  field.type :: field.arguments.map (·.type)

/-- The references to the types of fields, arguments and input fields. -/
def TypeBody.references : TypeBody → List TypeReference
  | .object _ fields | .interface _ fields => fields.flatMap FieldDefinition.references
  | .input fields => fields.map (·.type)
  | .scalar | .union _ | .enum _ => []

/-- The references of a document, those of directives first. -/
def Document.references (document : Document) : List TypeReference :=
  document.directives.flatMap (fun directive => directive.arguments.map (·.type)) ++
    document.types.flatMap (·.body.references)

/-- The query asks for all wrappers of a reference. -/
def TypeReference.IsAsked (reference : TypeReference) : Prop :=
  reference.wrappers ≤ Query.wrapperDepth

instance (reference : TypeReference) : Decidable reference.IsAsked :=
  inferInstanceAs (Decidable (_ ≤ _))

/-! ## What is kept -/

namespace Document

variable (document : Document)

theorem cut_nameRecord (depth : Nat) (name : Name) :
    ReferenceRecord.cut depth (document.nameRecord name) = document.nameRecord name := by
  cases depth <;> rfl

/-- A reference is kept whole at a depth that its wrappers do not exceed. -/
theorem cut_referenceRecord {reference : TypeReference} {depth : Nat}
    (few : reference.wrappers ≤ depth) :
    ReferenceRecord.cut depth (document.referenceRecord reference) =
      document.referenceRecord reference := by
  induction reference generalizing depth with
  | named name isNonNull =>
      cases isNonNull with
      | false => exact document.cut_nameRecord depth name
      | true =>
          obtain ⟨rest, rfl⟩ := Nat.exists_eq_add_of_le' few
          change ReferenceRecord.cut (rest + 1) _ = _
          rw [referenceRecord, ReferenceRecord.cut, Option.map_some, document.cut_nameRecord]
  | list item isNonNull ih =>
      obtain ⟨rest, rfl⟩ := Nat.exists_eq_add_of_le' few
      have inner := ih (Nat.le_add_left item.wrappers rest)
      cases isNonNull with
      | false =>
          change ReferenceRecord.cut (rest + item.wrappers + 1) _ = _
          rw [referenceRecord, ReferenceRecord.cut, Option.map_some, inner]
      | true =>
          change ReferenceRecord.cut (rest + item.wrappers + 1 + 1) _ = _
          rw [referenceRecord, ReferenceRecord.cut, Option.map_some, ReferenceRecord.cut,
            Option.map_some, inner]

/-- References to named types are kept whole, whatever the names are those of. -/
theorem kept_map_nameRecord {α : Type} (items : List α) (named : α → Name) :
    (items.map fun item => document.nameRecord (named item)).map ReferenceRecord.kept =
      items.map fun item => document.nameRecord (named item) := by
  rw [List.map_map]
  exact List.map_congr_left fun item _ =>
    document.cut_nameRecord Query.wrapperDepth (named item)

theorem kept_inputValueRecord {value : InputValueDefinition} (asked : value.type.IsAsked) :
    (document.inputValueRecord value).kept = document.inputValueRecord value := by
  have kept : (document.referenceRecord value.type).kept = document.referenceRecord value.type :=
    document.cut_referenceRecord asked
  rw [inputValueRecord, InputValueRecord.kept, kept]

theorem kept_map_inputValueRecord {values : List InputValueDefinition}
    (asked : ∀ reference ∈ values.map (·.type), reference.IsAsked) :
    (values.map document.inputValueRecord).map InputValueRecord.kept =
      values.map document.inputValueRecord := by
  rw [List.map_map]
  exact List.map_congr_left fun value member =>
    document.kept_inputValueRecord (asked _ (List.mem_map_of_mem member))

theorem kept_fieldRecord {field : FieldDefinition}
    (asked : ∀ reference ∈ field.references, reference.IsAsked) :
    (document.fieldRecord field).kept = document.fieldRecord field := by
  have kept : (document.referenceRecord field.type).kept = document.referenceRecord field.type :=
    document.cut_referenceRecord (asked _ List.mem_cons_self)
  rw [fieldRecord, FieldRecord.kept, kept, document.kept_map_inputValueRecord fun reference member =>
    asked reference (List.mem_cons_of_mem _ member)]

theorem kept_map_fieldRecord {fields : List FieldDefinition}
    (asked : ∀ reference ∈ fields.flatMap FieldDefinition.references, reference.IsAsked) :
    (fields.map document.fieldRecord).map FieldRecord.kept = fields.map document.fieldRecord := by
  rw [List.map_map]
  exact List.map_congr_left fun field member => document.kept_fieldRecord fun reference inside =>
    asked reference (List.mem_flatMap.2 ⟨field, member, inside⟩)

/-- A type is kept whole where all its references are asked for. -/
theorem kept_typeRecord {type : TypeDefinition}
    (asked : ∀ reference ∈ type.body.references, reference.IsAsked) :
    (document.typeRecord type).kept = document.typeRecord type := by
  have names (names : List Name) :
      (names.map document.nameRecord).map ReferenceRecord.kept = names.map document.nameRecord :=
    document.kept_map_nameRecord names id
  obtain ⟨description, name, directives, body⟩ := type
  cases body with
  | scalar | enum => rfl
  | object =>
      simp only [typeRecord, TypeRecord.kept, Option.map_some, Option.map_none,
        document.kept_map_fieldRecord asked, names]
  | interface =>
      simp only [typeRecord, TypeRecord.kept, Option.map_some, Option.map_none,
        document.kept_map_fieldRecord asked, names,
        document.kept_map_nameRecord _ TypeDefinition.name]
  | union => simp only [typeRecord, TypeRecord.kept, Option.map_some, Option.map_none, names]
  | input =>
      simp only [typeRecord, TypeRecord.kept, Option.map_some, Option.map_none,
        document.kept_map_inputValueRecord asked]

theorem kept_directiveRecord {directive : DirectiveDefinition}
    (asked : ∀ reference ∈ directive.arguments.map (·.type), reference.IsAsked) :
    (document.directiveRecord directive).kept = document.directiveRecord directive := by
  rw [directiveRecord, DirectiveRecord.kept, document.kept_map_inputValueRecord asked]

end Document

/-! ## What a service tells -/

/-- Items with extras between them are so too after both were changed. -/
theorem Inserted.map {α β : Type} {extra : α → Prop} {extra' : β → Prop} {items all : List α}
    (inserted : Inserted extra items all) (change : α → β)
    (extras : ∀ item, extra item → extra' (change item)) :
    Inserted extra' (items.map change) (all.map change) := by
  induction inserted with
  | nil => exact .nil
  | keep item rest ih => exact .keep (change item) ih
  | insert isExtra rest ih => exact .insert (extras _ isExtra) ih

/-- What the query leaves of what a service tells still shows the document, where the query asks for
all wrappers of its references. -/
theorem Introspection.SchemaRecord.Shows.kept {record : SchemaRecord} {document : Document}
    (shows : record.Shows document) (asked : ∀ reference ∈ document.references, reference.IsAsked) :
    record.kept.Shows document where
  queryType := shows.queryType
  mutationType := shows.mutationType
  subscriptionType := shows.subscriptionType
  types := by
    have same : document.record.types.map TypeRecord.kept = document.record.types := by
      rw [Document.record, List.map_map]
      exact List.map_congr_left fun type member => document.kept_typeRecord fun reference inside =>
        asked reference (List.mem_append_right _ (List.mem_flatMap.2 ⟨type, member, inside⟩))
    rw [← same]
    exact shows.types.map TypeRecord.kept fun _ isExtra => isExtra
  directives := by
    have same : document.record.directives.map DirectiveRecord.kept = document.record.directives := by
      rw [Document.record, List.map_map]
      exact List.map_congr_left fun directive member =>
        document.kept_directiveRecord fun reference inside =>
          asked reference (List.mem_append_left _ (List.mem_flatMap.2 ⟨directive, member, inside⟩))
    rw [← same]
    exact shows.directives.map DirectiveRecord.kept fun _ isExtra => isExtra

end Subgraph
