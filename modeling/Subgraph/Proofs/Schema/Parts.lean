import Mathlib.Data.List.Nodup
import Subgraph.Schema.Build

/-!
# Schemas of documents without extensions

A document may have directives, schemas and types, one after the other, and
nothing else.

* `Schema.ofDocument?_ofParts_eq_some_iff` says which schema it defines, and
  when it defines one.
-/

namespace Subgraph

namespace Document

/-- The document of directives, schemas and types, in this order. -/
def ofParts (directives : List DirectiveDefinition) (schemas : List SchemaDefinition)
    (types : List TypeDefinition) : Document :=
  directives.map .directive ++ schemas.map .schema ++ types.map .type

/-- The document that defines the built-in types, before another. -/
def withBuiltIn (document : Document) : Document := BuiltIn.types.map .type ++ document

section

variable (directives : List DirectiveDefinition) (schemas : List SchemaDefinition)
  (types : List TypeDefinition)

@[simp] theorem types_ofParts : (ofParts directives schemas types).types = types := by
  simp [ofParts, Document.types, List.filterMap_map]

@[simp] theorem schemas_ofParts : (ofParts directives schemas types).schemas = schemas := by
  simp [ofParts, Document.schemas, List.filterMap_map]

@[simp] theorem directives_ofParts :
    (ofParts directives schemas types).directives = directives := by
  simp [ofParts, Document.directives, List.filterMap_map]

@[simp] theorem typeExtensions_ofParts : (ofParts directives schemas types).typeExtensions = [] := by
  simp [ofParts, typeExtensions, List.filterMap_map]

@[simp] theorem schemaExtensions_ofParts :
    (ofParts directives schemas types).schemaExtensions = [] := by
  simp [ofParts, schemaExtensions, List.filterMap_map]

@[simp] theorem isTypeSystem_ofParts : (ofParts directives schemas types).isTypeSystem = true := by
  simp [ofParts, isTypeSystem]

end

@[simp] theorem types_withBuiltIn (document : Document) :
    document.withBuiltIn.types = BuiltIn.types ++ document.types := by
  simp [withBuiltIn, Document.types, List.filterMap_map]

@[simp] theorem typeExtensions_withBuiltIn (document : Document) :
    document.withBuiltIn.typeExtensions = document.typeExtensions := by
  simp [withBuiltIn, typeExtensions, List.filterMap_map]

/-- Where nothing is extended, a type is as it is defined. -/
theorem extended?_of_typeExtensions {document : Document} (none : document.typeExtensions = [])
    (type : TypeDefinition) : document.extended? type = some type := by
  have without {part : Document} (sublist : part.Sublist document) :
      part.extensionsOf type.name = [] := by
    have same : part.typeExtensions = [] := List.sublist_nil.1 (none ▸ sublist.filterMap _)
    rw [extensionsOf, same]
    rfl
  rw [extended?, without (List.takeWhile_sublist _), without (List.dropWhile_sublist _)]
  rfl

end Document

namespace Schema

/-- A type of a schema is what is found under its name. -/
theorem find?_of_mem {schema : Schema} {type : TypeDefinition} (member : type ∈ schema.types) :
    schema.find? type.name = some type := by
  cases same : schema.types.find? fun other => other.name = type.name with
  | none => exact absurd (decide_eq_true rfl) (List.find?_eq_none.1 same type member)
  | some found =>
      have sameName : found.name = type.name := by simpa using List.find?_some same
      rw [find?, same, List.inj_on_of_nodup_map schema.distinct (List.mem_of_find?_eq_some same)
        member sameName]

theorem guard_bind_eq_some_iff {α : Type} {p : Prop} [Decidable p] {next : Unit → Option α}
    {found : α} : (guard p >>= next) = some found ↔ p ∧ next () = some found := by
  by_cases holds : p
  · have passes : (guard p : Option Unit) = some () := if_pos holds
    rw [passes, Option.bind_eq_bind, Option.bind_some, and_iff_right holds]
  · have stops : (guard p : Option Unit) = none := if_neg holds
    rw [stops]
    constructor
    · intro same
      cases same
    · exact fun both => absurd both.1 holds

/-- Where nothing is extended, the types are those of the document, if none has a part twice. -/
theorem types?_eq_some_iff {document : Document} (none : document.typeExtensions = [])
    {types : List TypeDefinition} :
    types? document = some types ↔
      types = document.types ∧ ∀ type ∈ document.types, type.body.IsDistinct := by
  have each : document.types.mapM document.extended? = some document.types := by
    rw [funext (Document.extended?_of_typeExtensions none)]
    change document.types.mapM (fun type => pure (id type)) = _
    rw [List.mapM_pure, List.map_id]
    rfl
  have distinct : (document.types.all fun type => type.body.IsDistinct) = true ↔
      ∀ type ∈ document.types, type.body.IsDistinct := by
    simp only [List.all_eq_true, decide_eq_true_eq]
  rw [types?, none, guard_bind_eq_some_iff, each, Option.bind_eq_bind, Option.bind_some,
    guard_bind_eq_some_iff, distinct]
  constructor
  · rintro ⟨_, each, same⟩
    cases same
    exact ⟨rfl, each⟩
  · rintro ⟨rfl, each⟩
    exact ⟨rfl, each, rfl⟩

/-- The schema of a document without extensions. -/
theorem ofDocument?_ofParts_eq_some_iff {directives : List DirectiveDefinition}
    {schemas : List SchemaDefinition} {types : List TypeDefinition} {schema : Schema} :
    ofDocument? (Document.ofParts directives schemas types) = some schema ↔
      (directives.map (·.name)).Nodup ∧
        (∀ type ∈ BuiltIn.types ++ types, type.body.IsDistinct) ∧
        roots? (BuiltIn.types ++ types) schemas [] = some schema.roots ∧
        schema.types = BuiltIn.types ++ types ∧ schema.directives = directives := by
  have isFound (found : List TypeDefinition) :
      types? (BuiltIn.types.map .type ++ Document.ofParts directives schemas types) =
          some found ↔
        found = BuiltIn.types ++ types ∧
          ∀ type ∈ BuiltIn.types ++ types, type.body.IsDistinct := by
    change types? (Document.ofParts directives schemas types).withBuiltIn = some found ↔ _
    rw [types?_eq_some_iff (by simp), Document.types_withBuiltIn, Document.types_ofParts]
  rw [ofDocument?, guard_bind_eq_some_iff, guard_bind_eq_some_iff, Option.bind_eq_bind,
    Option.bind_eq_some_iff]
  simp only [isFound, Document.isTypeSystem_ofParts, Document.directives_ofParts,
    Document.schemas_ofParts, Document.schemaExtensions_ofParts, true_and, Option.bind_eq_bind,
    Option.bind_eq_some_iff]
  constructor
  · rintro ⟨distinct, _, ⟨rfl, each⟩, roots, rooted, built⟩
    split at built
    · cases built
      exact ⟨distinct, each, rooted, rfl, rfl⟩
    · cases built
  · rintro ⟨distinct, each, rooted, sameTypes, sameDirectives⟩
    refine ⟨distinct, _, ⟨rfl, each⟩, schema.roots, rooted, ?_⟩
    rw [dif_pos (sameTypes ▸ schema.distinct)]
    cases schema
    cases sameTypes
    cases sameDirectives
    rfl

end Schema

end Subgraph
