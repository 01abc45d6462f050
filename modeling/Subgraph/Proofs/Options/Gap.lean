import Mathlib.Data.List.Nodup
import Subgraph.Options.Synthesis
import Subgraph.Proofs.Language.Name
import Subgraph.Proofs.ResolverTable

/-!
# Gaps

What is missing between a schema and the options for it, said without the
functions that find and fill it.

* `ExtendGap`: a type with the name of a root type, of which nobody has said
  whether it is an extension.
* `KeyGap`: an entity without a key.
* `ReferenceGap`: an entity without a reference resolver.

The lemmas of this module say that `Options.gap?` and `Options.defaults` find
exactly these, and that a schema without gaps has empty defaults.
-/

namespace Subgraph

/-! ## What options say -/

namespace Options

variable (options : Options) (type : String)

/-- What is said about whether a type is an extension. -/
def extendOf : Option Bool := (options.typeOptions? type).bind (·.extend)

/-- The text of the directives of a type. -/
def directivesOf : Option String := (options.typeOptions? type).bind (·.directives)

/-- What is said about the fields of a type. -/
def fieldsOf : OrderedMap String FieldOptions :=
  ((options.typeOptions? type).map (·.fields)).getD .empty

/-- The text of the directives of a type has another text in it. -/
def Mentions (text : String) : Prop :=
  ∃ directives, options.directivesOf type = some directives ∧ text.toList <:+: directives.toList

end Options

/-! ## The gaps -/

/-- An entity: an object type of the document with a field, whose name is not reserved and not
that of a root type. -/
structure Schema.IsEntity (schema : Schema) (type : TypeDefinition) : Prop where
  declared : type ∈ schema.declared
  hasField : ∃ interfaces fields, type.body = .object interfaces fields ∧ fields ≠ []
  notReserved : ¬ "__".toList <+: type.name.text.toList
  notRoot : type.name.text ∉ ["Query", "Mutation", "Subscription"]

section

variable (schema : Schema) (options : Options)

/-- A type with the name of a root type, of which neither the schema nor the caller says whether
it is an extension. -/
structure ExtendGap (type : TypeDefinition) : Prop where
  declared : type ∈ schema.declared
  root : type.name.text ∈ ["Query", "Mutation", "Subscription"]
  unmarked : ∀ directive ∈ type.directives, directive.name.text ≠ "extends"
  unsaid : options.extendOf type.name.text = none
  unmentioned : ¬ options.Mentions type.name.text "@extends"

/-- An entity to which neither the schema nor the caller gives a key. -/
structure KeyGap (type : TypeDefinition) : Prop where
  entity : schema.IsEntity type
  unmarked : ∀ directive ∈ type.directives, directive.name.text ≠ "key"
  unmentioned : ¬ options.Mentions type.name.text "@key"

/-- An entity for which neither the caller's options nor the given table have a reference
resolver. -/
structure ReferenceGap (resolvers : ResolverTable) (type : TypeDefinition) : Prop where
  entity : schema.IsEntity type
  unregistered : options.resolvers.find? type.name.text "__resolveReference" = none
  ungiven : resolvers.find? type.name.text "__resolveReference" = none

end

/-! ## Declared types -/

theorem Name.isRoot_iff (name : String) :
    Name.isRoot name = true ↔ name ∈ ["Query", "Mutation", "Subscription"] := by
  simp only [isRoot, List.any_eq_true, decide_eq_true_eq]
  simp only [OperationKind.all, List.mem_cons, List.not_mem_nil, or_false, exists_eq_or_imp,
    exists_eq_left, OperationKind.defaultRoot]
  exact or_congr eq_comm (or_congr eq_comm eq_comm)

namespace Schema

variable {schema : Schema}

/-- No two declared types have one name. -/
theorem nodup_declared_names (schema : Schema) :
    (schema.declared.map fun type => type.name.text).Nodup := by
  have distinct : (schema.declared.map (·.name)).Nodup :=
    schema.distinct.sublist (List.filter_sublist.map _)
  rw [List.Nodup, List.pairwise_map] at distinct ⊢
  exact distinct.imp fun different same => different (Name.text_injective same)

/-- A declared type is known by the text of its name. -/
theorem eq_of_name_eq {a b : TypeDefinition} (declaredA : a ∈ schema.declared)
    (declaredB : b ∈ schema.declared) (same : a.name.text = b.name.text) : a = b :=
  List.inj_on_of_nodup_map schema.nodup_declared_names declaredA declaredB same

theorem isEntity_iff {type : TypeDefinition} (declared : type ∈ schema.declared) :
    type.isEntity = true ↔ schema.IsEntity type := by
  unfold TypeDefinition.isEntity TypeDefinition.objectFields?
  rw [Bool.and_eq_true, Bool.and_eq_true, Bool.not_eq_true', Bool.not_eq_true',
    ← Bool.not_eq_true, ← Bool.not_eq_true, Name.isReserved_iff, Name.isRoot_iff]
  constructor
  · rintro ⟨⟨notReserved, notRoot⟩, hasField⟩
    refine ⟨declared, ?_, notReserved, notRoot⟩
    split at hasField
    next fields found =>
      split at found
      next interfaces inner body =>
        cases found
        exact ⟨interfaces, fields, body, by simpa using hasField⟩
      next => cases found
    next => cases hasField
  · intro entity
    refine ⟨⟨entity.notReserved, entity.notRoot⟩, ?_⟩
    obtain ⟨interfaces, fields, body, nonempty⟩ := entity.hasField
    rw [body]
    simpa using nonempty

end Schema

theorem TypeDefinition.hasDirective_eq_false_iff (type : TypeDefinition) (name : String) :
    type.hasDirective name = false ↔
      ∀ directive ∈ type.directives, directive.name.text ≠ name := by
  simp [hasDirective]

/-- An object type with a field has a key. -/
theorem Key.infer?_isSome {schema : Schema} {type : TypeDefinition} (entity : schema.IsEntity type) :
    ∃ path, Key.infer? schema type = some path := by
  obtain ⟨interfaces, fields, body, nonempty⟩ := entity.hasField
  unfold infer? TypeDefinition.objectFields?
  rw [body]
  cases fields with
  | nil => exact absurd rfl nonempty
  | cons first rest =>
      rw [Option.getD_some, search]
      cases idField? (first :: rest) with
      | some field => exact ⟨_, rfl⟩
      | none => exact ⟨_, rfl⟩

/-! ## Finding gaps -/

namespace Options

variable {schema : Schema} {options : Options} {type : TypeDefinition}

theorem any_mentions_eq_false_iff (name text : String) :
    ((options.typeOptions? name).any fun said => said.mentions text) = false ↔
      ¬ options.Mentions name text := by
  unfold Mentions directivesOf TypeOptions.mentions
  cases options.typeOptions? name with
  | none => simp
  | some said =>
      rw [Option.any_some, Option.bind_some]
      cases said.directives with
      | none => simp
      | some directives => simp [← Text.isWithin_iff]

theorem saysExtend_eq_false_iff :
    options.saysExtend type = false ↔
      (∀ directive ∈ type.directives, directive.name.text ≠ "extends") ∧
        options.extendOf type.name.text = none ∧
        ¬ options.Mentions type.name.text "@extends" := by
  have split : ((options.typeOptions? type.name.text).any fun said =>
        said.extend.isSome || said.mentions "@extends") =
      ((options.extendOf type.name.text).isSome ||
        (options.typeOptions? type.name.text).any fun said => said.mentions "@extends") := by
    unfold extendOf
    cases options.typeOptions? type.name.text <;> rfl
  rw [saysExtend, split, Bool.or_eq_false_iff, Bool.or_eq_false_iff, any_mentions_eq_false_iff,
    TypeDefinition.hasDirective_eq_false_iff, Option.isSome_eq_false_iff, Option.isNone_iff_eq_none]

theorem saysKey_eq_false_iff :
    options.saysKey type = false ↔
      (∀ directive ∈ type.directives, directive.name.text ≠ "key") ∧
        ¬ options.Mentions type.name.text "@key" := by
  rw [saysKey, Bool.or_eq_false_iff, any_mentions_eq_false_iff,
    TypeDefinition.hasDirective_eq_false_iff]

theorem gap?_of_extendGap (gap : ExtendGap schema options type) :
    gap? schema options type = some { extend := some true } := by
  have silent := saysExtend_eq_false_iff.2 ⟨gap.unmarked, gap.unsaid, gap.unmentioned⟩
  rw [gap?, if_pos ((Name.isRoot_iff _).2 gap.root), silent]
  rfl

theorem gap?_of_keyGap (gap : KeyGap schema options type) {path : List Name}
    (inferred : Key.infer? schema type = some path) :
    gap? schema options type = some { directives := some (keyDirective path) } := by
  have notRoot : ¬ Name.isRoot type.name.text = true := fun root =>
    gap.entity.notRoot ((Name.isRoot_iff _).1 root)
  have entity := (Schema.isEntity_iff gap.entity.declared).2 gap.entity
  have silent := saysKey_eq_false_iff.2 ⟨gap.unmarked, gap.unmentioned⟩
  rw [gap?, if_neg notRoot, entity, silent, inferred]
  rfl

/-- Where nothing is missing, nothing is found to be. -/
theorem gap?_eq_none (declared : type ∈ schema.declared)
    (noExtendGap : ¬ ExtendGap schema options type) (noKeyGap : ¬ KeyGap schema options type) :
    gap? schema options type = none := by
  unfold gap?
  by_cases root : Name.isRoot type.name.text = true
  · rw [if_pos root]
    cases said : options.saysExtend type with
    | true => rfl
    | false =>
        obtain ⟨unmarked, unsaid, unmentioned⟩ := saysExtend_eq_false_iff.1 said
        exact absurd ⟨declared, (Name.isRoot_iff _).1 root, unmarked, unsaid, unmentioned⟩
          noExtendGap
  · rw [if_neg root]
    cases entity : type.isEntity with
    | false => rfl
    | true =>
        cases said : options.saysKey type with
        | true => rfl
        | false =>
            obtain ⟨unmarked, unmentioned⟩ := saysKey_eq_false_iff.1 said
            exact absurd ⟨(Schema.isEntity_iff declared).1 entity, unmarked, unmentioned⟩ noKeyGap

/-- What is found is one of the two gaps. -/
theorem gap_of_gap?_isSome (declared : type ∈ schema.declared)
    (found : (gap? schema options type).isSome = true) :
    ExtendGap schema options type ∨ KeyGap schema options type := by
  by_contra noGap
  rw [not_or] at noGap
  rw [gap?_eq_none declared noGap.1 noGap.2] at found
  cases found

theorem needsPlaceholder_iff {resolvers : ResolverTable} (declared : type ∈ schema.declared) :
    needsPlaceholder options resolvers type = true ↔
      ReferenceGap schema options resolvers type := by
  unfold needsPlaceholder ResolverTable.hasReference ResolverTable.contains
  rw [Bool.and_eq_true, Bool.and_eq_true, Schema.isEntity_iff declared, Bool.not_eq_true',
    Bool.not_eq_true', Option.isSome_eq_false_iff, Option.isSome_eq_false_iff,
    Option.isNone_iff_eq_none, Option.isNone_iff_eq_none]
  constructor
  · rintro ⟨⟨entity, unregistered⟩, ungiven⟩
    exact ⟨entity, unregistered, ungiven⟩
  · rintro ⟨entity, unregistered, ungiven⟩
    exact ⟨⟨entity, unregistered⟩, ungiven⟩

end Options

end Subgraph
