import Subgraph.Federated.Service
import Subgraph.Proofs.Options.Synthesis

/-!
# Federating again

The options that a schema was federated with can be given again.

* Synthesis leaves no gap, so a second one finds nothing to fill
  (`Options.synthesize_synthesize`).
* Placeholders are only ever added as reference resolvers, so valid options
  stay valid (`Options.validate_effectiveOptions`).

Together: federating with the effective options is accepted and gives the same
service (`Schema.federate_effective`).
-/

namespace Subgraph

namespace Options

variable {schema : Schema} {options : Options} {resolvers : ResolverTable} {type : TypeDefinition}

/-! ## No gap is left -/

/-- Nothing is said about types where nothing is missing about them. -/
theorem types_defaults_eq_empty (noExtendGap : ∀ type, ¬ ExtendGap schema options type)
    (noKeyGap : ∀ type, ¬ KeyGap schema options type) :
    (defaults schema options resolvers).types = .empty := by
  apply OrderedMap.ext_entries
  rw [entries_types_defaults, OrderedMap.entries_empty, List.filterMap_eq_nil_iff]
  intro type declared
  rw [gap?_eq_none declared (noExtendGap type) (noKeyGap type)]
  rfl

/-- Without gaps there is nothing to synthesize. -/
theorem synthesize_of_no_gap (auto : options.auto = true)
    (noExtendGap : ∀ type, ¬ ExtendGap schema options type)
    (noKeyGap : ∀ type, ¬ KeyGap schema options type)
    (noReferenceGap : ∀ type, ¬ ReferenceGap schema options resolvers type) :
    synthesize schema options resolvers = options := by
  have noResolvers : (defaults schema options resolvers).resolvers = .empty := by
    have noNames : placeholderNames schema options resolvers = [] := by
      refine List.eq_nil_iff_forall_not_mem.2 fun name filled => ?_
      obtain ⟨type, _, gap⟩ := mem_placeholderNames.1 filled
      exact noReferenceGap type gap
    rw [resolvers_defaults, noNames]
    rfl
  unfold synthesize merge
  rw [types_defaults_eq_empty noExtendGap noKeyGap, noResolvers, mergeTypes_empty,
    ResolverTable.empty_merge, auto, Bool.or_true]
  cases options
  cases auto
  rfl

theorem not_extendGap_synthesize :
    ¬ ExtendGap schema (synthesize schema options resolvers) type := by
  intro gap
  have unmentioned : ¬ options.Mentions type.name.text "@extends" := fun mentioned =>
    gap.unmentioned mentioned.synthesize
  by_cases before : ExtendGap schema options type
  · have filled : (synthesize schema options resolvers).extendOf type.name.text = some true :=
      extendOf_synthesize_of_gap before
    rw [gap.unsaid] at filled
    cases filled
  · have noGap : ∀ other, other.name.text = type.name.text → ¬ ExtendGap schema options other := by
      intro other named otherGap
      cases Schema.eq_of_name_eq otherGap.declared gap.declared named
      exact before otherGap
    have unsaid := gap.unsaid
    rw [extendOf_synthesize_of_no_gap noGap] at unsaid
    exact before ⟨gap.declared, gap.root, gap.unmarked, unsaid, unmentioned⟩

theorem not_keyGap_synthesize : ¬ KeyGap schema (synthesize schema options resolvers) type := by
  intro gap
  have before : KeyGap schema options type :=
    ⟨gap.entity, gap.unmarked, fun mentioned => gap.unmentioned mentioned.synthesize⟩
  obtain ⟨path, _, filled⟩ := directivesOf_synthesize_of_gap before
  apply gap.unmentioned
  refine ⟨_, filled, ?_⟩
  -- The inferred key begins with the very text that is looked for.
  have begins : "@key".toList <:+: (keyDirective path).toList := by
    refine ⟨[], "(fields: \"".toList ++ (Key.text path).toList ++ "\")".toList, ?_⟩
    simp [keyDirective]
  rw [String.toList_append]
  exact begins.trans (List.suffix_append _ _).isInfix

theorem not_referenceGap_synthesize :
    ¬ ReferenceGap schema (synthesize schema options resolvers) resolvers type := by
  intro gap
  have missing := gap.unregistered
  rw [find?_resolvers_synthesize, Option.or_eq_none_iff] at missing
  have filled := mem_placeholderNames.2 ⟨type, rfl, gap.entity, missing.1, gap.ungiven⟩
  rw [if_pos ⟨filled, rfl⟩] at missing
  cases missing.2

/-- Synthesis adds nothing to its own result. -/
theorem synthesize_synthesize :
    synthesize schema (synthesize schema options resolvers) resolvers =
      synthesize schema options resolvers :=
  synthesize_of_no_gap rfl (fun _ => not_extendGap_synthesize) (fun _ => not_keyGap_synthesize)
    (fun _ => not_referenceGap_synthesize)

end Options

/-! ## Valid options stay valid -/

namespace ResolverTable

/-- A type with a resolver for one of its own fields and no reference resolver. -/
theorem lacksReference_iff (table : ResolverTable) (type : String) :
    table.lacksReference type = true ↔
      Name.isRoot type = false ∧
        (∃ field, table.contains type field = true ∧ isMeta field = false) ∧
        table.contains type referenceField = false := by
  simp only [lacksReference, hasReference, Bool.and_eq_true, Bool.not_eq_true', List.any_eq_true,
    mem_fieldNames_iff, and_assoc]

theorem isMeta_iff {field : String} : isMeta field = true ↔ "__".toList <+: field.toList := by
  rw [isMeta, List.isPrefixOf_iff_prefix]
  rfl

/-- A type without the name of a root has a resolver for a field of its own and no reference
resolver. -/
structure LacksReference (table : ResolverTable) (type : String) : Prop where
  notRoot : type ∉ ["Query", "Mutation", "Subscription"]
  own : ∃ field, table.contains type field = true ∧ ¬ "__".toList <+: field.toList
  missing : table.contains type "__resolveReference" = false

theorem lacksReference_eq_true_iff (table : ResolverTable) (type : String) :
    table.lacksReference type = true ↔ table.LacksReference type := by
  rw [lacksReference_iff, ← Bool.not_eq_true, Name.isRoot_iff]
  simp only [← Bool.not_eq_true (isMeta _), isMeta_iff]
  exact ⟨fun ⟨notRoot, own, missing⟩ => ⟨notRoot, own, missing⟩,
    fun lacks => ⟨lacks.notRoot, lacks.own, lacks.missing⟩⟩

theorem missingReference?_eq_none_iff (table : ResolverTable) :
    table.missingReference? = none ↔ ∀ type, table.lacksReference type = false := by
  rw [missingReference?, List.find?_eq_none]
  constructor
  · intro none type
    refine Bool.eq_false_iff.2 fun lacks => ?_
    obtain ⟨field, contained, _⟩ := ((table.lacksReference_iff type).1 lacks).2.1
    exact none type (mem_typeNames_of_contains contained) lacks
  · intro all type _
    rw [all type]
    exact Bool.false_ne_true

end ResolverTable

namespace Options

theorem validate_eq_ok_iff (options : Options) :
    options.validate = .ok () ↔ ∀ type, options.resolvers.lacksReference type = false := by
  rw [← ResolverTable.missingReference?_eq_none_iff, validate]
  cases options.resolvers.missingReference? <;> simp

theorem not_lacksReference_of_validate {options : Options} (valid : options.validate = .ok ())
    (type : String) : ¬ options.resolvers.LacksReference type := by
  rw [← ResolverTable.lacksReference_eq_true_iff, options.validate_eq_ok_iff.1 valid type]
  exact Bool.false_ne_true

/-- Only a reference resolver is ever added, so no type comes to lack one. -/
theorem validate_synthesize {schema : Schema} {options : Options} {resolvers : ResolverTable}
    (valid : options.validate = .ok ()) :
    (synthesize schema options resolvers).validate = .ok () := by
  rw [validate_eq_ok_iff] at valid ⊢
  intro type
  refine Bool.eq_false_iff.2 fun lacks => ?_
  obtain ⟨notRoot, ⟨field, contained, own⟩, missing⟩ :=
    (ResolverTable.lacksReference_iff _ _).1 lacks
  rw [ResolverTable.contains, find?_resolvers_synthesize] at contained missing
  have notReference : field ≠ referenceField := by
    rintro rfl
    revert own
    decide +kernel
  rw [if_neg fun filled => notReference filled.2, Option.or_none] at contained
  rw [Option.isSome_eq_false_iff, Option.isNone_iff_eq_none, Option.or_eq_none_iff] at missing
  have before : options.resolvers.lacksReference type = true :=
    (ResolverTable.lacksReference_iff _ _).2
      ⟨notRoot, ⟨field, contained, own⟩, by rw [ResolverTable.contains, missing.1]; rfl⟩
  rw [valid type] at before
  cases before

end Options

/-! ## The same service again -/

namespace Schema

variable {schema : Schema} {resolvers : ResolverTable} {options : Options}

theorem validate_effectiveOptions (valid : options.validate = .ok ()) :
    (schema.effectiveOptions resolvers options).validate = .ok () := by
  unfold effectiveOptions
  cases options.auto with
  | true => exact Options.validate_synthesize valid
  | false => exact valid

theorem effectiveOptions_effectiveOptions :
    schema.effectiveOptions resolvers (schema.effectiveOptions resolvers options) =
      schema.effectiveOptions resolvers options := by
  cases auto : options.auto with
  | false => simp [effectiveOptions, auto]
  | true =>
      have once : schema.effectiveOptions resolvers options =
          options.synthesize schema resolvers := by simp [effectiveOptions, auto]
      have stillAuto : (options.synthesize schema resolvers).auto = true := rfl
      rw [once, effectiveOptions, if_pos stillAuto, Options.synthesize_synthesize]

/-- Acceptance of options depends on their resolvers only, and says what comes out. -/
theorem federate_eq_ok_iff {federated : FederatedService} :
    schema.federate resolvers options = .ok federated ↔
      options.validate = .ok () ∧
        federated = {
          schema := Sdl.render schema.declarations (schema.effectiveOptions resolvers options).types
          resolvers := resolvers.merge (schema.effectiveOptions resolvers options).resolvers
          options := schema.effectiveOptions resolvers options } := by
  unfold federate
  cases options.validate with
  | error error => simp
  | ok => simp [eq_comm]

/-- A service federated with its own effective options is the same service, with the gaps to be
filled or without. -/
theorem federate_effective {federated : FederatedService}
    (accepted : schema.federate resolvers options = .ok federated) :
    schema.federate resolvers federated.options = .ok federated ∧
      schema.federate resolvers { federated.options with auto := false } =
        .ok { federated with options := { federated.options with auto := false } } ∧
      federated.options.validate = .ok () := by
  obtain ⟨valid, rfl⟩ := federate_eq_ok_iff.1 accepted
  have validAgain : (schema.effectiveOptions resolvers options).validate = .ok () :=
    validate_effectiveOptions valid
  refine ⟨federate_eq_ok_iff.2 ⟨validAgain, ?_⟩, federate_eq_ok_iff.2 ⟨validAgain, rfl⟩, validAgain⟩
  rw [effectiveOptions_effectiveOptions]

/-- A schema with a root type, an entity and a type without fields. -/
def users : Schema where
  types :=
    [{ name := OperationKind.query.defaultRoot,
       body := .object [] [{ name := ⟨"me", by decide⟩, type := .named ⟨"User", by decide⟩ false }] },
      { name := ⟨"User", by decide⟩,
        body := .object [] [{ name := ⟨"login", by decide⟩, type := .named BuiltIn.id true }] },
      { name := ⟨"Nothing", by decide⟩, body := .object [] [] }]
  directives := []
  roots := [(.query, OperationKind.query.defaultRoot)]
  distinct := by decide

/-- The root type and the entity of the schema of users. -/
def usersQuery : TypeDefinition where
  name := OperationKind.query.defaultRoot
  body := .object [] [{ name := ⟨"me", by decide⟩, type := .named ⟨"User", by decide⟩ false }]

@[inherit_doc usersQuery]
def usersUser : TypeDefinition where
  name := ⟨"User", by decide⟩
  body := .object [] [{ name := ⟨"login", by decide⟩, type := .named BuiltIn.id true }]

theorem federate_effective_users :
    ∃ federated, users.federate .empty .automatic = .ok federated ∧
      federated.options.extendOf "Query" = some true ∧
      federated.options.directivesOf "User" = some "@key(fields: \"login\")" ∧
      users.federate .empty federated.options = .ok federated ∧
      users.federate .empty { federated.options with auto := false } =
        .ok { federated with options := { federated.options with auto := false } } ∧
      federated.options.validate = .ok () := by
  have accepted : users.federate .empty .automatic = .ok _ := rfl
  exact ⟨_, accepted, by decide +kernel, by decide +kernel, federate_effective accepted⟩

end Schema

end Subgraph
