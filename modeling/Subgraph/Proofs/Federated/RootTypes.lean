import Subgraph.Proofs.Federated.Registration

/-!
# Roots by definition and roots by name

A schema defines at which types its operations start.  Proxies go by that, but gaps
are filled and options checked by the names of types alone.

* `Schema.IsRoot` is about the first: an object type at which queries or
  mutations start.
* `Schema.TreatedAsRoot` and `Schema.TreatedAsOther` say what becomes of a type
  whose name is that of a root, and what of any other type.
* `Schema.isRoot_treated` says that a root gets its proxies in either case, and
  is treated as a root when it has the name of one, as any other type if not.
-/

namespace Subgraph

/-! ## Registering a resolver for a root -/

namespace ResolverTable

variable {table : ResolverTable} {type field : String} {resolver : Resolver}

theorem fieldNames_insert_of_ne {other : String} (different : other ≠ type) :
    (table.insert type field resolver).fieldNames other = table.fieldNames other := by
  rw [fieldNames_insert, if_neg different, List.append_nil,
    eraseDups_eq_of_nodup (table.nodup_fieldNames other)]

theorem contains_insert_of_ne {other otherField : String} (different : other ≠ type) :
    (table.insert type field resolver).contains other otherField =
      table.contains other otherField := by
  rw [contains, contains, find?_insert, if_neg fun same => different same.1]

theorem lacksReference_eq_false_of_isRoot (root : Name.isRoot type = true) :
    table.lacksReference type = false := by
  rw [lacksReference, root]
  rfl

/-- Resolvers for the fields of a type with the name of a root break no rule. -/
theorem missingReference?_insert_of_isRoot (root : Name.isRoot type = true) :
    (table.insert type field resolver).missingReference? = table.missingReference? := by
  have same : (table.insert type field resolver).lacksReference = table.lacksReference := by
    funext other
    by_cases here : other = type
    · rw [here, lacksReference_eq_false_of_isRoot root, lacksReference_eq_false_of_isRoot root]
    · rw [lacksReference, fieldNames_insert_of_ne here, hasReference, contains_insert_of_ne here]
      rfl
  have kept : [type].find? table.lacksReference = none := by
    rw [List.find?_singleton, lacksReference_eq_false_of_isRoot root]
    rfl
  rw [missingReference?, missingReference?, same, typeNames, insert, OrderedMap.keys_insert]
  split
  · rfl
  · rw [List.find?_append, kept, Option.or_none]
    rfl

end ResolverTable

namespace Schema

/-! ## Two ways to treat a type -/

variable (schema : Schema) (options : Options) (given : ResolverTable) (type : TypeDefinition)

/-- An object type of a schema at which its queries or its mutations start. -/
structure IsRoot : Prop where
  member : type ∈ schema.types
  isObject : type.isObject = true
  starts : ∃ kind ∈ [OperationKind.query, .mutation], schema.root? kind = some type.name

/-- What the options that hold for a schema, and the check of a caller's options, make of a type
that they take for a root: an extension, without a key, without a reference resolver. -/
structure TreatedAsRoot : Prop where
  extended : (∀ directive ∈ type.directives, directive.name.text ≠ "extends") →
    options.extendOf type.name.text = none → ¬ options.Mentions type.name.text "@extends" →
      (schema.effectiveOptions given options).extendOf type.name.text = some true
  decided : (∃ directive ∈ type.directives, directive.name.text = "extends") ∨
      options.extendOf type.name.text ≠ none →
    (schema.effectiveOptions given options).extendOf type.name.text =
      options.extendOf type.name.text
  keyless : (schema.effectiveOptions given options).directivesOf type.name.text =
    options.directivesOf type.name.text
  stubless : ∀ field,
    (schema.effectiveOptions given options).resolvers.find? type.name.text field =
      options.resolvers.find? type.name.text field
  /-- A resolver for a field of the type changes nothing about what is refused. -/
  free : ∀ field resolver,
    (options.withResolvers (options.resolvers.insert type.name.text field resolver)).validate =
      options.validate

/-- What they make of any other type: no extension, an entity with a key and a reference resolver if
it can be one. -/
structure TreatedAsOther : Prop where
  unextended : (schema.effectiveOptions given options).extendOf type.name.text =
    options.extendOf type.name.text
  keyed : KeyGap schema options type → ∃ path, Key.infer? schema type = some path ∧
    (schema.effectiveOptions given options).directivesOf type.name.text =
      some (Options.spaced (options.directivesOf type.name.text) ++ Options.keyDirective path)
  keyKept : ¬ KeyGap schema options type →
    (schema.effectiveOptions given options).directivesOf type.name.text =
      options.directivesOf type.name.text
  stub : ReferenceGap schema options given type →
    (schema.effectiveOptions given options).resolvers.find? type.name.text "__resolveReference" =
      some .placeholder
  resolverKept : ∀ field,
    ¬ (ReferenceGap schema options given type ∧ field = "__resolveReference") →
      (schema.effectiveOptions given options).resolvers.find? type.name.text field =
        options.resolvers.find? type.name.text field
  /-- A resolver for a field of the type needs a reference resolver beside it. -/
  bound : ∀ field, options.resolvers.contains type.name.text field = true →
    ¬ "__".toList <+: field.toList → options.validate = .ok () →
      options.resolvers.contains type.name.text "__resolveReference" = true

section

variable {schema options given type}

/-- A type of a schema is known by the text of its name. -/
theorem eq_of_mem_types {other : TypeDefinition} (member : type ∈ schema.types)
    (otherMember : other ∈ schema.types) (same : other.name.text = type.name.text) :
    other = type :=
  List.inj_on_of_nodup_map schema.distinct otherMember member (Name.text_injective same)

theorem declared_of_isRootName (member : type ∈ schema.types)
    (named : type.name.text ∈ ["Query", "Mutation", "Subscription"]) : type ∈ schema.declared := by
  have notBuiltIn : ∀ name ∈ ["Query", "Mutation", "Subscription"],
      name ∉ BuiltIn.types.map (·.name.text) := by decide +kernel
  rw [declared, List.mem_filter, Bool.not_eq_true']
  refine ⟨member, Bool.eq_false_iff.2 fun builtIn => notBuiltIn _ named ?_⟩
  obtain ⟨other, isBuiltIn, same⟩ := List.any_eq_true.1 builtIn
  exact List.mem_map.2 ⟨other, isBuiltIn, congrArg Name.text (of_decide_eq_true same)⟩

theorem declared_subset : schema.declared ⊆ schema.types := List.filter_sublist.subset

theorem treatedAsRoot_of_name (auto : options.auto = true) (member : type ∈ schema.types)
    (named : type.name.text ∈ ["Query", "Mutation", "Subscription"]) :
    schema.TreatedAsRoot options given type := by
  have declared := declared_of_isRootName member named
  have noEntity (other : TypeDefinition) (same : other.name.text = type.name.text) :
      ¬ schema.IsEntity other := fun entity => entity.notRoot (same ▸ named)
  have effective : schema.effectiveOptions given options = options.synthesize schema given :=
    if_pos auto
  constructor
  case extended =>
    intro unmarked unsaid unmentioned
    rw [effective]
    exact Options.extendOf_synthesize_of_gap ⟨declared, named, unmarked, unsaid, unmentioned⟩
  case decided =>
    intro decided
    rw [effective]
    refine Options.extendOf_synthesize_of_no_gap fun other same gap => ?_
    cases eq_of_mem_types member (declared_subset gap.declared) same
    rcases decided with ⟨directive, applied, mark⟩ | said
    · exact gap.unmarked directive applied mark
    · exact said gap.unsaid
  case keyless =>
    rw [effective]
    exact Options.directivesOf_synthesize_of_no_gap fun other same gap =>
      noEntity other same gap.entity
  case stubless =>
    intro field
    have kept : type.name.text ∉ Options.placeholderNames schema options given := fun filled => by
      obtain ⟨other, same, gap⟩ := Options.mem_placeholderNames.1 filled
      exact noEntity other same gap.entity
    rw [effective, Options.find?_resolvers_synthesize, if_neg fun filled => kept filled.1,
      Option.or_none]
  case free =>
    intro field resolver
    have root := (Name.isRoot_iff _).2 named
    rw [Options.validate, Options.validate, Options.withResolvers,
      ResolverTable.missingReference?_insert_of_isRoot root]

theorem treatedAsOther_of_name (auto : options.auto = true) (member : type ∈ schema.types)
    (named : type.name.text ∉ ["Query", "Mutation", "Subscription"]) :
    schema.TreatedAsOther options given type := by
  have effective : schema.effectiveOptions given options = options.synthesize schema given :=
    if_pos auto
  have isType {other : TypeDefinition} (entity : schema.IsEntity other)
      (same : other.name.text = type.name.text) : other = type :=
    eq_of_mem_types member (declared_subset entity.declared) same
  constructor
  case unextended =>
    rw [effective]
    exact Options.extendOf_synthesize_of_no_gap fun other same gap => named (same ▸ gap.root)
  case keyed =>
    intro gap
    rw [effective]
    exact Options.directivesOf_synthesize_of_gap gap
  case keyKept =>
    intro noGap
    rw [effective]
    exact Options.directivesOf_synthesize_of_no_gap fun other same gap =>
      noGap (isType gap.entity same ▸ gap)
  case stub =>
    intro gap
    have filled := Options.mem_placeholderNames.2 ⟨type, rfl, gap⟩
    rw [effective, Options.find?_resolvers_synthesize, gap.unregistered, if_pos ⟨filled, rfl⟩]
    rfl
  case resolverKept =>
    intro field noGap
    have kept : ¬ (type.name.text ∈ Options.placeholderNames schema options given ∧
        field = referenceField) := by
      rintro ⟨filled, isReference⟩
      obtain ⟨other, same, gap⟩ := Options.mem_placeholderNames.1 filled
      exact noGap ⟨isType gap.entity same ▸ gap, isReference⟩
    rw [effective, Options.find?_resolvers_synthesize, if_neg kept, Option.or_none]
  case bound =>
    intro field registered own valid
    by_contra missing
    exact Options.not_lacksReference_of_validate valid type.name.text
      ⟨named, ⟨field, registered, own⟩, Bool.eq_false_iff.2 missing⟩

/-! ## Roots -/

theorem IsRoot.isRootField (root : schema.IsRoot type) {fields : List FieldDefinition}
    (isObject : type.objectFields? = some fields) {field : FieldDefinition}
    (member : field ∈ fields) : IsRootField schema type.name.text field.name.text := by
  obtain ⟨kind, isKind, starts⟩ := root.starts
  unfold TypeDefinition.objectFields? at isObject
  split at isObject
  next interfaces declared body =>
    cases isObject
    exact ⟨kind, isKind, type.name, starts, rfl, type, find?_of_mem root.member, interfaces, fields,
      body, field, member, rfl⟩
  next => cases isObject

/-- The fields of a root of a schema get proxies, whatever its name is.  For the rest it is treated
as a root if its name is that of one, and as any other type if it is not. -/
theorem isRoot_treated (auto : options.auto = true) (root : schema.IsRoot type) :
    (∃ fields, type.objectFields? = some fields ∧ ∀ field ∈ fields, ∀ url table,
      table.find? type.name.text field.name.text = none →
        (Service.addProxies url schema table).find? type.name.text field.name.text =
          some (.proxy url field.name.text)) ∧
    (type.name.text ∈ ["Query", "Mutation", "Subscription"] →
      schema.TreatedAsRoot options given type) ∧
    (type.name.text ∉ ["Query", "Mutation", "Subscription"] →
      schema.TreatedAsOther options given type) := by
  refine ⟨?_, treatedAsRoot_of_name auto root.member, treatedAsOther_of_name auto root.member⟩
  obtain ⟨fields, isObject⟩ := Option.isSome_iff_exists.1 root.isObject
  refine ⟨fields, isObject, fun field member url table free => ?_⟩
  rw [Service.find?_addProxies, free,
    if_pos (mem_rootFieldNames.2 (root.isRootField isObject member))]
  rfl

end

/-- A root with a name of its own. -/
def customRoot : TypeDefinition where
  name := ⟨"Root", by decide⟩
  body := .object [] [{ name := ⟨"hello", by decide⟩, type := .named BuiltIn.string false }]

/-- A root with the name that is usual for it. -/
def usualRoot : TypeDefinition where
  name := OperationKind.mutation.defaultRoot
  body := .object [] [{ name := ⟨"greet", by decide⟩, type := .named BuiltIn.string false }]

/-- A schema with a root of either kind. -/
def rooted : Schema where
  types := BuiltIn.types ++ [customRoot, usualRoot]
  directives := []
  roots := [(.query, customRoot.name), (.mutation, usualRoot.name)]
  distinct := by decide +kernel

theorem isRoot_customRoot : rooted.IsRoot customRoot where
  member := by simp [rooted]
  isObject := rfl
  starts := ⟨.query, by simp, by decide +kernel⟩

theorem isRoot_usualRoot : rooted.IsRoot usualRoot where
  member := by simp [rooted]
  isObject := rfl
  starts := ⟨.mutation, by simp, by decide +kernel⟩

/-- The fields of both roots get proxies, and the one with the usual name is an extension. -/
theorem isRoot_treated_rooted :
    Options.automatic.auto = true ∧
      (rooted.IsRoot customRoot ∧
        (∀ url, (Service.addProxies url rooted .empty).find? "Root" "hello" =
          some (.proxy url "hello")) ∧
        (rooted.effectiveOptions .empty .automatic).extendOf "Root" = none) ∧
      (rooted.IsRoot usualRoot ∧
        (∀ url, (Service.addProxies url rooted .empty).find? "Mutation" "greet" =
          some (.proxy url "greet")) ∧
        (rooted.effectiveOptions .empty .automatic).extendOf "Mutation" = some true) := by
  have auto : Options.automatic.auto = true := rfl
  obtain ⟨⟨_, isObject, proxied⟩, -, other⟩ :=
    @isRoot_treated rooted .automatic .empty _ auto isRoot_customRoot
  obtain ⟨⟨_, isObject', proxied'⟩, asRoot, -⟩ :=
    @isRoot_treated rooted .automatic .empty _ auto isRoot_usualRoot
  cases isObject
  cases isObject'
  have unmentioned : ¬ Options.automatic.Mentions "Mutation" "@extends" :=
    (Options.any_mentions_eq_false_iff _ _).1 rfl
  exact ⟨auto,
    ⟨isRoot_customRoot, fun url => proxied _ List.mem_cons_self url .empty rfl,
      (other (by decide)).unextended⟩,
    isRoot_usualRoot, fun url => proxied' _ List.mem_cons_self url .empty rfl,
    (asRoot (by decide)).extended (by simp [usualRoot]) rfl unmentioned⟩

/-- The root with a name of its own is not treated as one: it gets a key and a reference resolver,
is no extension, and a resolver for its field alone is refused. -/
theorem not_treatedAsRoot_customRoot :
    (rooted.IsRoot customRoot ∧ ¬ rooted.TreatedAsRoot .automatic .empty customRoot) ∧
      (rooted.effectiveOptions .empty .automatic).directivesOf "Root" =
        some "@key(fields: \"hello\")" ∧
      (rooted.effectiveOptions .empty .automatic).resolvers.contains "Root" "__resolveReference" =
        true ∧
      (rooted.effectiveOptions .empty .automatic).extendOf "Root" = none ∧
      (Options.automatic.withResolvers
        (.ofList [("Root", "hello", .placeholder)])).validate.isOk = false := by
  have keyed : (rooted.effectiveOptions .empty .automatic).directivesOf "Root" =
      some "@key(fields: \"hello\")" := by decide +kernel
  refine ⟨⟨isRoot_customRoot, fun treated => ?_⟩, keyed, by decide +kernel, by decide +kernel,
    by decide +kernel⟩
  exact absurd (keyed.symm.trans treated.keyless) (by decide +kernel)

end Schema

end Subgraph
