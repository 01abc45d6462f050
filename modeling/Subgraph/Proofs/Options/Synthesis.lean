import Subgraph.Proofs.Options.Gap

/-!
# What synthesis does

The leaves of synthesized options, one by one: what is said about extensions,
directives, fields and resolvers.

* A gap is filled, and what is no gap stays as the caller has it.
  `Options.FillsGaps` says this leaf by leaf and with the order of the entries,
  and `synthesize_fillsGaps` that synthesis does it.
* The types that get a placeholder are `placeholderNames`.
-/

namespace Subgraph

namespace Options

variable (schema : Schema) (options : Options) (resolvers : ResolverTable)

/-! ## The defaults -/

theorem default_names_sublist (types : List TypeDefinition)
    (gap : TypeDefinition → Option TypeOptions) :
    List.Sublist
      ((types.filterMap fun type => (gap type).map fun gap => (type.name.text, gap)).map Prod.fst)
      (types.map fun type => type.name.text) := by
  induction types with
  | nil => exact List.Sublist.slnil
  | cons type rest ih =>
      cases found : gap type with
      | none => simpa [found] using ih.cons type.name.text
      | some missing => simpa [found] using ih.cons_cons type.name.text

/-- The types of the defaults, in the order of the schema. -/
theorem entries_types_defaults :
    (defaults schema options resolvers).types.entries = schema.declared.filterMap fun type =>
      (gap? schema options type).map fun gap => (type.name.text, gap) :=
  OrderedMap.entries_ofList
    (schema.nodup_declared_names.sublist (default_names_sublist schema.declared _))

theorem keys_types_defaults_sublist : List.Sublist (defaults schema options resolvers).types.keys
    (schema.declared.map fun type => type.name.text) := by
  rw [OrderedMap.keys, entries_types_defaults]
  exact default_names_sublist schema.declared _

variable {schema options resolvers}

/-- The defaults have something to say about a type exactly when something is missing there. -/
theorem find?_types_defaults {type : TypeDefinition} (declared : type ∈ schema.declared) :
    (defaults schema options resolvers).types.find? type.name.text = gap? schema options type := by
  have distinct := schema.nodup_declared_names
  unfold OrderedMap.find?
  rw [entries_types_defaults]
  generalize schema.declared = types at declared distinct
  induction types with
  | nil => cases declared
  | cons first rest ih =>
      rw [List.map_cons, List.nodup_cons] at distinct
      rw [List.filterMap_cons]
      rcases List.mem_cons.1 declared with here | later
      · subst here
        cases found : gap? schema options type with
        | some gap => simp [Assoc.find?]
        | none =>
            refine (Assoc.find?_eq_none_iff _ _).2 fun member => distinct.1 ?_
            change _ ∈ (rest.filterMap _).map Prod.fst at member
            simp only [List.mem_map, List.mem_filterMap, Option.map_eq_some_iff] at member
            obtain ⟨_, ⟨other, known, _, _, rfl⟩, same⟩ := member
            exact List.mem_map.2 ⟨other, known, same⟩
      · have different : first.name.text ≠ type.name.text := fun same =>
          distinct.1 (same ▸ List.mem_map_of_mem (f := fun type => type.name.text) later)
        cases found : gap? schema options first with
        | none => simpa using ih later distinct.2
        | some gap => simpa [Assoc.find?, different] using ih later distinct.2

/-- What the defaults say about a type is about a type of the schema. -/
theorem exists_declared_of_find?_types_defaults {name : String} {gap : TypeOptions}
    (found : (defaults schema options resolvers).types.find? name = some gap) :
    ∃ type ∈ schema.declared, type.name.text = name ∧ gap? schema options type = some gap := by
  have known := (OrderedMap.find?_isSome_iff _ _).1 (Option.isSome_of_eq_some found)
  rw [OrderedMap.keys, entries_types_defaults] at known
  simp only [List.mem_map, List.mem_filterMap, Option.map_eq_some_iff] at known
  obtain ⟨_, ⟨type, declared, _, _, rfl⟩, same⟩ := known
  cases same
  exact ⟨type, declared, rfl, (find?_types_defaults declared).symm.trans found⟩

theorem exists_gap_of_gap?_eq_some {type : TypeDefinition} (declared : type ∈ schema.declared)
    {gap : TypeOptions} (found : gap? schema options type = some gap) :
    (ExtendGap schema options type ∧ gap = { extend := some true }) ∨
      ∃ path, KeyGap schema options type ∧ Key.infer? schema type = some path ∧
        gap = { directives := some (keyDirective path) } := by
  rcases gap_of_gap?_isSome declared (Option.isSome_of_eq_some found) with extendGap | keyGap
  · rw [gap?_of_extendGap extendGap] at found
    exact Or.inl ⟨extendGap, (Option.some.inj found).symm⟩
  · obtain ⟨path, inferred⟩ := Key.infer?_isSome keyGap.entity
    rw [gap?_of_keyGap keyGap inferred] at found
    exact Or.inr ⟨path, keyGap, inferred, (Option.some.inj found).symm⟩

/-- The defaults are about the types with a gap. -/
theorem mem_keys_types_defaults {name : String} :
    name ∈ (defaults schema options resolvers).types.keys ↔
      ∃ type, type.name.text = name ∧
        (ExtendGap schema options type ∨ KeyGap schema options type) := by
  rw [← OrderedMap.find?_isSome_iff]
  constructor
  · intro known
    obtain ⟨gap, found⟩ := Option.isSome_iff_exists.1 known
    obtain ⟨type, declared, named, found⟩ := exists_declared_of_find?_types_defaults found
    exact ⟨type, named, gap_of_gap?_isSome declared (Option.isSome_of_eq_some found)⟩
  · rintro ⟨type, rfl, extendGap | keyGap⟩
    · rw [find?_types_defaults extendGap.declared, gap?_of_extendGap extendGap]
      rfl
    · obtain ⟨path, inferred⟩ := Key.infer?_isSome keyGap.entity
      rw [find?_types_defaults keyGap.entity.declared, gap?_of_keyGap keyGap inferred]
      rfl

/-! ## Merged types -/

theorem find?_mergeTypes (defaults overrides : OrderedMap String TypeOptions) (name : String) :
    (mergeTypes defaults overrides).find? name =
      match overrides.find? name, defaults.find? name with
      | some said, some gap => some (gap.merge said)
      | some said, none => some said
      | none, gap => gap := by
  have distinct : ((defaults.entries.filter fun entry =>
      !overrides.contains entry.1).map Prod.fst).Nodup :=
    defaults.distinct.sublist (List.filter_sublist.map Prod.fst)
  unfold mergeTypes
  rw [OrderedMap.find?_insertAll _ distinct, OrderedMap.find?_mapValues,
    Assoc.find?_filter_key (fun name => !overrides.contains name)]
  change (if _ then defaults.find? name else none).or _ = _
  unfold OrderedMap.contains
  cases overrides.find? name with
  | none => cases defaults.find? name <;> rfl
  | some said => cases defaults.find? name <;> rfl

theorem keys_mergeTypes (defaults overrides : OrderedMap String TypeOptions) :
    (mergeTypes defaults overrides).keys =
      overrides.keys ++ defaults.keys.filter fun name => name ∉ overrides.keys := by
  have names : (defaults.entries.filter fun entry => !overrides.contains entry.1).map Prod.fst =
      defaults.keys.filter fun name => name ∉ overrides.keys := by
    rw [show defaults.keys = defaults.entries.map Prod.fst from rfl, List.filter_map]
    refine congrArg (List.map Prod.fst) (List.filter_congr fun entry _ => ?_)
    rw [Function.comp_apply, Bool.eq_iff_iff, Bool.not_eq_true', decide_eq_true_eq,
      ← Bool.not_eq_true, OrderedMap.contains_iff]
  unfold mergeTypes
  rw [OrderedMap.keys_insertAll, names, OrderedMap.keys_mapValues, List.filter_filter]
  · simp
  · rw [names]
    exact defaults.distinct.sublist List.filter_sublist

@[simp] theorem mergeTypes_empty (overrides : OrderedMap String TypeOptions) :
    mergeTypes .empty overrides = overrides := by
  apply OrderedMap.ext_entries
  simp [mergeTypes]

/-! ## The leaves of merged options -/

section

variable (defaults overrides : Options) (name : String)

theorem extendOf_merge : (defaults.merge overrides).extendOf name =
    (overrides.extendOf name).or (defaults.extendOf name) := by
  unfold extendOf typeOptions? merge
  rw [find?_mergeTypes]
  cases overrides.types.find? name with
  | none => rfl
  | some said =>
      cases defaults.types.find? name with
      | none => exact (Option.or_none).symm
      | some gap => rfl

theorem directivesOf_merge : (defaults.merge overrides).directivesOf name =
    TypeOptions.joinDirectives (overrides.directivesOf name) (defaults.directivesOf name) := by
  unfold directivesOf typeOptions? merge
  rw [find?_mergeTypes]
  cases overrides.types.find? name with
  | none => rfl
  | some said =>
      cases defaults.types.find? name with
      | some gap => rfl
      | none =>
          change said.directives = TypeOptions.joinDirectives said.directives none
          cases said.directives <;> rfl

theorem fieldsOf_merge : (defaults.merge overrides).fieldsOf name =
    (defaults.fieldsOf name).insertAll (overrides.fieldsOf name).entries := by
  unfold fieldsOf typeOptions? merge
  rw [find?_mergeTypes]
  cases overrides.types.find? name with
  | none => rfl
  | some said =>
      cases defaults.types.find? name with
      | some gap => rfl
      | none => exact (OrderedMap.insertAll_empty_entries said.fields).symm

end

/-! ## The leaves of the result -/

variable (schema options resolvers)

theorem extendOf_synthesize (name : String) :
    (synthesize schema options resolvers).extendOf name =
      (options.extendOf name).or
        (((defaults schema options resolvers).types.find? name).bind (·.extend)) :=
  extendOf_merge ..

theorem directivesOf_synthesize (name : String) :
    (synthesize schema options resolvers).directivesOf name =
      TypeOptions.joinDirectives (options.directivesOf name)
        (((defaults schema options resolvers).types.find? name).bind (·.directives)) :=
  directivesOf_merge ..

/-- The fields are those of the caller, since no gap is about a field. -/
theorem fieldsOf_synthesize (name : String) :
    (synthesize schema options resolvers).fieldsOf name = options.fieldsOf name := by
  have noFields : (defaults schema options resolvers).fieldsOf name = .empty := by
    unfold fieldsOf typeOptions?
    cases found : (defaults schema options resolvers).types.find? name with
    | none => rfl
    | some gap =>
        obtain ⟨type, declared, _, found⟩ := exists_declared_of_find?_types_defaults found
        rcases exists_gap_of_gap?_eq_some declared found with ⟨_, rfl⟩ | ⟨_, _, _, rfl⟩ <;> rfl
  rw [synthesize, fieldsOf_merge, noFields, OrderedMap.insertAll_empty_entries]

variable {schema options resolvers}

theorem extendOf_synthesize_of_gap {type : TypeDefinition} (gap : ExtendGap schema options type) :
    (synthesize schema options resolvers).extendOf type.name.text = some true := by
  rw [extendOf_synthesize, gap.unsaid, find?_types_defaults gap.declared, gap?_of_extendGap gap]
  rfl

theorem extendOf_synthesize_of_no_gap {name : String}
    (noGap : ∀ type, type.name.text = name → ¬ ExtendGap schema options type) :
    (synthesize schema options resolvers).extendOf name = options.extendOf name := by
  rw [extendOf_synthesize]
  cases found : (defaults schema options resolvers).types.find? name with
  | none => exact Option.or_none
  | some gap =>
      obtain ⟨type, declared, named, found⟩ := exists_declared_of_find?_types_defaults found
      rcases exists_gap_of_gap?_eq_some declared found with ⟨extendGap, _⟩ | ⟨_, _, _, rfl⟩
      · exact absurd extendGap (noGap type named)
      · exact Option.or_none

/-- The text of the caller, or nothing, with a space behind it where there is a text. -/
def spaced : Option String → String
  | some text => text ++ " "
  | none => ""

theorem directivesOf_synthesize_of_gap {type : TypeDefinition} (gap : KeyGap schema options type) :
    ∃ path, Key.infer? schema type = some path ∧
      (synthesize schema options resolvers).directivesOf type.name.text =
        some (spaced (options.directivesOf type.name.text) ++ keyDirective path) := by
  obtain ⟨path, inferred⟩ := Key.infer?_isSome gap.entity
  refine ⟨path, inferred, ?_⟩
  rw [directivesOf_synthesize, find?_types_defaults gap.entity.declared,
    gap?_of_keyGap gap inferred]
  cases options.directivesOf type.name.text with
  | none => simp [TypeOptions.joinDirectives, spaced]
  | some text => simp [TypeOptions.joinDirectives, spaced]

theorem directivesOf_synthesize_of_no_gap {name : String}
    (noGap : ∀ type, type.name.text = name → ¬ KeyGap schema options type) :
    (synthesize schema options resolvers).directivesOf name = options.directivesOf name := by
  have nothing :
      ((defaults schema options resolvers).types.find? name).bind (·.directives) = none := by
    cases found : (defaults schema options resolvers).types.find? name with
    | none => rfl
    | some gap =>
        obtain ⟨type, declared, named, found⟩ := exists_declared_of_find?_types_defaults found
        rcases exists_gap_of_gap?_eq_some declared found with ⟨_, rfl⟩ | ⟨_, keyGap, _, _⟩
        · rfl
        · exact absurd keyGap (noGap type named)
  rw [directivesOf_synthesize, nothing]
  cases options.directivesOf name <;> rfl

/-- What the directives of the caller mention, the result mentions too. -/
theorem Mentions.synthesize {name text : String} (mentioned : options.Mentions name text) :
    (synthesize schema options resolvers).Mentions name text := by
  obtain ⟨directives, said, within⟩ := mentioned
  unfold Mentions
  rw [directivesOf_synthesize, said]
  cases ((defaults schema options resolvers).types.find? name).bind (·.directives) with
  | none => exact ⟨directives, rfl, within⟩
  | some key =>
      refine ⟨directives ++ " " ++ key, rfl, within.trans ?_⟩
      rw [String.toList_append, String.toList_append, List.append_assoc]
      exact List.infix_append' [] directives.toList _

/-- The names of the types that get a placeholder, in the order of the schema. -/
def placeholderNames (schema : Schema) (options : Options) (resolvers : ResolverTable) :
    List String :=
  (schema.declared.filter (needsPlaceholder options resolvers)).map fun type => type.name.text

theorem placeholderNames_sublist : List.Sublist (placeholderNames schema options resolvers)
    (schema.declared.map fun type => type.name.text) :=
  List.filter_sublist.map _

theorem mem_placeholderNames {name : String} :
    name ∈ placeholderNames schema options resolvers ↔
      ∃ type, type.name.text = name ∧ ReferenceGap schema options resolvers type := by
  simp only [placeholderNames, List.mem_map, List.mem_filter]
  constructor
  · rintro ⟨type, ⟨declared, needed⟩, named⟩
    exact ⟨type, named, (needsPlaceholder_iff declared).1 needed⟩
  · rintro ⟨type, named, gap⟩
    have declared := gap.entity.declared
    exact ⟨type, ⟨declared, (needsPlaceholder_iff declared).2 gap⟩, named⟩

theorem resolvers_defaults : (defaults schema options resolvers).resolvers =
    .ofList ((placeholderNames schema options resolvers).map fun name =>
      (name, referenceField, Resolver.placeholder)) := by
  rw [placeholderNames, List.map_map]
  rfl

theorem nodup_placeholderNames : (placeholderNames schema options resolvers).Nodup :=
  schema.nodup_declared_names.sublist placeholderNames_sublist

/-- A resolver of the result is one of the caller or a placeholder for a missing reference
resolver. -/
theorem find?_resolvers_synthesize (name field : String) :
    (synthesize schema options resolvers).resolvers.find? name field =
      (options.resolvers.find? name field).or
        (if name ∈ placeholderNames schema options resolvers ∧ field = referenceField then
          some .placeholder
        else none) := by
  unfold synthesize merge
  rw [ResolverTable.find?_merge, resolvers_defaults,
    ResolverTable.find?_ofList nodup_placeholderNames]

theorem typeNames_resolvers_synthesize :
    (synthesize schema options resolvers).resolvers.typeNames =
      placeholderNames schema options resolvers ++ options.resolvers.typeNames.filter fun name =>
        name ∉ placeholderNames schema options resolvers := by
  unfold synthesize merge
  rw [ResolverTable.typeNames_merge, resolvers_defaults,
    ResolverTable.typeNames_ofList nodup_placeholderNames]

/-! ## Gaps are filled, and nothing else changes -/

/-- Options are those of a caller with the gaps of a schema filled and nothing else changed. -/
structure FillsGaps (schema : Schema) (options : Options) (resolvers : ResolverTable)
    (effective : Options) : Prop where
  auto : effective.auto = true
  /-- The caller's types come first.  Then come those of the schema that have a gap, in its
  order. -/
  typeOrder : ∃ added, effective.types.keys = options.types.keys ++ added ∧
    List.Sublist added (schema.declared.map fun type => type.name.text) ∧
    ∀ name, name ∈ added ↔ name ∉ options.types.keys ∧
      ∃ type, type.name.text = name ∧ (ExtendGap schema options type ∨ KeyGap schema options type)
  fields : ∀ name, effective.fieldsOf name = options.fieldsOf name
  extendFilled : ∀ type, ExtendGap schema options type →
    effective.extendOf type.name.text = some true
  extendKept : ∀ name, (∀ type, type.name.text = name → ¬ ExtendGap schema options type) →
    effective.extendOf name = options.extendOf name
  /-- A key is inferred for every key gap, and goes behind the text of the caller. -/
  keyFilled : ∀ type, KeyGap schema options type → ∃ path, Key.infer? schema type = some path ∧
    effective.directivesOf type.name.text =
      some (spaced (options.directivesOf type.name.text) ++
        ("@key(fields: \"" ++ Key.text path ++ "\")"))
  directivesKept : ∀ name, (∀ type, type.name.text = name → ¬ KeyGap schema options type) →
    effective.directivesOf name = options.directivesOf name
  /-- A reference gap gets a placeholder. -/
  referenceFilled : ∀ type, ReferenceGap schema options resolvers type →
    effective.resolvers.find? type.name.text "__resolveReference" = some .placeholder
  resolverKept : ∀ name field,
    (∀ type, ReferenceGap schema options resolvers type →
      ¬ (type.name.text = name ∧ field = "__resolveReference")) →
    effective.resolvers.find? name field = options.resolvers.find? name field
  /-- The types that get a placeholder come first, in the order of the schema. -/
  resolverOrder : ∃ filled,
    effective.resolvers.typeNames =
      filled ++ options.resolvers.typeNames.filter (fun name => name ∉ filled) ∧
    List.Sublist filled (schema.declared.map fun type => type.name.text) ∧
    ∀ name, name ∈ filled ↔
      ∃ type, type.name.text = name ∧ ReferenceGap schema options resolvers type

/-- Synthesis fills the gaps, each with its value and in its place, and changes nothing else. -/
theorem synthesize_fillsGaps (schema : Schema) (options : Options) (resolvers : ResolverTable) :
    FillsGaps schema options resolvers (synthesize schema options resolvers) where
  auto := rfl
  typeOrder := by
    refine ⟨_, keys_mergeTypes _ _, List.filter_sublist.trans (keys_types_defaults_sublist ..), ?_⟩
    intro name
    rw [List.mem_filter, mem_keys_types_defaults, decide_eq_true_eq, and_comm]
  fields := fieldsOf_synthesize schema options resolvers
  extendFilled _ gap := extendOf_synthesize_of_gap gap
  extendKept _ noGap := extendOf_synthesize_of_no_gap noGap
  keyFilled _ gap := directivesOf_synthesize_of_gap gap
  directivesKept _ noGap := directivesOf_synthesize_of_no_gap noGap
  referenceFilled type gap := by
    have unregistered : options.resolvers.find? type.name.text referenceField = none :=
      gap.unregistered
    have filled := mem_placeholderNames.2 ⟨type, rfl, gap⟩
    change _ = some Resolver.placeholder
    rw [show "__resolveReference" = referenceField from rfl, find?_resolvers_synthesize,
      unregistered, if_pos ⟨filled, rfl⟩]
    rfl
  resolverKept name field noGap := by
    have kept : ¬ (name ∈ placeholderNames schema options resolvers ∧ field = referenceField) := by
      rintro ⟨filled, isReference⟩
      obtain ⟨type, named, gap⟩ := mem_placeholderNames.1 filled
      exact noGap type gap ⟨named, isReference⟩
    rw [find?_resolvers_synthesize, if_neg kept, Option.or_none]
  resolverOrder :=
    ⟨placeholderNames schema options resolvers, typeNames_resolvers_synthesize,
      placeholderNames_sublist, fun _ => mem_placeholderNames⟩

end Options

end Subgraph
