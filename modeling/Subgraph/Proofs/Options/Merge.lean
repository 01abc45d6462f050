import Mathlib.Algebra.BigOperators.Group.List.Basic
import Subgraph.Proofs.Options.Synthesis

/-!
# Merging options

* `Options.Merges` says leaf by leaf what defaults and overrides come to together.
* Options are known by their leaves and the order of their entries
  (`Options.ext_leaves`), so no other options than the merged ones are that
  (`Options.Merges.unique`).
* Merging is a monoid, and layers may be merged in any groups
  (`Options.layered_map_layered`).

`Options.merges_iff_and_monoid` is all of this together.
-/

namespace Subgraph

/-- Three texts of directives may be joined from either end. -/
theorem TypeOptions.joinDirectives_assoc (first second third : Option String) :
    joinDirectives (joinDirectives first second) third =
      joinDirectives first (joinDirectives second third) := by
  cases first <;> cases second <;> cases third <;> simp [joinDirectives, String.append_assoc]

namespace Options

/-! ## Leaf by leaf -/

/-- Options have at each leaf what overrides say there, or else what defaults say. -/
structure Merges (defaults overrides merged : Options) : Prop where
  auto : merged.auto = (defaults.auto || overrides.auto)
  /-- The types of the overrides come first, then those that only the defaults know. -/
  types : merged.types.keys =
    overrides.types.keys ++ defaults.types.keys.filter fun type => type ∉ overrides.types.keys
  distinct : merged.types.keys.Nodup
  extend : ∀ type, merged.extendOf type = (overrides.extendOf type).or (defaults.extendOf type)
  /-- Where both sides have directives, those of the overrides come first. -/
  bothDirectives : ∀ type first second, overrides.directivesOf type = some first →
    defaults.directivesOf type = some second →
    merged.directivesOf type = some (first ++ " " ++ second)
  ownDirectives : ∀ type, defaults.directivesOf type = none →
    merged.directivesOf type = overrides.directivesOf type
  otherDirectives : ∀ type, overrides.directivesOf type = none →
    merged.directivesOf type = defaults.directivesOf type
  /-- The fields of the defaults come first, then those that only the overrides know. -/
  fields : ∀ type, (merged.fieldsOf type).keys = (defaults.fieldsOf type).keys ++
    (overrides.fieldsOf type).keys.filter fun field => field ∉ (defaults.fieldsOf type).keys
  /-- What the overrides say about a field replaces what the defaults say about it. -/
  field : ∀ type field, (merged.fieldsOf type).find? field =
    ((overrides.fieldsOf type).find? field).or ((defaults.fieldsOf type).find? field)
  /-- Types and fields with a resolver come in the order in which each of them came first. -/
  resolverTypes : merged.resolvers.typeNames =
    (defaults.resolvers.typeNames ++ overrides.resolvers.typeNames).eraseDups
  resolverFields : ∀ type, merged.resolvers.fieldNames type =
    (defaults.resolvers.fieldNames type ++ overrides.resolvers.fieldNames type).eraseDups
  resolver : ∀ type field, merged.resolvers.find? type field =
    (overrides.resolvers.find? type field).or (defaults.resolvers.find? type field)

theorem merges_merge (defaults overrides : Options) :
    Merges defaults overrides (defaults.merge overrides) where
  auto := rfl
  types := keys_mergeTypes ..
  distinct := (defaults.merge overrides).types.distinct
  extend := extendOf_merge defaults overrides
  bothDirectives type first second own other := by
    rw [directivesOf_merge, own, other]
    rfl
  ownDirectives type none := by
    rw [directivesOf_merge, none]
    cases overrides.directivesOf type <;> rfl
  otherDirectives type none := by
    rw [directivesOf_merge, none]
    rfl
  fields type := by rw [fieldsOf_merge, OrderedMap.keys_insertAll_entries]
  field type field := by rw [fieldsOf_merge, OrderedMap.find?_insertAll_entries]
  resolverTypes := ResolverTable.typeNames_merge_eq ..
  resolverFields := ResolverTable.fieldNames_merge _ _
  resolver := ResolverTable.find?_merge _ _

/-! ## Equal options -/

/-- Options with the same types in order and the same leaves are equal. -/
theorem ext_leaves {a b : Options} (auto : a.auto = b.auto) (types : a.types.keys = b.types.keys)
    (extend : ∀ type, a.extendOf type = b.extendOf type)
    (directives : ∀ type, a.directivesOf type = b.directivesOf type)
    (fields : ∀ type, a.fieldsOf type = b.fieldsOf type) (resolvers : a.resolvers = b.resolvers) :
    a = b := by
  have same : a.types = b.types := OrderedMap.ext_find? types fun type => by
    have listed : (a.types.find? type).isSome = (b.types.find? type).isSome := by
      rw [Bool.eq_iff_iff, OrderedMap.find?_isSome_iff, OrderedMap.find?_isSome_iff, types]
    have sameExtend := extend type
    have sameDirectives := directives type
    have sameFields := fields type
    unfold extendOf typeOptions? at sameExtend
    unfold directivesOf typeOptions? at sameDirectives
    unfold fieldsOf typeOptions? at sameFields
    cases inA : a.types.find? type with
    | none =>
        rw [inA] at listed
        exact (Option.isNone_iff_eq_none.1 (by simpa using listed.symm)).symm
    | some saidA =>
        rw [inA] at listed sameExtend sameDirectives sameFields
        obtain ⟨saidB, inB⟩ := Option.isSome_iff_exists.1 listed.symm
        rw [inB] at sameExtend sameDirectives sameFields ⊢
        obtain ⟨extendA, directivesA, fieldsA⟩ := saidA
        obtain ⟨extendB, directivesB, fieldsB⟩ := saidB
        cases sameExtend
        cases sameDirectives
        cases sameFields
        rfl
  obtain ⟨autoA, typesA, resolversA⟩ := a
  obtain ⟨autoB, typesB, resolversB⟩ := b
  cases auto
  cases same
  cases resolvers
  rfl

/-- No two options are the merged ones. -/
theorem Merges.unique {defaults overrides merged other : Options}
    (merges : Merges defaults overrides merged) (merges' : Merges defaults overrides other) :
    merged = other := by
  refine ext_leaves (merges.auto.trans merges'.auto.symm) (merges.types.trans merges'.types.symm)
    (fun type => (merges.extend type).trans (merges'.extend type).symm) (fun type => ?_)
    (fun type => ?_) ?_
  · cases own : overrides.directivesOf type with
    | none => rw [merges.otherDirectives type own, merges'.otherDirectives type own]
    | some first =>
        cases default : defaults.directivesOf type with
        | none => rw [merges.ownDirectives type default, merges'.ownDirectives type default]
        | some second =>
            rw [merges.bothDirectives type first second own default,
              merges'.bothDirectives type first second own default]
  · exact OrderedMap.ext_find? ((merges.fields type).trans (merges'.fields type).symm)
      fun field => (merges.field type field).trans (merges'.field type field).symm
  · exact ResolverTable.ext_find? (merges.resolverTypes.trans merges'.resolverTypes.symm)
      (fun type => (merges.resolverFields type).trans (merges'.resolverFields type).symm)
      fun type field => (merges.resolver type field).trans (merges'.resolver type field).symm

theorem merges_iff {defaults overrides merged : Options} :
    Merges defaults overrides merged ↔ merged = defaults.merge overrides :=
  ⟨fun merges => merges.unique (merges_merge defaults overrides),
    fun same => same ▸ merges_merge defaults overrides⟩

/-! ## The monoid -/

/-- The types of merged options come in the order in which each of them came first, the overrides
ahead of the defaults. -/
theorem keys_types_merge (defaults overrides : Options) :
    (defaults.merge overrides).types.keys =
      (overrides.types.keys ++ defaults.types.keys).eraseDups :=
  (keys_mergeTypes ..).trans
    (append_filter_eq_eraseDups overrides.types.distinct defaults.types.distinct)

theorem merge_assoc (a b c : Options) : (a.merge b).merge c = a.merge (b.merge c) := by
  refine ext_leaves (Bool.or_assoc ..) ?_ (fun type => ?_) (fun type => ?_) (fun type => ?_)
    (ResolverTable.merge_assoc ..)
  · simp only [keys_types_merge, eraseDups_eraseDups_append, eraseDups_append_eraseDups,
      List.append_assoc]
  · simp only [extendOf_merge, Option.or_assoc]
  · simp only [directivesOf_merge, TypeOptions.joinDirectives_assoc]
  · simp only [fieldsOf_merge, OrderedMap.insertAll_insertAll]

theorem empty_merge (options : Options) : empty.merge options = options := by
  unfold merge empty
  rw [mergeTypes_empty, Bool.false_or]
  exact congrArg (Options.mk _ _) (ResolverTable.empty_merge options.resolvers)

theorem merge_empty (options : Options) : options.merge empty = options := by
  have all : (options.types.entries.filter fun entry =>
      !(OrderedMap.empty : OrderedMap String TypeOptions).contains entry.1) =
        options.types.entries :=
    List.filter_eq_self.2 fun _ _ => rfl
  have types : mergeTypes options.types .empty = options.types := by
    rw [mergeTypes, all]
    exact OrderedMap.insertAll_empty_entries options.types
  unfold merge
  rw [show (empty : Options).types = .empty from rfl, types]
  exact congrArg (Options.mk · _ _) (Bool.or_false options.auto)

/-- Options under merging, each over those before it. -/
instance : Monoid Options where
  mul := merge
  mul_assoc := merge_assoc
  one := empty
  one_mul := empty_merge
  mul_one := merge_empty

/-- Layers of options, each over those before it. -/
def layered (layers : List Options) : Options := layers.foldr merge empty

/-- Layers may be merged in groups first. -/
theorem layered_map_layered (groups : List (List Options)) :
    layered (groups.map layered) = layered groups.flatten :=
  List.prod_flatten.symm

/-- The merged options are those that have what the overrides say, or else the defaults, at each
leaf and in its place, and no others.  Merging is associative, has the options that say nothing as
identity, and gives the same for layers in whatever groups. -/
theorem merges_iff_and_monoid (defaults overrides : Options) :
    (∀ merged, Merges defaults overrides merged ↔ merged = defaults.merge overrides) ∧
    (∀ more : Options,
      (defaults.merge overrides).merge more = defaults.merge (overrides.merge more)) ∧
    empty.merge defaults = defaults ∧ defaults.merge empty = defaults ∧
    ∀ groups : List (List Options), layered (groups.map layered) = layered groups.flatten :=
  ⟨fun _ => merges_iff, merge_assoc defaults overrides, empty_merge defaults,
    merge_empty defaults, layered_map_layered⟩

end Options

end Subgraph
