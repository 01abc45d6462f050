import Subgraph.Proofs.OrderedMap
import Subgraph.Resolver.Table

/-!
# Laws of resolver tables

* Merging lets the entries of the override win one by one (`find?_merge`).
* Merging keeps the types of the table in front and puts the new types of the
  override behind them (`typeNames_merge`), and so it does with the fields of
  each type (`fieldNames_merge`).
* A table is known by its types and fields in order and its resolvers
  (`ext_find?`).  So merging is associative, and neither the table itself nor the
  empty one changes anything (`merge_assoc`, `merge_self`, `empty_merge`).
* A table of one resolver for some types has that resolver under its field, and
  nothing else (`find?_ofList`).
-/

namespace Subgraph

namespace ResolverTable

theorem find?_eq_fieldsOf (table : ResolverTable) (type field : String) :
    table.find? type field = (table.fieldsOf type).find? field := by
  unfold find? fieldsOf
  cases table.types.find? type <;> rfl

@[simp] theorem find?_empty (type field : String) : empty.find? type field = none := rfl

/-- Registering a resolver changes what is found for its field. -/
theorem find?_insert (table : ResolverTable) (type field : String) (resolver : Resolver)
    (otherType otherField : String) :
    (table.insert type field resolver).find? otherType otherField =
      if otherType = type ∧ otherField = field then some resolver
      else table.find? otherType otherField := by
  rw [find?_eq_fieldsOf table]
  unfold insert find? fieldsOf
  rw [OrderedMap.find?_insert]
  by_cases sameType : otherType = type
  · subst sameType
    simp [OrderedMap.find?_insert]
  · cases found : table.types.find? otherType <;> simp [sameType]

theorem nodup_typeNames (table : ResolverTable) : table.typeNames.Nodup := table.types.distinct

theorem nodup_fieldNames (table : ResolverTable) (type : String) :
    (table.fieldNames type).Nodup :=
  (table.fieldsOf type).distinct

theorem mem_typeNames_of_contains {table : ResolverTable} {type field : String}
    (contained : table.contains type field = true) : type ∈ table.typeNames := by
  rw [typeNames, ← OrderedMap.find?_isSome_iff]
  rw [contains, find?] at contained
  cases found : table.types.find? type with
  | none =>
      rw [found] at contained
      cases contained
  | some fields => rfl

theorem mem_fieldNames_iff (table : ResolverTable) (type field : String) :
    field ∈ table.fieldNames type ↔ table.contains type field = true := by
  rw [fieldNames, contains, find?_eq_fieldsOf, OrderedMap.find?_isSome_iff]

theorem typeNames_insert (table : ResolverTable) (type field : String) (resolver : Resolver) :
    (table.insert type field resolver).typeNames = (table.typeNames ++ [type]).eraseDups :=
  OrderedMap.keys_insert_eq ..

theorem fieldNames_insert (table : ResolverTable) (type field : String) (resolver : Resolver)
    (other : String) :
    (table.insert type field resolver).fieldNames other =
      (table.fieldNames other ++ if other = type then [field] else []).eraseDups := by
  have distinct := table.nodup_fieldNames other
  by_cases same : other = type
  · subst same
    rw [if_pos rfl]
    unfold fieldNames insert
    rw [fieldsOf, OrderedMap.find?_insert, if_pos rfl, Option.getD_some, OrderedMap.keys_insert_eq]
  · rw [if_neg same, List.append_nil, eraseDups_eq_of_nodup distinct]
    unfold fieldNames insert
    rw [fieldsOf, OrderedMap.find?_insert, if_neg same]
    rfl

/-! ## Merging -/

/-- The fields of an override, type by type over those of a table. -/
def mergedFields (table overrides : ResolverTable) :
    OrderedMap String (OrderedMap String Resolver) :=
  overrides.types.mapValues fun type fields => (table.fieldsOf type).insertAll fields.entries

/-- Merging replaces the fields of a type by those fields with the override's over them. -/
theorem types_merge (table overrides : ResolverTable) :
    (table.merge overrides).types =
      table.types.insertAll (mergedFields table overrides).entries := by
  unfold merge mergedFields
  rw [OrderedMap.entries_mapValues]
  have distinct := overrides.types.distinct
  generalize overrides.types.entries = entries at distinct
  -- The fields of a type that is still to come are those of the table from the start.
  suffices general : ∀ merged : ResolverTable,
      (∀ type ∈ entries.map Prod.fst, merged.fieldsOf type = table.fieldsOf type) →
      (entries.foldl (fun merged entry =>
        (⟨merged.types.insert entry.1 ((merged.fieldsOf entry.1).insertAll entry.2.entries)⟩ :
          ResolverTable)) merged).types =
        merged.types.insertAll (entries.map fun entry =>
          (entry.1, (table.fieldsOf entry.1).insertAll entry.2.entries)) from
    general table fun _ _ => rfl
  induction entries with
  | nil => intro merged _; rfl
  | cons entry rest ih =>
      intro merged untouched
      rw [List.map_cons, List.nodup_cons] at distinct
      rw [List.foldl_cons, ih distinct.2]
      · rw [untouched entry.1 (by simp)]
        rfl
      · intro type member
        have different : type ≠ entry.1 := fun same => distinct.1 (same ▸ member)
        rw [← untouched type (List.mem_cons_of_mem _ member)]
        simp [fieldsOf, OrderedMap.find?_insert, different]

/-- The types of a merged table, those of the override last where they are new. -/
theorem typeNames_merge (table overrides : ResolverTable) :
    (table.merge overrides).typeNames =
      table.typeNames ++ overrides.typeNames.filter fun type => type ∉ table.typeNames := by
  rw [typeNames, types_merge, OrderedMap.keys_insertAll_entries, mergedFields,
    OrderedMap.keys_mapValues]
  rfl

/-- The fields of a type in a merged table, in the order in which each of them came first. -/
theorem fieldNames_merge (table overrides : ResolverTable) (type : String) :
    (table.merge overrides).fieldNames type =
      (table.fieldNames type ++ overrides.fieldNames type).eraseDups := by
  have distinct := table.nodup_fieldNames type
  unfold fieldNames at distinct ⊢
  rw [fieldsOf, types_merge, OrderedMap.find?_insertAll_entries, mergedFields,
    OrderedMap.find?_mapValues, fieldsOf.eq_def overrides]
  cases overrides.types.find? type with
  | none =>
      rw [Option.map_none, Option.none_or, Option.getD_none]
      change (table.fieldsOf type).keys = ((table.fieldsOf type).keys ++ []).eraseDups
      rw [List.append_nil, eraseDups_eq_of_nodup distinct]
  | some fields =>
      rw [Option.map_some, Option.some_or, Option.getD_some, Option.getD_some,
        OrderedMap.keys_insertAll_entries_eq]

/-- The resolver of the override is found where there is one, and that of the table elsewhere. -/
theorem find?_merge (table overrides : ResolverTable) (type field : String) :
    (table.merge overrides).find? type field =
      (overrides.find? type field).or (table.find? type field) := by
  rw [find?_eq_fieldsOf table]
  unfold find?
  rw [types_merge, OrderedMap.find?_insertAll_entries, mergedFields, OrderedMap.find?_mapValues]
  cases overrides.types.find? type with
  | none =>
      rw [Option.map_none, Option.none_or, Option.bind_none, Option.none_or]
      exact find?_eq_fieldsOf table type field
  | some fields =>
      rw [Option.map_some, Option.some_or, Option.bind_some, Option.bind_some,
        OrderedMap.find?_insertAll_entries]

/-- Merging over the empty table registers the entries of a table again. -/
@[simp] theorem empty_merge (table : ResolverTable) : empty.merge table = table := by
  have same : mergedFields empty table = table.types := by
    apply OrderedMap.ext_entries
    rw [mergedFields, OrderedMap.entries_mapValues]
    conv => rhs; rw [← List.map_id table.types.entries]
    apply List.map_congr_left
    intro entry _
    exact congrArg (entry.1, ·) (OrderedMap.insertAll_empty_entries entry.2)
  have types : (empty.merge table).types = table.types := by
    rw [types_merge, same]
    exact OrderedMap.insertAll_empty_entries table.types
  exact congrArg ResolverTable.mk types

/-! ## Equal tables -/

/-- Tables with the same types and fields in order and the same resolvers are equal. -/
theorem ext_find? {a b : ResolverTable} (sameTypes : a.typeNames = b.typeNames)
    (sameFields : ∀ type, a.fieldNames type = b.fieldNames type)
    (same : ∀ type field, a.find? type field = b.find? type field) : a = b := by
  have fields (type : String) : a.fieldsOf type = b.fieldsOf type :=
    OrderedMap.ext_find? (sameFields type) fun field => by
      rw [← find?_eq_fieldsOf, ← find?_eq_fieldsOf, same]
  refine congrArg ResolverTable.mk (OrderedMap.ext_find? sameTypes fun type => ?_)
  have listed : (a.types.find? type).isSome = (b.types.find? type).isSome := by
    rw [Bool.eq_iff_iff, OrderedMap.find?_isSome_iff, OrderedMap.find?_isSome_iff]
    exact iff_of_eq (congrArg (type ∈ ·) sameTypes)
  have sameOf := fields type
  unfold fieldsOf at sameOf
  cases inA : a.types.find? type with
  | none =>
      rw [inA] at listed
      exact (Option.isNone_iff_eq_none.1 (by simpa using listed.symm)).symm
  | some ofA =>
      rw [inA] at listed sameOf
      obtain ⟨ofB, inB⟩ := Option.isSome_iff_exists.1 listed.symm
      rw [inB] at sameOf ⊢
      exact congrArg some sameOf

theorem typeNames_merge_eq (table overrides : ResolverTable) :
    (table.merge overrides).typeNames = (table.typeNames ++ overrides.typeNames).eraseDups := by
  rw [typeNames_merge]
  exact append_filter_eq_eraseDups table.nodup_typeNames overrides.nodup_typeNames

theorem merge_assoc (a b c : ResolverTable) : (a.merge b).merge c = a.merge (b.merge c) := by
  refine ext_find? ?_ (fun type => ?_) fun type field => ?_
  · simp only [typeNames_merge_eq, eraseDups_eraseDups_append, eraseDups_append_eraseDups,
      List.append_assoc]
  · simp only [fieldNames_merge, eraseDups_eraseDups_append, eraseDups_append_eraseDups,
      List.append_assoc]
  · simp only [find?_merge, Option.or_assoc]

/-- Merging a table over itself registers every resolver where it is. -/
@[simp] theorem merge_self (table : ResolverTable) : table.merge table = table := by
  refine ext_find? ?_ (fun type => ?_) fun type field => ?_
  · rw [typeNames_merge_eq, eraseDups_append_self table.nodup_typeNames]
  · rw [fieldNames_merge, eraseDups_append_self (table.nodup_fieldNames type)]
  · rw [find?_merge, Option.or_self]

@[simp] theorem merge_empty (table : ResolverTable) : table.merge empty = table := rfl

theorem contains_merge (table overrides : ResolverTable) (type field : String) :
    (table.merge overrides).contains type field =
      (overrides.contains type field || table.contains type field) := by
  rw [contains, find?_merge, Option.isSome_or]
  rfl

/-! ## One resolver for some types -/

/-- Registering one resolver for some new types. -/
theorem types_foldl_insert (field : String) (resolver : Resolver) {names : List String}
    (distinct : names.Nodup) (table : ResolverTable)
    (fresh : ∀ name ∈ names, name ∉ table.typeNames) :
    ((names.map fun name => (name, field, resolver)).foldl (fun table entry =>
      table.insert entry.1 entry.2.1 entry.2.2) table).types.entries =
      table.types.entries ++
        names.map fun name => (name, OrderedMap.empty.insert field resolver) := by
  induction names generalizing table with
  | nil => simp
  | cons name rest ih =>
      rw [List.nodup_cons] at distinct
      have new : name ∉ table.types.keys := fresh name (by simp)
      have noFields : table.fieldsOf name = .empty := by
        rw [fieldsOf, (OrderedMap.find?_eq_none_iff _ _).2 new]
        rfl
      rw [List.map_cons, List.foldl_cons, ih distinct.2]
      · rw [insert, OrderedMap.entries_insert, Assoc.set_of_fresh _ new, noFields]
        simp
      · intro other member known
        rw [insert, typeNames, OrderedMap.keys_insert, if_neg new, List.mem_append,
          List.mem_singleton] at known
        rcases known with old | here
        · exact fresh other (List.mem_cons_of_mem _ member) old
        · cases here
          exact distinct.1 member

variable {names : List String} (distinct : names.Nodup) (field : String) (resolver : Resolver)

include distinct

theorem entries_ofList : (ofList (names.map fun name => (name, field, resolver))).types.entries =
    names.map fun name => (name, OrderedMap.empty.insert field resolver) := by
  have all := types_foldl_insert field resolver distinct empty (by simp [typeNames, empty,
    OrderedMap.keys])
  simpa [ofList, empty] using all

theorem typeNames_ofList :
    (ofList (names.map fun name => (name, field, resolver))).typeNames = names := by
  rw [typeNames, OrderedMap.keys, entries_ofList distinct, List.map_map]
  exact List.map_id names

/-- A table of one resolver for some types has it under its field and has nothing else. -/
theorem find?_ofList (type other : String) :
    (ofList (names.map fun name => (name, field, resolver))).find? type other =
      if type ∈ names ∧ other = field then some resolver else none := by
  unfold find? OrderedMap.find?
  rw [entries_ofList distinct]
  clear distinct
  induction names with
  | nil => simp [Assoc.find?]
  | cons name rest ih =>
      rw [List.map_cons, Assoc.find?]
      by_cases same : name = type
      · subst same
        rw [if_pos rfl, Option.bind_some]
        change (OrderedMap.empty.insert field resolver).find? other = _
        simp [OrderedMap.find?_insert]
      · rw [if_neg same, ih]
        simp [Ne.symm same]

/-- The types of a table of one resolver have its field and no other. -/
theorem fieldNames_ofList (type : String) :
    (ofList (names.map fun name => (name, field, resolver))).fieldNames type =
      if type ∈ names then [field] else [] := by
  unfold fieldNames fieldsOf OrderedMap.find?
  rw [entries_ofList distinct]
  clear distinct
  induction names with
  | nil => rfl
  | cons name rest ih =>
      rw [List.map_cons, Assoc.find?]
      by_cases same : name = type
      · subst same
        rw [if_pos rfl, Option.getD_some, OrderedMap.keys_insert, if_neg (by simp [OrderedMap.keys])]
        simp [OrderedMap.keys]
      · rw [if_neg same, ih]
        simp [Ne.symm same]

end ResolverTable

end Subgraph
