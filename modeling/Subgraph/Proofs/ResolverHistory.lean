import Subgraph.Proofs.Federated.Stability
import Subgraph.Proofs.ResolverTable

/-!
# How a table of resolvers came about

A table grows by registering resolvers and by merging it with tables that grew
the same way, on either side.  All of this is one list of registrations, where
those of a base come before those of its overrides.

* `ResolverTable.Records` says what a table owes to a list of registrations: the
  last one of a field counts, and what came first stands first.  Registering and
  merging keep it (`Records.insert`, `Records.merge`), and no other table has it
  (`Records.unique`).
* `ResolverTable.Lists` says that a table lists what it holds.
* `History.lastWriterWins` says both of every table with a history, and that such
  tables merge as their registrations follow one another.
-/

namespace Subgraph

namespace ResolverTable

/-! ## Registrations -/

/-- A registration: a type, a field of it and the resolver. -/
abbrev Registration := String × String × Resolver

/-- Registers what a registration says. -/
def register (table : ResolverTable) (registration : Registration) : ResolverTable :=
  table.insert registration.1 registration.2.1 registration.2.2

/-- The registrations that a table holds, type by type. -/
def registered (table : ResolverTable) : List Registration :=
  table.types.entries.flatMap fun entry =>
    entry.2.entries.map fun field => (entry.1, field.1, field.2)

/-- A table is what a list of registrations comes to.  Types, and the fields of each, stand in the
order in which they came first, and the last resolver of a field is found. -/
structure Records (table : ResolverTable) (registrations : List Registration) : Prop where
  types : table.typeNames = (registrations.map (·.1)).eraseDups
  fields : ∀ type, table.fieldNames type =
    ((registrations.filter fun registration => registration.1 = type).map (·.2.1)).eraseDups
  last : ∀ type field, table.find? type field =
    (registrations.findRev? fun registration =>
      registration.1 = type ∧ registration.2.1 = field).map (·.2.2)

/-- A table lists what it holds: no type and no field twice, and no type without a field. -/
structure Lists (table : ResolverTable) : Prop where
  types : table.typeNames.Nodup
  fields : ∀ type, (table.fieldNames type).Nodup
  hasField : ∀ type ∈ table.typeNames, table.fieldNames type ≠ []
  isEmpty_iff : table.isEmpty = true ↔ ∀ type field, table.contains type field = false

section

variable {table overrides : ResolverTable} {registrations more : List Registration}

namespace Records

theorem empty : Records .empty [] := ⟨rfl, fun _ => rfl, fun _ _ => rfl⟩

/-- Registering is one registration more. -/
theorem insert (records : Records table registrations) (type field : String)
    (resolver : Resolver) :
    Records (table.insert type field resolver)
      (registrations ++ [(type, field, resolver)]) where
  types := by
    rw [typeNames_insert, records.types, eraseDups_eraseDups_append, List.map_append]
    rfl
  fields other := by
    rw [fieldNames_insert, records.fields, eraseDups_eraseDups_append, List.filter_append,
      List.map_append]
    by_cases same : other = type
    · simp [same]
    · simp [same, Ne.symm same]
  last other name := by
    rw [find?_insert, records.last, List.findRev?_eq_find?_reverse,
      List.findRev?_eq_find?_reverse, List.reverse_append, List.find?_append]
    by_cases same : other = type ∧ name = field
    · simp [same.1, same.2]
    · have different : ¬ (type = other ∧ field = name) := fun h => same ⟨h.1.symm, h.2.symm⟩
      simp [same, different]

/-- Merging appends the registrations of the overrides. -/
theorem merge (records : Records table registrations) (others : Records overrides more) :
    Records (table.merge overrides) (registrations ++ more) where
  types := by
    rw [typeNames_merge_eq, records.types, others.types, eraseDups_eraseDups_append,
      eraseDups_append_eraseDups, List.map_append]
  fields type := by
    rw [fieldNames_merge, records.fields, others.fields, eraseDups_eraseDups_append,
      eraseDups_append_eraseDups, List.filter_append, List.map_append]
  last type field := by
    rw [find?_merge, records.last, others.last]
    simp only [List.findRev?_eq_find?_reverse, List.reverse_append, List.find?_append,
      Option.map_or]

/-- A list of registrations comes to one table. -/
theorem unique {other : ResolverTable} (records : Records table registrations)
    (others : Records other registrations) : table = other :=
  ext_find? (records.types.trans others.types.symm)
    (fun type => (records.fields type).trans (others.fields type).symm)
    fun type field => (records.last type field).trans (others.last type field).symm

/-- A type that is listed was registered with a field. -/
theorem fieldNames_ne_nil (records : Records table registrations) {type : String}
    (listed : type ∈ table.typeNames) : table.fieldNames type ≠ [] := by
  rw [records.types, List.mem_eraseDups, List.mem_map] at listed
  obtain ⟨registration, among, rfl⟩ := listed
  have field : registration.2.1 ∈ table.fieldNames registration.1 := by
    rw [records.fields, List.mem_eraseDups]
    exact List.mem_map_of_mem (List.mem_filter.2 ⟨among, decide_eq_true rfl⟩)
  exact List.ne_nil_of_mem field

end Records

/-! ## Listings -/

/-- A table without an empty type lists what it holds. -/
theorem lists_of_hasField (hasField : ∀ type ∈ table.typeNames, table.fieldNames type ≠ []) :
    table.Lists where
  types := table.nodup_typeNames
  fields := table.nodup_fieldNames
  hasField := hasField
  isEmpty_iff := by
    constructor
    · intro none type field
      have noTypes : table.typeNames = [] := congrArg (List.map Prod.fst) (List.isEmpty_iff.1 none)
      refine Bool.eq_false_iff.2 fun contained => ?_
      have listed := mem_typeNames_of_contains contained
      rw [noTypes] at listed
      cases listed
    · intro nothing
      have noTypes : table.typeNames = [] := by
        refine List.eq_nil_iff_forall_not_mem.2 fun type listed => ?_
        obtain ⟨field, among⟩ := List.exists_mem_of_ne_nil _ (hasField type listed)
        rw [mem_fieldNames_iff, nothing type field] at among
        cases among
      exact List.isEmpty_iff.2 (List.map_eq_nil_iff.1 noTypes)

/-! ## Merging one by one -/

theorem fieldsOf_insert_self (table : ResolverTable) (type field : String) (resolver : Resolver) :
    (table.insert type field resolver).fieldsOf type =
      (table.fieldsOf type).insert field resolver := by
  rw [insert, fieldsOf, OrderedMap.find?_insert, if_pos rfl, Option.getD_some]

/-- Registering some fields of a type one after the other puts all of them over those it has. -/
theorem foldl_insert_eq {type : String} {fields : List (String × Resolver)}
    (hasField : fields ≠ []) (table : ResolverTable) :
    fields.foldl (fun table field => table.insert type field.1 field.2) table =
      ⟨table.types.insert type ((table.fieldsOf type).insertAll fields)⟩ := by
  induction fields generalizing table with
  | nil => exact absurd rfl hasField
  | cons field rest ih =>
      rw [List.foldl_cons]
      by_cases last : rest = []
      · rw [last]
        rfl
      · rw [ih last, fieldsOf_insert_self]
        exact congrArg ResolverTable.mk (OrderedMap.insert_insert ..)

/-- Merging registers the resolvers of the overrides one by one. -/
theorem merge_eq_foldl_register (listed : overrides.Lists) (table : ResolverTable) :
    table.merge overrides = overrides.registered.foldl register table := by
  rw [registered, List.foldl_flatMap, merge]
  refine List.foldl_ext _ _ _ fun merged entry inside => ?_
  have known : entry.1 ∈ overrides.typeNames := List.mem_map_of_mem inside
  have hasField := listed.hasField entry.1 known
  rw [fieldNames, fieldsOf, OrderedMap.find?_of_mem_entries inside, Option.getD_some,
    OrderedMap.keys, ne_eq, List.map_eq_nil_iff] at hasField
  rw [List.foldl_map]
  exact (foldl_insert_eq hasField merged).symm

/-! ## The rule of reference resolvers -/

/-- Where both sides of a merge keep the rule, the result does. -/
theorem missingReference?_merge (kept : table.missingReference? = none)
    (keptToo : overrides.missingReference? = none) :
    (table.merge overrides).missingReference? = none := by
  rw [missingReference?_eq_none_iff] at kept keptToo ⊢
  intro type
  refine Bool.eq_false_iff.2 fun lacks => ?_
  obtain ⟨notRoot, ⟨field, contained, own⟩, missing⟩ := (lacksReference_iff _ type).1 lacks
  rw [contains_merge, Bool.or_eq_true] at contained
  rw [contains_merge, Bool.or_eq_false_iff] at missing
  -- The side that the field comes from lacks the reference resolver too.
  rcases contained with fromOverrides | fromTable
  · have broken := (overrides.lacksReference_iff type).2
      ⟨notRoot, ⟨field, fromOverrides, own⟩, missing.1⟩
    exact Bool.false_ne_true ((keptToo type).symm.trans broken)
  · have broken := (table.lacksReference_iff type).2
      ⟨notRoot, ⟨field, fromTable, own⟩, missing.2⟩
    exact Bool.false_ne_true ((kept type).symm.trans broken)

end

/-! ## Histories -/

/-- How a table came about: by registering resolvers, and by merging with another table that came
about so, as the base or as the overrides. -/
inductive History where
  | empty
  | insert (before : History) (type field : String) (resolver : Resolver)
  | merge (base overrides : History)

namespace History

/-- The table that came about. -/
def table : History → ResolverTable
  | empty => .empty
  | insert before type field resolver => before.table.insert type field resolver
  | merge base overrides => base.table.merge overrides.table

/-- All registrations in order, those of a base before those of its overrides. -/
def registrations : History → List Registration
  | empty => []
  | insert before type field resolver => before.registrations ++ [(type, field, resolver)]
  | merge base overrides => base.registrations ++ overrides.registrations

/-- A table is what its registrations come to, by induction on how it came about. -/
theorem records (history : History) : history.table.Records history.registrations := by
  induction history with
  | empty => exact .empty
  | insert before type field resolver ih => exact ih.insert type field resolver
  | merge base overrides ih ihOverrides => exact ih.merge ihOverrides

theorem lists (history : History) : history.table.Lists :=
  lists_of_hasField fun _ => history.records.fieldNames_ne_nil

/-- A table with a history is what its registrations come to, the last one of a field counting, and
lists what it holds.  Merging such tables registers one by one, is associative and idempotent, has
the empty table as identity, and keeps the rule of reference resolvers. -/
theorem lastWriterWins (history overrides more : History) :
    history.table.Records history.registrations ∧ history.table.Lists ∧
    history.table.merge overrides.table =
      overrides.table.registered.foldl register history.table ∧
    (history.table.merge overrides.table).merge more.table =
      history.table.merge (overrides.table.merge more.table) ∧
    history.table.merge history.table = history.table ∧
    ResolverTable.empty.merge history.table = history.table ∧
    history.table.merge .empty = history.table ∧
    (history.table.missingReference? = none → overrides.table.missingReference? = none →
      (history.table.merge overrides.table).missingReference? = none) :=
  ⟨history.records, history.lists, merge_eq_foldl_register overrides.lists history.table,
    merge_assoc _ _ _, merge_self _, empty_merge _, merge_empty _, missingReference?_merge⟩

/-- A type with a reference resolver, whose field is registered twice. -/
def named : History :=
  ((empty.insert "User" "name" .placeholder).insert "User" referenceField .placeholder).insert
    "User" "name" (.custom fun _ => return .ok .null)

/-- A root type, merged over the other type. -/
def asked : History := named.merge (empty.insert "Query" "me" .placeholder)

example : asked.table.listing = [("User", ["name", "__resolveReference"]), ("Query", ["me"])] := by
  decide +kernel

theorem lastWriterWins_named :
    named.table.missingReference? = none ∧ asked.table.missingReference? = none ∧
      (named.table.merge asked.table).missingReference? = none := by
  have kept : named.table.missingReference? = none := by decide +kernel
  have keptToo : asked.table.missingReference? = none := by decide +kernel
  obtain ⟨_, _, _, _, _, _, _, rule⟩ := lastWriterWins named asked .empty
  exact ⟨kept, keptToo, rule kept keptToo⟩

end History

end ResolverTable

end Subgraph
