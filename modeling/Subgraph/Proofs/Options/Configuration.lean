import Subgraph.Proofs.Options.Said

/-!
# What options may be read from

Configuration data is a small language.  The reading of options accepts it and
nothing else, and stops at the first fault.

* `Options.IsConfiguration` is the language.
* `Options.Fault` says of an error that it is the first fault: it names a value
  that is not as it should be, and all that is looked at before is.
* `Options.Holds` says what options hold of the data that they are read from.
* `Options.IsRearranged` is data with the same members in other places, but for
  the order of types and of fields.
* `Options.ofJson_configuration` puts all of this together.
-/

namespace Subgraph

namespace Options

/-- Nothing but `auto`, `type` and `resolvers` is given. -/
def IsKnown (member : String × Json) : Prop := member.1 ∈ ["auto", "type", "resolvers"]

/-- Whether gaps are to be filled is a truth value, if it is given. -/
def IsAuto (value : Json) : Prop :=
  ∀ auto, value.member? "auto" = some auto → ∃ flag, auto = .bool flag

/-- A member is an object of entries that are as they should be, if it is given and not null. -/
def IsTable (name : String) (valid : String × Json → Prop) (value : Json) : Prop :=
  ∀ table, value.member? name = some table →
    table = .null ∨ ∃ entries, table = .obj entries ∧ ∀ entry ∈ entries, valid entry

/-- What is said about a type is said in an entry under its name. -/
def IsTypeEntry (entry : String × Json) : Prop := TypeOptions.IsConfiguration entry.2

/-- No resolver can be given as data. -/
def IsResolverEntry (entry : String × Json) : Prop := entry.2 = .obj []

/-- What options may be read from. -/
structure IsConfiguration (value : Json) : Prop where
  isObject : ∃ members, value = .obj members
  known : ∀ member ∈ value.members, IsKnown member
  auto : IsAuto value
  types : IsTable "type" IsTypeEntry value
  resolvers : IsTable "resolvers" IsResolverEntry value

/-- The first fault in what options are to be read from.  All that is looked at before is as it
should be. -/
inductive Fault (value : Json) : ConfigurationError → Prop where
  | value (other : ∀ members, value ≠ .obj members) : Fault value .invalidOptions
  | key {members : List (String × Json)} {bad : String × Json} (isObject : value = .obj members)
      (first : IsFirst IsKnown members bad) (unknown : ¬ IsKnown bad) :
      Fault value (.unknownOption bad.1)
  | auto {auto : Json} (known : ∀ member ∈ value.members, IsKnown member)
      (given : value.member? "auto" = some auto) (other : ∀ flag, auto ≠ .bool flag) :
      Fault value .invalidAuto
  | types {types : Json} (known : ∀ member ∈ value.members, IsKnown member)
      (isAuto : IsAuto value) (given : value.member? "type" = some types)
      (notNull : types ≠ .null) (other : ∀ entries, types ≠ .obj entries) :
      Fault value .invalidTypes
  | type {types : List (String × Json)} {bad : String × Json} {error : ConfigurationError}
      (known : ∀ member ∈ value.members, IsKnown member) (isAuto : IsAuto value)
      (given : value.member? "type" = some (.obj types)) (first : IsFirst IsTypeEntry types bad)
      (fault : TypeOptions.Fault bad.1 bad.2 error) : Fault value error
  | resolvers {resolvers : Json} (known : ∀ member ∈ value.members, IsKnown member)
      (isAuto : IsAuto value) (isTypes : IsTable "type" IsTypeEntry value)
      (given : value.member? "resolvers" = some resolvers) (notNull : resolvers ≠ .null)
      (other : ∀ entries, resolvers ≠ .obj entries) : Fault value .invalidResolvers
  | resolverValue {resolvers : List (String × Json)} {bad : String × Json}
      (known : ∀ member ∈ value.members, IsKnown member) (isAuto : IsAuto value)
      (isTypes : IsTable "type" IsTypeEntry value)
      (given : value.member? "resolvers" = some (.obj resolvers))
      (first : IsFirst IsResolverEntry resolvers bad) (other : ∀ fields, bad.2 ≠ .obj fields) :
      Fault value (.invalidResolverValue bad.1)
  | resolver {resolvers fields : List (String × Json)} {bad field : String × Json}
      (known : ∀ member ∈ value.members, IsKnown member) (isAuto : IsAuto value)
      (isTypes : IsTable "type" IsTypeEntry value)
      (given : value.member? "resolvers" = some (.obj resolvers))
      (first : IsFirst IsResolverEntry resolvers bad) (some : bad.2 = .obj (field :: fields)) :
      Fault value (.resolverInConfiguration bad.1 field.1)

/-! ## Reading a member -/

theorem find?_of_known {members : List (String × Json)}
    (known : ∀ member ∈ members, IsKnown member) :
    members.find? (fun member => !optionKeys.contains member.1) = none := by
  refine List.find?_eq_none.2 fun member inside => ?_
  have listed : member.1 ∈ optionKeys := known member inside
  simpa using listed

theorem find?_of_isFirst {members : List (String × Json)} {bad : String × Json}
    (first : IsFirst IsKnown members bad) (unknown : ¬ IsKnown bad) :
    members.find? (fun member => !optionKeys.contains member.1) = some bad := by
  obtain ⟨before, after, rfl, known⟩ := first
  have unlisted : bad.1 ∉ optionKeys := unknown
  rw [List.find?_append, find?_of_known known, Option.none_or]
  exact List.find?_cons_of_pos (by simpa using unlisted)

/-- Where only known members are given, they are read one after the other. -/
theorem ofJson_eq_of_known {value : Json} (isObject : ∃ members, value = .obj members)
    (known : ∀ member ∈ value.members, IsKnown member) :
    ofJson value = do
      let auto ← readAuto (value.member? "auto")
      let types ← readTypes (value.member? "type")
      checkResolvers (value.member? "resolvers")
      return { auto, types } := by
  obtain ⟨members, rfl⟩ := isObject
  have noUnknown : members.find? (fun member => !optionKeys.contains member.1) = none :=
    find?_of_known known
  rw [ofJson, noUnknown]
  rfl

theorem exists_readAuto {value : Json} (isAuto : IsAuto value) :
    ∃ auto, readAuto (value.member? "auto") = .ok auto := by
  cases given : value.member? "auto" with
  | none => exact ⟨false, rfl⟩
  | some auto =>
      obtain ⟨flag, rfl⟩ := isAuto auto given
      exact ⟨flag, rfl⟩

theorem readTypeMembers_cons (entry : String × Json) (rest : List (String × Json))
    (types : OrderedMap String TypeOptions) :
    readTypeMembers (entry :: rest) types =
      TypeOptions.ofJson entry.1 entry.2 >>= fun said =>
        readTypeMembers rest (types.insert entry.1 said) := rfl

/-- Valid types in front are read and left behind, by induction on them. -/
theorem exists_readTypeMembers_append {before : List (String × Json)}
    (valid : ∀ entry ∈ before, IsTypeEntry entry) (rest : List (String × Json))
    (types : OrderedMap String TypeOptions) :
    ∃ next, readTypeMembers (before ++ rest) types = readTypeMembers rest next := by
  induction before generalizing types with
  | nil => exact ⟨types, rfl⟩
  | cons entry before ih =>
      obtain ⟨isEntry, each⟩ := List.forall_mem_cons.1 valid
      obtain ⟨said, read⟩ := TypeOptions.exists_ofJson entry.1 isEntry
      rw [List.cons_append, readTypeMembers_cons, read]
      exact ih each _

theorem exists_readTypes {value : Json} (isTypes : IsTable "type" IsTypeEntry value) :
    ∃ types, readTypes (value.member? "type") = .ok types := by
  cases given : value.member? "type" with
  | none => exact ⟨.empty, rfl⟩
  | some table =>
      rcases isTypes table given with rfl | ⟨entries, rfl, valid⟩
      · exact ⟨.empty, rfl⟩
      · obtain ⟨types, same⟩ := exists_readTypeMembers_append valid [] .empty
        rw [List.append_nil] at same
        exact ⟨types, same⟩

theorem forM_checkResolverValue_cons (entry : String × Json) (rest : List (String × Json)) :
    (entry :: rest).forM (fun entry => checkResolverValue entry.1 entry.2) =
      checkResolverValue entry.1 entry.2 >>= fun _ =>
        rest.forM fun entry => checkResolverValue entry.1 entry.2 := rfl

/-- Types without resolvers in front are passed by, by induction on them. -/
theorem forM_checkResolverValue_append {before : List (String × Json)}
    (valid : ∀ entry ∈ before, IsResolverEntry entry) (rest : List (String × Json)) :
    (before ++ rest).forM (fun entry => checkResolverValue entry.1 entry.2) =
      rest.forM fun entry => checkResolverValue entry.1 entry.2 := by
  induction before with
  | nil => rfl
  | cons entry before ih =>
      obtain ⟨isEntry, each⟩ := List.forall_mem_cons.1 valid
      have passed : checkResolverValue entry.1 entry.2 = .ok () := by
        rw [show entry.2 = .obj [] from isEntry]
        rfl
      rw [List.cons_append, forM_checkResolverValue_cons, passed, ← ih each]
      rfl

theorem checkResolvers_eq {value : Json} (valid : IsTable "resolvers" IsResolverEntry value) :
    checkResolvers (value.member? "resolvers") = .ok () := by
  cases given : value.member? "resolvers" with
  | none => rfl
  | some table =>
      rcases valid table given with rfl | ⟨entries, rfl, each⟩
      · rfl
      · have same := forM_checkResolverValue_append each []
        rw [List.append_nil] at same
        exact same

theorem readAuto_of_not_flag {auto : Json} (other : ∀ flag, auto ≠ .bool flag) :
    readAuto (some auto) = .error .invalidAuto := by
  cases auto with
  | bool flag => exact absurd rfl (other flag)
  | _ => rfl

theorem readTypes_of_not_table {types : Json} (notNull : types ≠ .null)
    (other : ∀ entries, types ≠ .obj entries) : readTypes (some types) = .error .invalidTypes := by
  cases types with
  | null => exact absurd rfl notNull
  | obj entries => exact absurd rfl (other entries)
  | _ => rfl

theorem checkResolvers_of_not_table {resolvers : Json} (notNull : resolvers ≠ .null)
    (other : ∀ entries, resolvers ≠ .obj entries) :
    checkResolvers (some resolvers) = .error .invalidResolvers := by
  cases resolvers with
  | null => exact absurd rfl notNull
  | obj entries => exact absurd rfl (other entries)
  | _ => rfl

theorem checkResolverValue_of_not_obj {type : String} {value : Json}
    (other : ∀ fields, value ≠ .obj fields) :
    checkResolverValue type value = .error (.invalidResolverValue type) := by
  cases value with
  | obj fields => exact absurd rfl (other fields)
  | _ => rfl

/-! ## Accepted or refused -/

theorem exists_ofJson {value : Json} (valid : IsConfiguration value) :
    ∃ options, ofJson value = .ok options := by
  obtain ⟨auto, isAuto⟩ := exists_readAuto valid.auto
  obtain ⟨types, isTypes⟩ := exists_readTypes valid.types
  rw [ofJson_eq_of_known valid.isObject valid.known, isAuto, isTypes, checkResolvers_eq valid.resolvers]
  exact ⟨{ auto, types }, rfl⟩

theorem readTypes_of_isFirst {types : List (String × Json)} {bad : String × Json}
    {error : ConfigurationError} (first : IsFirst IsTypeEntry types bad)
    (fault : TypeOptions.Fault bad.1 bad.2 error) :
    readTypes (some (.obj types)) = .error error := by
  obtain ⟨before, after, rfl, valid⟩ := first
  obtain ⟨next, same⟩ := exists_readTypeMembers_append valid (bad :: after) .empty
  rw [readTypes, same, readTypeMembers_cons, TypeOptions.ofJson_of_fault fault]
  rfl

theorem checkResolvers_of_isFirst {resolvers : List (String × Json)} {bad : String × Json}
    {error : ConfigurationError} (first : IsFirst IsResolverEntry resolvers bad)
    (refused : checkResolverValue bad.1 bad.2 = .error error) :
    checkResolvers (some (.obj resolvers)) = .error error := by
  obtain ⟨before, after, rfl, valid⟩ := first
  rw [checkResolvers, forM_checkResolverValue_append valid, forM_checkResolverValue_cons, refused]
  rfl

theorem ofJson_of_fault {value : Json} {error : ConfigurationError} (fault : Fault value error) :
    ofJson value = .error error := by
  cases fault with
  | value other =>
      unfold ofJson
      split
      next members => exact absurd rfl (other members)
      next => rfl
  | key isObject first unknown =>
      rw [isObject, ofJson, find?_of_isFirst first unknown]
  | auto known given other =>
      rw [ofJson_eq_of_known (Json.exists_eq_obj given) known, given, readAuto_of_not_flag other]
      rfl
  | types known isAuto given notNull other =>
      obtain ⟨auto, read⟩ := exists_readAuto isAuto
      rw [ofJson_eq_of_known (Json.exists_eq_obj given) known, read, given,
        readTypes_of_not_table notNull other]
      rfl
  | type known isAuto given first fault =>
      obtain ⟨auto, read⟩ := exists_readAuto isAuto
      rw [ofJson_eq_of_known (Json.exists_eq_obj given) known, read, given,
        readTypes_of_isFirst first fault]
      rfl
  | resolvers known isAuto isTypes given notNull other =>
      obtain ⟨auto, read⟩ := exists_readAuto isAuto
      obtain ⟨types, readTypes⟩ := exists_readTypes isTypes
      rw [ofJson_eq_of_known (Json.exists_eq_obj given) known, read, readTypes, given,
        checkResolvers_of_not_table notNull other]
      rfl
  | resolverValue known isAuto isTypes given first other =>
      obtain ⟨auto, read⟩ := exists_readAuto isAuto
      obtain ⟨types, readTypes⟩ := exists_readTypes isTypes
      rw [ofJson_eq_of_known (Json.exists_eq_obj given) known, read, readTypes, given,
        checkResolvers_of_isFirst first (checkResolverValue_of_not_obj other)]
      rfl
  | @resolver _ _ bad field known isAuto isTypes given first some =>
      obtain ⟨auto, read⟩ := exists_readAuto isAuto
      obtain ⟨types, readTypes⟩ := exists_readTypes isTypes
      have refused : checkResolverValue bad.1 bad.2 =
          .error (.resolverInConfiguration bad.1 field.1) := by
        rw [some]
        rfl
      rw [ofJson_eq_of_known (Json.exists_eq_obj given) known, read, readTypes, given,
        checkResolvers_of_isFirst first refused]
      rfl

/-- A table is as it should be, or it is none, or it has a first entry that is not. -/
theorem isTable_or (name : String) (valid : String × Json → Prop) (value : Json) :
    IsTable name valid value ∨ ∃ table, value.member? name = some table ∧
      ((table ≠ .null ∧ ∀ entries, table ≠ .obj entries) ∨
        ∃ entries bad, table = .obj entries ∧ ¬ valid bad ∧ IsFirst valid entries bad) := by
  cases given : value.member? name with
  | none => exact .inl fun table found => by simp [given] at found
  | some table =>
      have only {holds : Json → Prop} (held : holds table) :
          ∀ other, value.member? name = some other → holds other := by
        intro other found
        rw [given] at found
        cases found
        exact held
      cases table with
      | null => exact .inl (only (.inl rfl))
      | obj entries =>
          rcases forall_or_exists_isFirst valid entries with each | ⟨bad, invalid, first⟩
          · exact .inl (only (.inr ⟨entries, rfl, each⟩))
          · exact .inr ⟨_, rfl, .inr ⟨entries, bad, rfl, invalid, first⟩⟩
      | _ => exact .inr ⟨_, rfl, .inl ⟨nofun, nofun⟩⟩

theorem isAuto_or (value : Json) :
    IsAuto value ∨ ∃ auto, value.member? "auto" = some auto ∧ ∀ flag, auto ≠ .bool flag := by
  by_cases isAuto : IsAuto value
  · exact .inl isAuto
  · refine .inr ?_
    simpa [IsAuto] using isAuto

theorem isConfiguration_or_exists_fault (value : Json) :
    IsConfiguration value ∨ ∃ error, Fault value error := by
  cases value with
  | obj members =>
      rcases forall_or_exists_isFirst IsKnown members with known | ⟨bad, unknown, first⟩
      swap
      · exact .inr ⟨_, .key rfl first unknown⟩
      rcases isAuto_or (.obj members) with isAuto | ⟨auto, given, other⟩
      swap
      · exact .inr ⟨_, .auto known given other⟩
      rcases isTable_or "type" IsTypeEntry (.obj members) with
        isTypes | ⟨_, given, ⟨notNull, other⟩ | ⟨entries, bad, rfl, invalid, first⟩⟩
      rotate_left
      · exact .inr ⟨_, .types known isAuto given notNull other⟩
      · rcases TypeOptions.isConfiguration_or_exists_fault bad.1 bad.2 with said | ⟨error, fault⟩
        · exact absurd said invalid
        · exact .inr ⟨error, .type known isAuto given first fault⟩
      rcases isTable_or "resolvers" IsResolverEntry (.obj members) with
        isResolvers | ⟨_, given, ⟨notNull, other⟩ | ⟨entries, bad, rfl, invalid, first⟩⟩
      · exact .inl ⟨⟨members, rfl⟩, known, isAuto, isTypes, isResolvers⟩
      · exact .inr ⟨_, .resolvers known isAuto isTypes given notNull other⟩
      · by_cases isObject : ∃ fields, bad.2 = .obj fields
        · obtain ⟨fields, isFields⟩ := isObject
          cases fields with
          | nil => exact absurd isFields invalid
          | cons field fields =>
              exact .inr ⟨_, .resolver known isAuto isTypes given first isFields⟩
        · exact .inr ⟨_, .resolverValue known isAuto isTypes given first
            fun fields isFields => isObject ⟨fields, isFields⟩⟩
  | _ => exact .inr ⟨_, .value nofun⟩

/-! ## What is held -/

/-- The entries about types. -/
def typeEntries (value : Json) : List (String × Json) :=
  match value.member? "type" with
  | some types => types.members
  | none => []

/-- What options hold of the data that they are read from. -/
structure Holds (options : Options) (value : Json) : Prop where
  auto : options.auto = (value.flagAt? "auto").getD false
  types : List.Forall₂ (fun entry said => entry.1 = said.1 ∧ entry.2.Holds said.2)
    options.types.entries (typeEntries value)
  resolvers : options.resolvers = .empty

/-- Types are held in addition to those held before, by induction on them.  None of them comes
twice. -/
theorem holds_of_readTypeMembers {types : List (String × Json)}
    {start last : OrderedMap String TypeOptions} (distinct : (types.map Prod.fst).Nodup)
    (fresh : ∀ entry ∈ types, entry.1 ∉ start.keys)
    (plain : ∀ entry ∈ types, entry.2.withoutRepeats = entry.2)
    (read : readTypeMembers types start = .ok last) :
    ∃ added, last.entries = start.entries ++ added ∧
      List.Forall₂ (fun entry said => entry.1 = said.1 ∧ entry.2.Holds said.2) added types := by
  induction types generalizing start with
  | nil =>
      cases read
      exact ⟨[], (List.append_nil _).symm, .nil⟩
  | cons entry types ih =>
      obtain ⟨isNew, restDistinct⟩ := List.nodup_cons.1 distinct
      obtain ⟨isFresh, restFresh⟩ := List.forall_mem_cons.1 fresh
      obtain ⟨isPlain, restPlain⟩ := List.forall_mem_cons.1 plain
      rw [readTypeMembers_cons] at read
      obtain ⟨said, one, others⟩ := of_bind_eq_ok read
      have later : ∀ other ∈ types, other.1 ∉ (start.insert entry.1 said).keys := by
        intro other inside again
        rw [OrderedMap.keys_insert, if_neg isFresh] at again
        rcases List.mem_append.1 again with old | new
        · exact restFresh other inside old
        · exact isNew (List.mem_map.2 ⟨other, inside, List.mem_singleton.1 new⟩)
      obtain ⟨added, entries, held⟩ := ih restDistinct later restPlain others
      refine ⟨(entry.1, said) :: added, ?_, .cons ⟨rfl, ?_⟩ held⟩
      · rw [entries, OrderedMap.entries_insert, Assoc.set_of_fresh _ isFresh, List.append_assoc]
        rfl
      · exact TypeOptions.holds_of_ofJson isPlain one

theorem holds_of_readTypes {value : Json} {types : OrderedMap String TypeOptions}
    (plain : value.withoutRepeats = value) (read : readTypes (value.member? "type") = .ok types) :
    List.Forall₂ (fun entry said => entry.1 = said.1 ∧ entry.2.Holds said.2) types.entries
      (typeEntries value) := by
  unfold typeEntries
  cases given : value.member? "type" with
  | none =>
      rw [given] at read
      cases read
      exact .nil
  | some table =>
      rw [given] at read
      cases table with
      | null =>
          cases read
          exact .nil
      | obj entries =>
          obtain ⟨distinct, each⟩ := Json.of_withoutRepeats_eq (Json.plain_of_member? plain given)
          obtain ⟨added, same, held⟩ :=
            holds_of_readTypeMembers distinct (fun _ _ => List.not_mem_nil) each read
          have all : types.entries = added := same
          rwa [all]
      | _ => cases read

theorem readAuto_eq {value : Json} {auto : Bool}
    (read : readAuto (value.member? "auto") = .ok auto) :
    auto = (value.flagAt? "auto").getD false := by
  unfold Json.flagAt?
  cases given : value.member? "auto" with
  | none =>
      rw [given] at read
      cases read
      rfl
  | some table =>
      rw [given] at read
      cases table with
      | bool flag =>
          cases read
          rfl
      | _ => cases read

theorem isConfiguration_of_ofJson {value : Json} {options : Options}
    (read : ofJson value = .ok options) : IsConfiguration value := by
  rcases isConfiguration_or_exists_fault value with valid | ⟨error, fault⟩
  · exact valid
  · rw [ofJson_of_fault fault] at read
    cases read

/-- What is read of options that are as they should be. -/
theorem of_ofJson_eq_ok {value : Json} {options : Options} (read : ofJson value = .ok options) :
    ∃ auto types, readAuto (value.member? "auto") = .ok auto ∧
      readTypes (value.member? "type") = .ok types ∧
        checkResolvers (value.member? "resolvers") = .ok () ∧ options = { auto, types } := by
  have valid := isConfiguration_of_ofJson read
  rw [ofJson_eq_of_known valid.isObject valid.known] at read
  obtain ⟨auto, isAuto, read⟩ := of_bind_eq_ok read
  obtain ⟨types, isTypes, read⟩ := of_bind_eq_ok read
  obtain ⟨_, isChecked, read⟩ := of_bind_eq_ok read
  cases read
  exact ⟨auto, types, isAuto, isTypes, isChecked, rfl⟩

theorem holds_of_ofJson {value : Json} {options : Options} (plain : value.withoutRepeats = value)
    (read : ofJson value = .ok options) : options.Holds value := by
  obtain ⟨auto, types, isAuto, isTypes, _, rfl⟩ := of_ofJson_eq_ok read
  exact ⟨readAuto_eq isAuto, holds_of_readTypes plain isTypes, rfl⟩

/-! ## Members in other places -/

/-- Entries about a type with their members in any order, but for that of the fields. -/
def AreRearranged (types others : List (String × Json)) : Prop :=
  List.Forall₂ (fun entry other =>
    entry.1 = other.1 ∧ TypeOptions.IsRearranged entry.2 other.2) types others

/-- What is said about types, in each with its members in any order. -/
def IsTableRearranged (table other : Json) : Prop :=
  table = other ∨
    ∃ types others, table = .obj types ∧ other = .obj others ∧ AreRearranged types others

/-- Types are read alike, by induction on them. -/
theorem readTypeMembers_rearranged {types others : List (String × Json)}
    {start last : OrderedMap String TypeOptions}
    (plain : ∀ entry ∈ types, entry.2.withoutRepeats = entry.2)
    (rearranged : AreRearranged types others) (read : readTypeMembers types start = .ok last) :
    readTypeMembers others start = .ok last := by
  induction rearranged generalizing start with
  | nil => exact read
  | @cons entry other types others same _ ih =>
      obtain ⟨isPlain, restPlain⟩ := List.forall_mem_cons.1 plain
      obtain ⟨named, said⟩ := same
      rw [readTypeMembers_cons] at read ⊢
      obtain ⟨options, one, rest⟩ := of_bind_eq_ok read
      rw [← named, TypeOptions.ofJson_rearranged isPlain said one]
      exact ih restPlain rest

theorem readTypes_rearranged {table other : Json} {types : OrderedMap String TypeOptions}
    (plain : table.withoutRepeats = table) (rearranged : IsTableRearranged table other)
    (read : readTypes (some table) = .ok types) : readTypes (some other) = .ok types := by
  rcases rearranged with rfl | ⟨entries, others, rfl, rfl, moved⟩
  · exact read
  · exact readTypeMembers_rearranged (Json.of_withoutRepeats_eq plain).2 moved read

/-- One member in its place, where it is about types with these in any order. -/
def IsMemberRearranged (member other : String × Json) : Prop :=
  member.1 = other.1 ∧
    (member.2 = other.2 ∨ member.1 = "type" ∧ IsTableRearranged member.2 other.2)

/-- Data with its members in any order, and so those about each type but for that of its fields.
The order of types stays. -/
def IsRearranged (value other : Json) : Prop :=
  ∃ members moved others, value = .obj members ∧ other = .obj others ∧ members.Perm moved ∧
    List.Forall₂ IsMemberRearranged moved others

/-- Members in their places are found alike, by induction on them. -/
theorem find?_rearranged {moved others : List (String × Json)}
    (rearranged : List.Forall₂ IsMemberRearranged moved others) (name : String) :
    Assoc.find? name moved = Assoc.find? name others ∨
      name = "type" ∧ ∃ table other, Assoc.find? name moved = some table ∧
        Assoc.find? name others = some other ∧ IsTableRearranged table other := by
  induction rearranged with
  | nil => exact .inl rfl
  | @cons member other moved others same _ ih =>
      obtain ⟨key, value⟩ := member
      obtain ⟨otherKey, otherValue⟩ := other
      obtain ⟨named, change⟩ := same
      cases named
      by_cases isKey : key = name
      · cases isKey
        rw [Assoc.find?, if_pos rfl, Assoc.find?, if_pos rfl]
        rcases change with rfl | ⟨isType, table⟩
        · exact .inl rfl
        · exact .inr ⟨isType, value, otherValue, rfl, rfl, table⟩
      · rw [Assoc.find?, if_neg isKey, Assoc.find?, if_neg isKey]
        exact ih

/-- Only the order of types, and that of the fields of each, matters to options. -/
theorem ofJson_rearranged {value other : Json} {options : Options}
    (plain : value.withoutRepeats = value) (rearranged : IsRearranged value other)
    (read : ofJson value = .ok options) : ofJson other = .ok options := by
  have valid := isConfiguration_of_ofJson read
  obtain ⟨auto, types, isAuto, isTypes, isChecked, rfl⟩ := of_ofJson_eq_ok read
  obtain ⟨members, moved, others, rfl, rfl, perm, inPlace⟩ := rearranged
  have distinct := (Json.of_withoutRepeats_eq plain).1
  have known : ∀ member ∈ others, IsKnown member := by
    intro member inside
    have named : member.1 ∈ members.map Prod.fst := by
      rw [(perm.map Prod.fst).mem_iff,
        map_fst_eq_of_forall₂ (inPlace.imp fun _ _ same => same.1)]
      exact List.mem_map_of_mem inside
    obtain ⟨source, isSource, same⟩ := List.mem_map.1 named
    have isKnown := valid.known source isSource
    rwa [IsKnown, same] at isKnown
  have found (name : String) (other : name ≠ "type") :
      (Json.obj others).member? name = (Json.obj members).member? name := by
    rw [Json.member?_perm distinct perm]
    rcases find?_rearranged inPlace name with same | ⟨isType, _⟩
    · exact same.symm
    · exact absurd isType other
  have tables : readTypes ((Json.obj others).member? "type") = .ok types := by
    have movedPlain := Json.withoutRepeats_perm plain perm
    rw [Json.member?_perm distinct perm] at isTypes
    rcases find?_rearranged inPlace "type" with same | ⟨_, table, otherTable, one, two, change⟩
    · rwa [show (Json.obj others).member? "type" = (Json.obj moved).member? "type" from same.symm]
    · rw [show (Json.obj moved).member? "type" = some table from one] at isTypes
      rw [show (Json.obj others).member? "type" = some otherTable from two]
      exact readTypes_rearranged (Json.plain_of_member? movedPlain one) change isTypes
  rw [ofJson_eq_of_known ⟨others, rfl⟩ known, found "auto" (by simp), found "resolvers" (by simp),
    isAuto, tables, isChecked]
  rfl

/-- Configuration data is accepted exactly if it is in the language of options, and refused with
its first fault otherwise.  Options hold what the data say in the order of the data and have no
resolver, so they are valid, and the places of members matter for types and fields only. -/
theorem ofJson_configuration (value : Json) :
    ((∃ options, ofJson value = .ok options) ↔ IsConfiguration value) ∧
      (∀ error, ofJson value = .error error ↔ Fault value error) ∧
        (value.withoutRepeats = value → ∀ options, ofJson value = .ok options →
          options.Holds value ∧ options.validate = .ok () ∧
            ∀ other, IsRearranged value other → ofJson other = .ok options) := by
  refine ⟨⟨fun ⟨options, read⟩ => isConfiguration_of_ofJson read, exists_ofJson⟩, ?_, ?_⟩
  · intro error
    refine ⟨fun refused => ?_, ofJson_of_fault⟩
    rcases isConfiguration_or_exists_fault value with valid | ⟨first, fault⟩
    · obtain ⟨options, read⟩ := exists_ofJson valid
      rw [refused] at read
      cases read
    · have same := ofJson_of_fault fault
      rw [refused] at same
      cases same
      exact fault
  · intro plain options read
    have held := holds_of_ofJson plain read
    have isValid : options.validate = .ok () := by
      rw [validate, held.resolvers]
      rfl
    exact ⟨held, isValid, fun other rearranged => ofJson_rearranged plain rearranged read⟩

/-- Data about one type with one field. -/
def oneType : Json :=
  .obj [("auto", .bool true), ("type", .obj [("Product",
    .obj [("sku", .obj [("@directives", .str "@shareable")]), ("@extend", .bool true)])])]

/-- The options that are said about one type are read, wherever its members are. -/
theorem ofJson_configuration_oneType :
    oneType.withoutRepeats = oneType ∧ ∃ options, ofJson oneType = .ok options ∧
      options.Holds oneType ∧ options.validate = .ok () ∧
        ∀ other, IsRearranged oneType other → ofJson other = .ok options := by
  have plain : oneType.withoutRepeats = oneType := rfl
  let said : TypeOptions := { extend := some true, fields := .ofList [("sku", ⟨some "@shareable"⟩)] }
  have read : ofJson oneType = .ok { auto := true, types := .ofList [("Product", said)] } := rfl
  exact ⟨plain, _, read, (ofJson_configuration oneType).2.2 plain _ read⟩

end Options

end Subgraph
