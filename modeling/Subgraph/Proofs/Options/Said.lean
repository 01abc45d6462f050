import Subgraph.Proofs.Json.Members
import Subgraph.Proofs.Options.Printed

/-!
# What can be said about types and fields

Configuration data about a field or a type is a small language.  Its reading
accepts it and nothing else, and stops at the first fault.

* `IsConfiguration` is the language, and `Fault` says of an error that it is
  the first fault.
* `Holds` says what is held of the data that are read, and `Gains` what one
  more run over members adds to it.
* `TypeOptions.ofJson_rearranged`: of the members about a type, only those about
  its fields have an order that matters.
-/

namespace Subgraph

/-! ## What is said about a field -/

namespace FieldOptions

/-- A member that holds directives. -/
def IsMember (member : String × Json) : Prop :=
  member.1 = "@directives" ∧ ∃ text, member.2 = .str text

/-- What may be said about a field: nothing but directives. -/
def IsConfiguration (value : Json) : Prop :=
  ∃ members, value = .obj members ∧ ∀ member ∈ members, IsMember member

/-- The first fault in what is said about a field of a type. -/
inductive Fault (type field : String) : Json → ConfigurationError → Prop where
  | value {value : Json} (other : ∀ members, value ≠ .obj members) :
      Fault type field value (.invalidFieldValue type field)
  | key {members : List (String × Json)} {bad : String × Json}
      (first : IsFirst IsMember members bad) (other : bad.1 ≠ "@directives") :
      Fault type field (.obj members) (.unknownFieldKey type field bad.1)
  | directives {members : List (String × Json)} {bad : String × Json}
      (first : IsFirst IsMember members bad) (named : bad.1 = "@directives")
      (other : ∀ text, bad.2 ≠ .str text) :
      Fault type field (.obj members) (.invalidFieldDirectives type field)

variable {type field : String}

/-! ### Reading a member -/

theorem readMembers_directives (text : String) (rest : List (String × Json))
    (options : FieldOptions) :
    readMembers type field (("@directives", .str text) :: rest) options =
      readMembers type field rest { options with directives := some text } := by
  rw [readMembers]
  exact if_neg (not_not.2 rfl)

theorem readMembers_of_ne {bad : String × Json} (other : bad.1 ≠ "@directives")
    (rest : List (String × Json)) (options : FieldOptions) :
    readMembers type field (bad :: rest) options =
      .error (.unknownFieldKey type field bad.1) := by
  rw [readMembers.eq_def]
  exact if_pos other

theorem readMembers_of_not_text {bad : String × Json} (named : bad.1 = "@directives")
    (other : ∀ text, bad.2 ≠ .str text) (rest : List (String × Json)) (options : FieldOptions) :
    readMembers type field (bad :: rest) options = .error (.invalidFieldDirectives type field) := by
  obtain ⟨key, value⟩ := bad
  cases named
  rw [readMembers]
  · exact if_neg (not_not.2 rfl)
  · exact other

/-- Valid members in front are read and left behind, by induction on them. -/
theorem exists_readMembers_append (type field : String) {before : List (String × Json)}
    (valid : ∀ member ∈ before, IsMember member) (rest : List (String × Json))
    (options : FieldOptions) :
    ∃ next, readMembers type field (before ++ rest) options =
      readMembers type field rest next := by
  induction before generalizing options with
  | nil => exact ⟨options, rfl⟩
  | cons member before ih =>
      obtain ⟨⟨named, text, isText⟩, each⟩ := List.forall_mem_cons.1 valid
      obtain ⟨key, value⟩ := member
      cases named
      cases isText
      rw [List.cons_append, readMembers_directives]
      exact ih each _

/-! ### Accepted or refused -/

theorem exists_ofJson (type field : String) {value : Json}
    (isConfiguration : IsConfiguration value) :
    ∃ options, ofJson type field value = .ok options := by
  obtain ⟨members, rfl, valid⟩ := isConfiguration
  obtain ⟨next, same⟩ := exists_readMembers_append type field valid [] {}
  rw [List.append_nil] at same
  exact ⟨next, same⟩

theorem ofJson_of_fault {value : Json} {error : ConfigurationError}
    (fault : Fault type field value error) : ofJson type field value = .error error := by
  have begins {members : List (String × Json)} {bad : String × Json}
      (first : IsFirst IsMember members bad) : ∃ rest next,
        ofJson type field (.obj members) = readMembers type field (bad :: rest) next := by
    obtain ⟨before, after, rfl, valid⟩ := first
    exact ⟨after, exists_readMembers_append type field valid (bad :: after) {}⟩
  cases fault with
  | value other =>
      unfold ofJson
      split
      next members => exact absurd rfl (other members)
      next => rfl
  | key first other =>
      obtain ⟨rest, next, same⟩ := begins first
      rw [same, readMembers_of_ne other]
  | directives first named other =>
      obtain ⟨rest, next, same⟩ := begins first
      rw [same, readMembers_of_not_text named other]

theorem isConfiguration_or_exists_fault (type field : String) (value : Json) :
    IsConfiguration value ∨ ∃ error, Fault type field value error := by
  cases value with
  | obj members =>
      rcases forall_or_exists_isFirst IsMember members with valid | ⟨bad, invalid, first⟩
      · exact .inl ⟨members, rfl, valid⟩
      · by_cases named : bad.1 = "@directives"
        · exact .inr ⟨_, .directives first named fun text isText => invalid ⟨named, text, isText⟩⟩
        · exact .inr ⟨_, .key first named⟩
  | _ => exact .inr ⟨_, .value nofun⟩

/-- What options of a field hold of the data that they are read from. -/
def Holds (options : FieldOptions) (value : Json) : Prop :=
  options.directives = value.textAt? "@directives"

/-- A field's directives are held, where they are given once at most. -/
theorem holds_of_ofJson {value : Json} {options : FieldOptions}
    (plain : value.withoutRepeats = value) (isConfiguration : IsConfiguration value)
    (read : ofJson type field value = .ok options) : options.Holds value := by
  obtain ⟨members, rfl, valid⟩ := isConfiguration
  have distinct := (Json.of_withoutRepeats_eq plain).1
  match members with
  | [] =>
      cases read
      rfl
  | [(key, value)] =>
      obtain ⟨named, text, isText⟩ := valid _ List.mem_cons_self
      cases named
      cases isText
      cases read
      rfl
  | first :: second :: others =>
      have same : first.1 = second.1 := by
        rw [(valid first (by simp)).1, (valid second (by simp)).1]
      simp [same] at distinct

end FieldOptions

/-! ## What is said about a type -/

namespace TypeOptions

/-- A member of what is said about a type: one of the two with an at sign, or a field. -/
def IsMember (member : String × Json) : Prop :=
  (member.1 = "@extend" ∧ ∃ flag, member.2 = .bool flag) ∨
    (member.1 = "@directives" ∧ ∃ text, member.2 = .str text) ∨
      (IsFieldName member.1 ∧ FieldOptions.IsConfiguration member.2)

/-- What may be said about a type. -/
def IsConfiguration (value : Json) : Prop :=
  ∃ members, value = .obj members ∧ ∀ member ∈ members, IsMember member

/-- The first fault in a member of what is said about a type. -/
inductive MemberFault (type : String) : String × Json → ConfigurationError → Prop where
  | extend {value : Json} (other : ∀ flag, value ≠ .bool flag) :
      MemberFault type ("@extend", value) (.invalidTypeKeyValue type "@extend" "boolean")
  | directives {value : Json} (other : ∀ text, value ≠ .str text) :
      MemberFault type ("@directives", value) (.invalidTypeKeyValue type "@directives" "string")
  | key {bad : String × Json} (noField : ¬ IsFieldName bad.1) (noExtend : bad.1 ≠ "@extend")
      (noDirectives : bad.1 ≠ "@directives") : MemberFault type bad (.unknownTypeKey type bad.1)
  | field {bad : String × Json} {error : ConfigurationError} (isField : IsFieldName bad.1)
      (fault : FieldOptions.Fault type bad.1 bad.2 error) : MemberFault type bad error

/-- The first fault in what is said about a type. -/
inductive Fault (type : String) : Json → ConfigurationError → Prop where
  | value {value : Json} (other : ∀ members, value ≠ .obj members) :
      Fault type value (.invalidTypeValue type)
  | member {members : List (String × Json)} {bad : String × Json} {error : ConfigurationError}
      (first : IsFirst IsMember members bad) (fault : MemberFault type bad error) :
      Fault type (.obj members) error

variable {type : String}

/-! ### Reading a member -/

theorem readMember_extend (flag : Bool) (options : TypeOptions) :
    readMember type "@extend" (.bool flag) options =
      .ok { options with extend := some flag } := rfl

theorem readMember_directives (text : String) (options : TypeOptions) :
    readMember type "@directives" (.str text) options =
      .ok { options with directives := some text } := rfl

theorem exists_readMember (type : String) {member : String × Json} (isMember : IsMember member)
    (options : TypeOptions) : ∃ next, readMember type member.1 member.2 options = .ok next := by
  obtain ⟨key, value⟩ := member
  rcases isMember with ⟨named, flag, isFlag⟩ | ⟨named, text, isText⟩ | ⟨isField, said⟩
  · cases named
    cases isFlag
    exact ⟨_, readMember_extend flag options⟩
  · cases named
    cases isText
    exact ⟨_, readMember_directives text options⟩
  · obtain ⟨field, read⟩ := FieldOptions.exists_ofJson type key said
    refine ⟨{ options with fields := options.fields.insert key field }, ?_⟩
    rw [readMember_of_isFieldName type isField, read]
    rfl

theorem readMember_of_fault {bad : String × Json} {error : ConfigurationError}
    (fault : MemberFault type bad error) (options : TypeOptions) :
    readMember type bad.1 bad.2 options = .error error := by
  cases fault with
  | @extend value other =>
      cases value with
      | bool flag => exact absurd rfl (other flag)
      | _ => rfl
  | @directives value other =>
      cases value with
      | str text => exact absurd rfl (other text)
      | _ => rfl
  | key noField noExtend noDirectives =>
      unfold readMember
      rw [if_neg (show bad.1 ≠ extendKey from noExtend),
        if_neg (show bad.1 ≠ directivesKey from noDirectives), if_pos (not_not.1 noField)]
  | field isField fault =>
      rw [readMember_of_isFieldName type isField, FieldOptions.ofJson_of_fault fault]
      rfl

theorem isMember_or_exists_fault (type : String) (member : String × Json) :
    IsMember member ∨ ∃ error, MemberFault type member error := by
  obtain ⟨key, value⟩ := member
  by_cases isField : IsFieldName key
  · rcases FieldOptions.isConfiguration_or_exists_fault type key value with said | ⟨error, fault⟩
    · exact .inl (.inr (.inr ⟨isField, said⟩))
    · exact .inr ⟨error, .field isField fault⟩
  · by_cases isExtend : key = "@extend"
    · cases isExtend
      cases value with
      | bool flag => exact .inl (.inl ⟨rfl, flag, rfl⟩)
      | _ => exact .inr ⟨_, .extend nofun⟩
    · by_cases isDirectives : key = "@directives"
      · cases isDirectives
        cases value with
        | str text => exact .inl (.inr (.inl ⟨rfl, text, rfl⟩))
        | _ => exact .inr ⟨_, .directives nofun⟩
      · exact .inr ⟨_, .key isField isExtend isDirectives⟩

/-! ### Accepted or refused -/

/-- Valid members in front are read and left behind, by induction on them. -/
theorem exists_readMembers_append (type : String) {before : List (String × Json)}
    (valid : ∀ member ∈ before, IsMember member) (rest : List (String × Json))
    (options : TypeOptions) :
    ∃ next, readMembers type (before ++ rest) options = readMembers type rest next := by
  induction before generalizing options with
  | nil => exact ⟨options, rfl⟩
  | cons member before ih =>
      obtain ⟨isMember, each⟩ := List.forall_mem_cons.1 valid
      obtain ⟨middle, read⟩ := exists_readMember type isMember options
      rw [List.cons_append, readMembers_cons, read]
      exact ih each middle

theorem exists_ofJson (type : String) {value : Json}
    (isConfiguration : IsConfiguration value) :
    ∃ options, ofJson type value = .ok options := by
  obtain ⟨members, rfl, valid⟩ := isConfiguration
  obtain ⟨next, same⟩ := exists_readMembers_append type valid [] {}
  rw [List.append_nil] at same
  exact ⟨next, same⟩

theorem ofJson_of_fault {value : Json} {error : ConfigurationError}
    (fault : Fault type value error) : ofJson type value = .error error := by
  cases fault with
  | value other =>
      unfold ofJson
      split
      next members => exact absurd rfl (other members)
      next => rfl
  | @member members bad _ first fault =>
      obtain ⟨before, after, rfl, valid⟩ := first
      obtain ⟨next, same⟩ :=
        exists_readMembers_append type valid (bad :: after) {}
      rw [ofJson, same, readMembers_cons, readMember_of_fault fault]
      rfl

theorem isConfiguration_or_exists_fault (type : String) (value : Json) :
    IsConfiguration value ∨ ∃ error, Fault type value error := by
  cases value with
  | obj members =>
      rcases forall_or_exists_isFirst IsMember members with valid | ⟨bad, invalid, first⟩
      · exact .inl ⟨members, rfl, valid⟩
      · rcases isMember_or_exists_fault type bad with valid | ⟨error, fault⟩
        · exact absurd valid invalid
        · exact .inr ⟨error, .member first fault⟩
  | _ => exact .inr ⟨_, .value nofun⟩

theorem isConfiguration_of_ofJson {value : Json} {options : TypeOptions}
    (read : ofJson type value = .ok options) : IsConfiguration value := by
  rcases isConfiguration_or_exists_fault type value with valid | ⟨error, fault⟩
  · exact valid
  · rw [ofJson_of_fault fault] at read
    cases read

/-! ### What is held -/

/-- The members about the fields of a type. -/
def fieldMembers (value : Json) : List (String × Json) :=
  value.members.filter fun member => IsFieldName member.1

/-- What options of a type hold of the data that they are read from. -/
structure Holds (options : TypeOptions) (value : Json) : Prop where
  extend : options.extend = value.flagAt? "@extend"
  directives : options.directives = value.textAt? "@directives"
  fields : List.Forall₂ (fun entry member => entry.1 = member.1 ∧ entry.2.Holds member.2)
    options.fields.entries (fieldMembers value)

theorem fieldMembers_cons (member : String × Json) (rest : List (String × Json)) :
    fieldMembers (.obj (member :: rest)) = fieldMembers (.obj [member]) ++ fieldMembers (.obj rest) :=
  List.filter_append [member] rest

theorem fieldMembers_single {member : String × Json} (isField : IsFieldName member.1) :
    fieldMembers (.obj [member]) = [member] :=
  List.filter_cons_of_pos (decide_eq_true isField)

theorem fieldMembers_single_of_not {member : String × Json} (noField : ¬ IsFieldName member.1) :
    fieldMembers (.obj [member]) = [] :=
  List.filter_cons_of_neg (by simpa using noField)

/-- What is read of members is held in addition to what was held before. -/
structure Gains (members : List (String × Json)) (start last : TypeOptions) : Prop where
  extend : last.extend = ((Json.obj members).flagAt? "@extend").or start.extend
  directives : last.directives = ((Json.obj members).textAt? "@directives").or start.directives
  fields : ∃ added, last.fields.entries = start.fields.entries ++ added ∧
    List.Forall₂ (fun entry member => entry.1 = member.1 ∧ entry.2.Holds member.2) added
      (fieldMembers (.obj members))

theorem Gains.nil (options : TypeOptions) : Gains [] options options :=
  ⟨rfl, rfl, [], (List.append_nil _).symm, .nil⟩

theorem Gains.cons {member : String × Json} {rest : List (String × Json)}
    {start next last : TypeOptions} (isNew : member.1 ∉ rest.map Prod.fst)
    (one : Gains [member] start next) (others : Gains rest next last) :
    Gains (member :: rest) start last where
  extend := by rw [others.extend, one.extend, Json.flagAt?_cons isNew, Option.or_assoc]
  directives := by rw [others.directives, one.directives, Json.textAt?_cons isNew, Option.or_assoc]
  fields := by
    obtain ⟨first, entries, held⟩ := one.fields
    obtain ⟨added, more, heldToo⟩ := others.fields
    refine ⟨first ++ added, by rw [more, entries, List.append_assoc], ?_⟩
    rw [fieldMembers_cons]
    exact List.rel_append held heldToo

/-- Only fields that are read are new. -/
theorem Gains.mem_keys {members : List (String × Json)} {start last : TypeOptions} {name : String}
    (gains : Gains members start last) (among : name ∈ last.fields.keys) :
    name ∈ start.fields.keys ∨ name ∈ members.map Prod.fst := by
  obtain ⟨added, entries, held⟩ := gains.fields
  have names : added.map Prod.fst = (fieldMembers (.obj members)).map Prod.fst :=
    map_fst_eq_of_forall₂ (held.imp fun _ _ pair => pair.1)
  rw [OrderedMap.keys, entries, List.map_append, List.mem_append, names] at among
  exact among.imp_right fun new => (List.filter_sublist.map Prod.fst).subset new

theorem gains_of_readMember {member : String × Json} {start next : TypeOptions}
    (isFresh : member.1 ∉ start.fields.keys) (plain : member.2.withoutRepeats = member.2)
    (isMember : IsMember member) (read : readMember type member.1 member.2 start = .ok next) :
    Gains [member] start next := by
  obtain ⟨key, value⟩ := member
  rcases isMember with ⟨named, flag, isFlag⟩ | ⟨named, text, isText⟩ | ⟨isField, said⟩
  · cases named
    cases isFlag
    cases read
    refine ⟨rfl, rfl, [], (List.append_nil _).symm, ?_⟩
    rw [fieldMembers_single_of_not (by simp [IsFieldName])]
    exact .nil
  · cases named
    cases isText
    cases read
    refine ⟨rfl, rfl, [], (List.append_nil _).symm, ?_⟩
    rw [fieldMembers_single_of_not (by simp [IsFieldName])]
    exact .nil
  · rw [readMember_of_isFieldName type isField] at read
    obtain ⟨field, found, rfl⟩ := of_map_eq_ok read
    have noExtend : "@extend" ∉ [(key, value)].map Prod.fst := fun same =>
      isField.ne_extendKey (List.mem_singleton.1 same).symm
    have noDirectives : "@directives" ∉ [(key, value)].map Prod.fst := fun same =>
      isField.ne_directivesKey (List.mem_singleton.1 same).symm
    refine ⟨?_, ?_, [(key, field)], ?_, ?_⟩
    · rw [Json.flagAt?_of_not_mem noExtend, Option.none_or]
    · rw [Json.textAt?_of_not_mem noDirectives, Option.none_or]
    · rw [OrderedMap.entries_insert, Assoc.set_of_fresh _ isFresh]
    · rw [fieldMembers_single isField]
      exact .cons ⟨rfl, FieldOptions.holds_of_ofJson plain said found⟩ .nil

/-- A run over members gains what each of them adds, by induction on them.  None of them comes
twice. -/
theorem gains_of_readMembers {members : List (String × Json)} {start last : TypeOptions}
    (distinct : (members.map Prod.fst).Nodup)
    (fresh : ∀ member ∈ members, member.1 ∉ start.fields.keys)
    (plain : ∀ member ∈ members, member.2.withoutRepeats = member.2)
    (valid : ∀ member ∈ members, IsMember member)
    (read : readMembers type members start = .ok last) : Gains members start last := by
  induction members generalizing start with
  | nil =>
      cases read
      exact Gains.nil _
  | cons member members ih =>
      obtain ⟨isNew, restDistinct⟩ := List.nodup_cons.1 distinct
      obtain ⟨isFresh, restFresh⟩ := List.forall_mem_cons.1 fresh
      obtain ⟨isPlain, restPlain⟩ := List.forall_mem_cons.1 plain
      obtain ⟨isMember, restValid⟩ := List.forall_mem_cons.1 valid
      rw [readMembers_cons] at read
      obtain ⟨next, one, others⟩ := of_bind_eq_ok read
      have gains := gains_of_readMember isFresh isPlain isMember one
      have later : ∀ other ∈ members, other.1 ∉ next.fields.keys := by
        intro other inside again
        rcases gains.mem_keys again with old | new
        · exact restFresh other inside old
        · exact isNew (List.mem_map.2 ⟨other, inside, List.mem_singleton.1 new⟩)
      exact gains.cons isNew (ih restDistinct later restPlain restValid others)

theorem holds_of_ofJson {value : Json} {options : TypeOptions}
    (plain : value.withoutRepeats = value) (read : ofJson type value = .ok options) :
    options.Holds value := by
  obtain ⟨members, rfl, valid⟩ := isConfiguration_of_ofJson read
  obtain ⟨distinct, each⟩ := Json.of_withoutRepeats_eq plain
  obtain ⟨extend, directives, added, entries, held⟩ :=
    gains_of_readMembers distinct (fun _ _ => List.not_mem_nil) each valid read
  have same : options.fields.entries = added := entries
  exact ⟨by simpa using extend, by simpa using directives, by rwa [same]⟩

/-- Options of a type are made of nothing but what they hold of the data. -/
theorem Holds.unique {value : Json} {options others : TypeOptions} (first : options.Holds value)
    (second : others.Holds value) : options = others := by
  have one : Relator.LeftUnique fun (entry : String × FieldOptions) (member : String × Json) =>
      entry.1 = member.1 ∧ entry.2.Holds member.2 := by
    rintro ⟨name, ⟨text⟩⟩ ⟨other, ⟨otherText⟩⟩ member ⟨named, held⟩ ⟨sameName, same⟩
    have names : name = other := named.trans sameName.symm
    have texts : text = otherText := held.trans same.symm
    rw [names, texts]
  have entries := List.left_unique_forall₂' one first.fields second.fields
  have extend := first.extend.trans second.extend.symm
  have directives := first.directives.trans second.directives.symm
  obtain ⟨_, _, fields⟩ := options
  obtain ⟨_, _, others⟩ := others
  cases extend
  cases directives
  rw [OrderedMap.ext_entries (a := fields) (b := others) entries]

/-! ### Members in other places -/

/-- What is said about a type with its members in any order, but for that of its fields. -/
def IsRearranged (value other : Json) : Prop :=
  ∃ members others, value = .obj members ∧ other = .obj others ∧ members.Perm others ∧
    fieldMembers value = fieldMembers other

/-- The order of the other members does not matter to options of a type. -/
theorem ofJson_rearranged {value other : Json} {options : TypeOptions}
    (plain : value.withoutRepeats = value) (rearranged : IsRearranged value other)
    (read : ofJson type value = .ok options) : ofJson type other = .ok options := by
  obtain ⟨members, others, rfl, rfl, perm, sameFields⟩ := rearranged
  obtain ⟨_, same, valid⟩ := isConfiguration_of_ofJson read
  cases same
  have otherValid : IsConfiguration (.obj others) :=
    ⟨others, rfl, fun member inside => valid member (perm.mem_iff.2 inside)⟩
  obtain ⟨otherOptions, otherRead⟩ := exists_ofJson type otherValid
  have distinct := (Json.of_withoutRepeats_eq plain).1
  have held := holds_of_ofJson plain read
  have otherHeld := holds_of_ofJson (Json.withoutRepeats_perm plain perm) otherRead
  have moved : options.Holds (.obj others) :=
    ⟨by rw [held.extend, Json.flagAt?_perm distinct perm],
      by rw [held.directives, Json.textAt?_perm distinct perm], sameFields ▸ held.fields⟩
  rw [otherRead, moved.unique otherHeld]

end TypeOptions

end Subgraph
