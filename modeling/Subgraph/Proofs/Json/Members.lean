import Subgraph.Proofs.Json.Text

/-!
# Members of an object

* `Json.flagAt?` and `Json.textAt?` read a member of one kind.
* `Json.of_withoutRepeats_eq` takes apart an object that has no member twice.
  The order of its members does not matter to what is found
  (`Json.member?_perm`).
* `IsFirst` says of a member that it is the first one to be refused.
-/

namespace Subgraph

/-- An entry is what is found under its key and nothing else, where no key is listed twice. -/
theorem Assoc.find?_eq_some_iff {entries : List (String × Json)}
    (distinct : (entries.map Prod.fst).Nodup) {name : String} {value : Json} :
    Assoc.find? name entries = some value ↔ (name, value) ∈ entries :=
  ⟨Assoc.mem_of_find?, Assoc.find?_of_mem distinct⟩

theorem map_fst_eq_of_forall₂ {α β : Type} {entries : List (String × α)}
    {others : List (String × β)}
    (pairs : List.Forall₂ (fun entry other => entry.1 = other.1) entries others) :
    entries.map Prod.fst = others.map Prod.fst := by
  rwa [← List.forall₂_eq_eq_eq, List.forall₂_map_left_iff, List.forall₂_map_right_iff]

namespace Json

/-- The members of an object, none of anything else. -/
def members : Json → List (String × Json)
  | .obj members => members
  | _ => []

/-- Only objects have members. -/
theorem exists_eq_obj {value inside : Json} {name : String}
    (found : value.member? name = some inside) : ∃ members, value = .obj members := by
  cases value with
  | obj members => exact ⟨members, rfl⟩
  | _ => cases found

/-- The truth value of a member. -/
def flagAt? (name : String) (value : Json) : Option Bool :=
  match value.member? name with
  | some (.bool flag) => some flag
  | _ => none

/-- The text of a member. -/
def textAt? (name : String) (value : Json) : Option String :=
  match value.member? name with
  | some (.str text) => some text
  | _ => none

section

variable {member : String × Json} {rest : List (String × Json)} {name : String}

theorem flagAt?_of_not_mem (absent : name ∉ rest.map Prod.fst) :
    (obj rest).flagAt? name = none := by
  rw [flagAt?, member?, (Assoc.find?_eq_none_iff name rest).2 absent]

theorem textAt?_of_not_mem (absent : name ∉ rest.map Prod.fst) :
    (obj rest).textAt? name = none := by
  rw [textAt?, member?, (Assoc.find?_eq_none_iff name rest).2 absent]

theorem flagAt?_cons (isNew : member.1 ∉ rest.map Prod.fst) :
    (obj (member :: rest)).flagAt? name =
      ((obj rest).flagAt? name).or ((obj [member]).flagAt? name) := by
  by_cases named : member.1 = name
  · have absent : (obj rest).flagAt? name = none := flagAt?_of_not_mem (named ▸ isNew)
    rw [absent, Option.none_or]
    simp [flagAt?, member?, Assoc.find?, named]
  · simp [flagAt?, member?, Assoc.find?, named]

theorem textAt?_cons (isNew : member.1 ∉ rest.map Prod.fst) :
    (obj (member :: rest)).textAt? name =
      ((obj rest).textAt? name).or ((obj [member]).textAt? name) := by
  by_cases named : member.1 = name
  · have absent : (obj rest).textAt? name = none := textAt?_of_not_mem (named ▸ isNew)
    rw [absent, Option.none_or]
    simp [textAt?, member?, Assoc.find?, named]
  · simp [textAt?, member?, Assoc.find?, named]

end

section

variable {members others : List (String × Json)} (distinct : (members.map Prod.fst).Nodup)
  (perm : members.Perm others) (name : String)
include distinct perm

theorem member?_perm : (obj members).member? name = (obj others).member? name := by
  have same : Assoc.find? name members = Assoc.find? name others := Option.ext fun value => by
    have otherDistinct := (perm.map Prod.fst).nodup_iff.1 distinct
    rw [Assoc.find?_eq_some_iff distinct, Assoc.find?_eq_some_iff otherDistinct, perm.mem_iff]
  exact same

theorem flagAt?_perm : (obj members).flagAt? name = (obj others).flagAt? name := by
  rw [flagAt?, flagAt?, member?_perm distinct perm]

theorem textAt?_perm : (obj members).textAt? name = (obj others).textAt? name := by
  rw [textAt?, textAt?, member?_perm distinct perm]

end

/-- Repeated members are left out by setting them again. -/
theorem nodup_withoutRepeatsIn {done members : List (String × Json)}
    (distinct : (done.map Prod.fst).Nodup) :
    ((withoutRepeatsIn done members).map Prod.fst).Nodup := by
  induction members generalizing done with
  | nil => exact distinct
  | cons member members ih => exact ih (Assoc.nodup_set _ _ distinct)

theorem withoutRepeatsIn_of_nodup {done members : List (String × Json)}
    (distinct : ((done ++ members).map Prod.fst).Nodup) :
    withoutRepeatsIn done members =
      done ++ members.map fun member => (member.1, member.2.withoutRepeats) := by
  induction members generalizing done with
  | nil => simp [withoutRepeatsIn]
  | cons member members ih =>
      have fresh : member.1 ∉ done.map Prod.fst := by
        rw [List.map_append, List.map_cons] at distinct
        exact fun inside => (List.nodup_append.1 distinct).2.2 _ inside _ List.mem_cons_self rfl
      rw [withoutRepeatsIn, Assoc.set_of_fresh _ fresh, ih (by simpa using distinct)]
      simp

/-- An object that nothing is left out of has each member once, and nothing is left out of its
members. -/
theorem of_withoutRepeats_eq {members : List (String × Json)}
    (plain : (obj members).withoutRepeats = obj members) :
    (members.map Prod.fst).Nodup ∧ ∀ member ∈ members, member.2.withoutRepeats = member.2 := by
  have same : withoutRepeatsIn [] members = members := Json.obj.inj plain
  have distinct : (members.map Prod.fst).Nodup := by
    rw [← same]
    exact nodup_withoutRepeatsIn List.nodup_nil
  refine ⟨distinct, fun member inside => ?_⟩
  rw [withoutRepeatsIn_of_nodup (by simpa using distinct), List.nil_append] at same
  have each := List.map_inj_left.1 (same.trans (List.map_id members).symm) member inside
  exact congrArg Prod.snd each

theorem withoutRepeats_perm {members others : List (String × Json)}
    (plain : (obj members).withoutRepeats = obj members) (perm : members.Perm others) :
    (obj others).withoutRepeats = obj others := by
  obtain ⟨distinct, each⟩ := of_withoutRepeats_eq plain
  have otherDistinct : (others.map Prod.fst).Nodup := (perm.map Prod.fst).nodup_iff.1 distinct
  exact congrArg obj (@withoutRepeatsIn_eq [] _ otherDistinct fun member inside =>
    each member (perm.mem_iff.2 inside))

theorem plain_of_member? {value inside : Json} {name : String}
    (plain : value.withoutRepeats = value) (found : value.member? name = some inside) :
    inside.withoutRepeats = inside := by
  obtain ⟨members, rfl⟩ := exists_eq_obj found
  exact (of_withoutRepeats_eq plain).2 _ (Assoc.mem_of_find? found)

end Json

/-- Among some members, this is the first one that is not as it should be. -/
def IsFirst (valid : String × Json → Prop) (members : List (String × Json))
    (bad : String × Json) : Prop :=
  ∃ before after, members = before ++ bad :: after ∧ ∀ member ∈ before, valid member

/-- All members are as they should be, or there is a first one that is not. -/
theorem forall_or_exists_isFirst (valid : String × Json → Prop) (members : List (String × Json)) :
    (∀ member ∈ members, valid member) ∨
      ∃ bad, ¬ valid bad ∧ IsFirst valid members bad := by
  induction members with
  | nil => exact .inl nofun
  | cons member members ih =>
      by_cases isValid : valid member
      · rcases ih with all | ⟨bad, invalid, before, after, rfl, each⟩
        · exact .inl (List.forall_mem_cons.2 ⟨isValid, all⟩)
        · exact .inr ⟨bad, invalid, member :: before, after, rfl,
            List.forall_mem_cons.2 ⟨isValid, each⟩⟩
      · exact .inr ⟨member, isValid, [], members, rfl, nofun⟩

end Subgraph
