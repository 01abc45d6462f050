import Subgraph.Proofs.Introspection.Answer

/-!
# What is kept of a value

A query asks about some members of a value, and about some members of these.
What is not asked for is left out of the answer.

* `Asked` is what is asked about a value, and `Json.keep` what is kept of it.
* `Follows` says how a member of a record goes on being read: it is set as
  before, or it is left out and would have changed nothing.
* `record_keep` says what is read of an object then, from what was read of the
  whole.
-/

namespace Subgraph

/-! ## What is asked -/

/-- What is asked about a value: nothing inside it, or some members. -/
inductive Asked where
  | nothing
  | member (name : String) (inside others : Asked)
deriving DecidableEq

namespace Asked

/-- What is asked about a member, if it is asked for. -/
def find? (name : String) : Asked → Option Asked
  | nothing => none
  | member other inside others => if other = name then some inside else others.find? name

/-- What is asked but about a member. -/
def without (name : String) : Asked → Asked
  | nothing => nothing
  | member other inside others =>
      if other = name then others.without name else member other inside (others.without name)

/-- What is asked in one of two places. -/
def union : Asked → Asked → Asked
  | nothing, more => more
  | member name inside others, more =>
      match more.find? name with
      | some also => member name (inside.union also) (others.union (more.without name))
      | none => member name inside (others.union more)

/-- Members with what is asked about each. -/
def ofList : List (String × Asked) → Asked
  | [] => nothing
  | (name, inside) :: others => member name inside (ofList others)

end Asked

namespace Json

mutual

/-- What is kept of a value, in its order.  All of it is where nothing inside it is asked for. -/
def keep : Json → Asked → Json
  | value, .nothing => value
  | .arr items, .member name inside others => .arr (keepAll items (.member name inside others))
  | .obj members, .member name inside others => .obj (keepIn members (.member name inside others))
  | value, .member _ _ _ => value

/-- What is kept of the items of an array. -/
def keepAll : List Json → Asked → List Json
  | [], _ => []
  | item :: rest, asked => item.keep asked :: keepAll rest asked

/-- What is kept of the members of an object. -/
def keepIn : List (String × Json) → Asked → List (String × Json)
  | [], _ => []
  | (name, value) :: rest, asked =>
      match asked.find? name with
      | some inside => (name, value.keep inside) :: keepIn rest asked
      | none => keepIn rest asked

end

example : (obj [("a", .null), ("b", .arr [.obj [("c", .null), ("d", .null)]])]).keep
    (.ofList [("b", .ofList [("d", .nothing)])]) = obj [("b", .arr [.obj [("d", .null)]])] := rfl

/-- Arrays list objects, but for those under one name. -/
inductive ListsObjects (exempt : String) : Json → Prop where
  | null : ListsObjects exempt .null
  | bool (value : Bool) : ListsObjects exempt (.bool value)
  | int (value : Int) : ListsObjects exempt (.int value)
  | double (value : Double) : ListsObjects exempt (.double value)
  | str (value : String) : ListsObjects exempt (.str value)
  | arr {items : List (List (String × Json))}
      (each : ∀ members ∈ items, ListsObjects exempt (.obj members)) :
      ListsObjects exempt (.arr (items.map .obj))
  | obj {members : List (String × Json)}
      (each : ∀ member ∈ members, member.1 ≠ exempt → ListsObjects exempt member.2) :
      ListsObjects exempt (.obj members)

@[simp] theorem keep_nothing (value : Json) : value.keep .nothing = value := by
  cases value <;> rfl

theorem keepAll_eq_map (items : List Json) (asked : Asked) :
    keepAll items asked = items.map (keep · asked) := by
  induction items with
  | nil => rfl
  | cons item rest ih => rw [keepAll, ih, List.map_cons]

theorem keep_arr (items : List Json) (asked : Asked) :
    (arr items).keep asked = arr (items.map (keep · asked)) := by
  cases asked with
  | nothing => simp
  | member => rw [keep, keepAll_eq_map]

theorem keep_ne_null {value : Json} (asked : Asked) (given : value ≠ .null) :
    value.keep asked ≠ .null := by
  cases value with
  | null => exact absurd rfl given
  | _ => cases asked <;> simp [keep]

/-- A member is kept if it is asked for. -/
theorem mem_map_fst_keepIn {members : List (String × Json)} {asked inside : Asked} {name : String}
    (isAsked : asked.find? name = some inside) (given : name ∈ members.map Prod.fst) :
    name ∈ (keepIn members asked).map Prod.fst := by
  induction members with
  | nil => cases given
  | cons member members ih =>
      obtain ⟨key, value⟩ := member
      rw [keepIn]
      rcases List.mem_cons.1 given with rfl | later
      · rw [isAsked]
        exact List.mem_cons_self
      · cases asked.find? key with
        | none => exact ih later
        | some inside => exact List.mem_cons_of_mem _ (ih later)

/-! ## Members that go on being read -/

section

variable {exempt : String} {asked : Asked} {α δ : Type} {change : δ → δ} {whole less : Json}

/-- A member is set as before where it is kept.  Where it is left out, it need not come and would
have set nothing that is left. -/
structure Follows (exempt : String) (asked : Asked) (change : δ → δ) (member : Member whole δ)
    (other : Member less δ) : Prop where
  name : other.name = member.name
  absence : other.absence = member.absence
  kept : ∀ {inside}, asked.find? member.name = some inside →
    ∀ {value within draft next}, (member.name ≠ exempt → ListsObjects exempt value) →
      member.set value within draft = .ok next →
        ∀ within, other.set (value.keep inside) within (change draft) = .ok (change next)
  left : asked.find? member.name = none → member.absence ≠ .refused ∧
    ∀ {value within draft next}, member.set value within draft = .ok next →
      change next = change draft

/-- A part is read as before from what is kept of it, but for what that changes. -/
def Carries (exempt : String) (inside : Asked) (found : α → α) (read : PartReading whole α)
    (other : PartReading less α) : Prop :=
  ∀ ⦃value within one⦄, ListsObjects exempt value → read value within = .ok one →
    ∀ within, other (value.keep inside) within = .ok (found one)

variable {name : String} {absence : Absence} {read : PartReading whole α}
  {other : PartReading less α} {set : δ → α → δ}

/-- A member that is kept with nothing inside it left out. -/
theorem Follows.entire (isAsked : asked.find? name = some .nothing)
    (agrees : Agrees read other)
    (commutes : ∀ draft one, change (set draft one) = set (change draft) one) :
    Follows exempt asked change
      ⟨name, absence, fun part within draft => (read part within).map (set draft)⟩
      ⟨name, absence, fun part within draft => (other part within).map (set draft)⟩ where
  name := rfl
  absence := rfl
  kept := by
    intro inside isInside value within draft next _ sets within'
    rw [isAsked] at isInside
    cases isInside
    obtain ⟨one, found, rfl⟩ := of_map_eq_ok sets
    have again : ∀ kept, kept = value → ∀ within, other kept within = .ok one := by
      rintro _ rfl within'
      rw [← agrees _ within within', found]
    show (other (value.keep .nothing) within').map (set (change draft)) = _
    rw [again _ (keep_nothing value), commutes]
    rfl
  left := by
    intro isLeft
    rw [isAsked] at isLeft
    cases isLeft

/-- A member that is kept with something inside it left out. -/
theorem Follows.inside {inside : Asked} {found : α → α} (isAsked : asked.find? name = some inside)
    (notExempt : name ≠ exempt) (carries : Carries exempt inside found read other)
    (commutes : ∀ draft one, change (set draft one) = set (change draft) (found one)) :
    Follows exempt asked change
      ⟨name, absence, fun part within draft => (read part within).map (set draft)⟩
      ⟨name, absence, fun part within draft => (other part within).map (set draft)⟩ where
  name := rfl
  absence := rfl
  kept := by
    intro _ isInside value within draft next tree sets within'
    rw [isAsked] at isInside
    cases isInside
    obtain ⟨one, reads, rfl⟩ := of_map_eq_ok sets
    show (other (value.keep inside) within').map (set (change draft)) = _
    rw [carries (tree notExempt) reads, commutes]
    rfl
  left := by
    intro isLeft
    rw [isAsked] at isLeft
    cases isLeft

/-- A member that is left out. -/
theorem Follows.leftOut (notAsked : asked.find? name = none) (free : absence ≠ .refused)
    (unchanged : ∀ draft one, change (set draft one) = change draft) :
    Follows exempt asked change
      ⟨name, absence, fun part within draft => (read part within).map (set draft)⟩
      ⟨name, absence, fun part within draft => (other part within).map (set draft)⟩ where
  name := rfl
  absence := rfl
  kept := by
    intro _ isInside
    rw [notAsked] at isInside
    cases isInside
  left := by
    refine fun _ => ⟨free, ?_⟩
    intro value within draft next sets
    obtain ⟨one, _, rfl⟩ := of_map_eq_ok sets
    exact unchanged draft one

/-! ### Parts -/

theorem Carries.each {inside : Asked} {found : α → α} {read : Json → Except Mismatch α}
    (reads : ∀ {value one}, ListsObjects exempt value → read value = .ok one →
      read (value.keep inside) = .ok (found one)) :
    Carries exempt inside found (each read : PartReading whole α)
      (each read : PartReading less α) :=
  fun _ _ _ tree same _ => reads tree same

theorem Carries.nullable {inside : Asked} {found : α → α}
    (carries : Carries exempt inside found read other) :
    Carries exempt inside (Option.map found) (nullable read) (nullable other) := by
  intro value within one tree same within'
  by_cases given : value = .null
  · cases given
    cases same
    cases inside <;> rfl
  · rw [nullable_of_ne_null read given] at same
    obtain ⟨part, reads, rfl⟩ := of_map_eq_ok same
    rw [nullable_of_ne_null other (keep_ne_null inside given), carries tree reads]
    rfl

/-- Items are read as before from what is kept of each, by induction on them. -/
theorem mapM_keep {inside : Asked} {found : α → α} {read : Json → Except Mismatch α}
    {values : List Json} {all : List α} (tree : ∀ value ∈ values, ListsObjects exempt value)
    (reads : ∀ {value one}, ListsObjects exempt value → read value = .ok one →
      read (value.keep inside) = .ok (found one)) (same : values.mapM read = .ok all) :
    (values.map (keep · inside)).mapM read = .ok (all.map found) := by
  induction values generalizing all with
  | nil =>
      cases same
      rfl
  | cons value values ih =>
      obtain ⟨isTree, trees⟩ := List.forall_mem_cons.1 tree
      rw [List.mapM_cons] at same
      obtain ⟨first, one, same⟩ := of_bind_eq_ok same
      obtain ⟨rest, others, same⟩ := of_bind_eq_ok same
      cases same
      rw [List.map_cons, List.mapM_cons, reads isTree one, ih trees others]
      rfl

theorem Carries.items {inside : Asked} {found : α → α} {read : Json → Except Mismatch α}
    (reads : ∀ {value one}, ListsObjects exempt value → read value = .ok one →
      read (value.keep inside) = .ok (found one)) :
    Carries exempt inside (List.map found) (items read : PartReading whole (List α))
      (items read : PartReading less (List α)) := by
  intro value within one tree same within'
  cases tree with
  | @arr objects each =>
      have kept : ∀ (item : Json) (within : sizeOf item < sizeOf less),
          item = arr ((objects.map .obj).map (keep · inside)) →
            Json.items read item within = .ok (one.map found) := by
        rintro _ _ rfl
        exact mapM_keep (List.forall_mem_map.2 each) reads same
      exact kept _ within' (keep_arr _ inside)
  | _ => cases same

/-! ### Objects -/

theorem exists_follows {members : List (Member whole δ)} {others : List (Member less δ)}
    (follow : List.Forall₂ (Follows exempt asked change) members others) :
    ∀ other ∈ others, ∃ member ∈ members, Follows exempt asked change member other := by
  induction follow with
  | nil => exact nofun
  | @cons member other members others one _ ih =>
      refine List.forall_mem_cons.2 ⟨⟨member, List.mem_cons_self, one⟩, fun other inside => ?_⟩
      obtain ⟨member, isMember, follows⟩ := ih other inside
      exact ⟨member, List.mem_cons_of_mem _ isMember, follows⟩

/-- The members that are kept are set one after the other, by induction on what is given.  What is
left out changes nothing. -/
theorem setNamed_keepIn {members : List (Member whole δ)} {others : List (Member less δ)}
    (follow : List.Forall₂ (Follows exempt asked change) members others)
    {given : List (String × Json)} {within : ∀ entry ∈ given, sizeOf entry.2 < sizeOf whole}
    {within' : ∀ entry ∈ keepIn given asked, sizeOf entry.2 < sizeOf less}
    {seen fewer : List String} {draft last : δ} (isFewer : fewer ⊆ seen)
    (tree : ∀ entry ∈ given, entry.1 ≠ exempt → ListsObjects exempt entry.2)
    (read : setNamed members given within seen draft = .ok last) :
    setNamed others (keepIn given asked) within' fewer (change draft) = .ok (change last) := by
  induction given generalizing seen fewer draft with
  | nil =>
      cases read
      rfl
  | cons entry given ih =>
      obtain ⟨name, value⟩ := entry
      obtain ⟨isTree, trees⟩ := List.forall_mem_cons.1 tree
      rw [setNamed] at read
      rcases find?_name_of_forall₂ Follows.name follow name with
        ⟨unknown, unknownToo⟩ | ⟨member, other, found, foundToo, follows⟩
      · rw [unknown] at read
        dsimp only at read
        cases isAsked : asked.find? name with
        | none =>
            simp only [keepIn, isAsked] at within' ⊢
            exact ih isFewer trees read
        | some inside =>
            simp only [keepIn, isAsked] at within' ⊢
            rw [setNamed, unknownToo]
            exact ih isFewer trees read
      · have named : member.name = name := by simpa using List.find?_some found
        cases named
        rw [found] at read
        dsimp only at read
        split at read
        next => cases read
        next isNew =>
            split at read
            next => cases read
            next next sets =>
                cases isAsked : asked.find? member.name with
                | none =>
                    simp only [keepIn, isAsked] at within' ⊢
                    rw [← (follows.left isAsked).2 sets]
                    exact ih (List.subset_cons_of_subset _ isFewer) trees read
                | some inside =>
                    simp only [keepIn, isAsked] at within' ⊢
                    rw [setNamed, foundToo]
                    dsimp only
                    rw [if_neg fun again => isNew (isFewer again),
                      follows.kept isAsked isTree sets]
                    exact ih (List.cons_subset_cons _ isFewer) trees read

/-- What is kept of an object is read as what was read of the whole, but for what is left out. -/
theorem record_keepIn {record : String} {blank last : δ} {given : List (String × Json)}
    {members : List (Member (obj given) δ)} {others : List (Member (obj (keepIn given asked)) δ)}
    (follow : List.Forall₂ (Follows exempt asked change) members others)
    (blankStays : change blank = blank) (tree : ListsObjects exempt (obj given))
    (read : Json.record record blank (obj given) members = .ok last) :
    Json.record record blank (obj (keepIn given asked)) others = .ok (change last) := by
  have trees : ∀ entry ∈ given, entry.1 ≠ exempt → ListsObjects exempt entry.2 := by
    cases tree with
    | obj each => exact each
  rw [Json.record] at read
  split at read
  next => cases read
  next draft sets =>
      split at read
      next => cases read
      next complete =>
          cases read
          have kept : setNamed others (keepIn given asked)
              (fun _ inside => sizeOf_snd_lt_of_mem inside) [] (change blank) = .ok (change last) :=
            setNamed_keepIn follow (List.Subset.refl []) trees sets
          rw [blankStays] at kept
          have completeToo : others.find? (fun other => other.absence = .refused &&
              !(keepIn given asked).any fun entry => entry.1 = other.name) = none := by
            refine List.find?_eq_none.2 fun other isOther missing => ?_
            rw [Bool.and_eq_true, decide_eq_true_eq, Bool.not_eq_true', List.any_eq_false] at missing
            obtain ⟨member, isMember, follows⟩ := exists_follows follow other isOther
            have isRefused : member.absence = .refused := follows.absence.symm.trans missing.1
            obtain ⟨inside, isAsked⟩ := Option.ne_none_iff_exists'.1 fun notAsked =>
              (follows.left notAsked).1 isRefused
            have came : member.name ∈ given.map Prod.fst := by
              by_contra absent
              refine List.find?_eq_none.1 complete member isMember ?_
              rw [Bool.and_eq_true, decide_eq_true_eq, Bool.not_eq_true', List.any_eq_false]
              exact ⟨isRefused, fun entry among same =>
                absent (List.mem_map.2 ⟨entry, among, of_decide_eq_true same⟩)⟩
            obtain ⟨entry, among, same⟩ := List.mem_map.1 (mem_map_fst_keepIn isAsked came)
            exact missing.2 entry among (decide_eq_true (same.trans follows.name.symm))
          rw [Json.record, kept]
          dsimp only
          rw [completeToo]

/-! ### Arrays -/

/-- A list of objects is no record that has a member which is no object. -/
theorem setPlaced_objects {record : String} {size index : Nat} {members : List (Member whole δ)}
    {member : Member whole δ} (among : member ∈ members) (given : member.absence ≠ .defaulted)
    (refuses : ∀ object within draft, ∃ mismatch, member.set (obj object) within draft =
      .error mismatch)
    {objects : List (List (String × Json))}
    {within : ∀ value ∈ objects.map obj, sizeOf value < sizeOf whole} {draft last : δ} :
    setPlaced record size index members (objects.map obj) within draft ≠ .ok last := by
  induction members generalizing objects index draft with
  | nil => cases among
  | cons first members ih =>
      cases objects with
      | nil =>
          simp only [List.map_nil] at within ⊢
          rw [setPlaced]
          split
          next isDefaulted =>
              rcases List.mem_cons.1 among with rfl | later
              · exact absurd isDefaulted given
              · have behind (within : ∀ value ∈ ([] : List (List (String × Json))).map obj,
                    sizeOf value < sizeOf whole) :
                    setPlaced record size (index + 1) members (([] : List _).map obj) within draft ≠
                      .ok last := ih later
                exact behind within
          next =>
              intro same
              cases same
      | cons object objects =>
          simp only [List.map_cons] at within ⊢
          rw [setPlaced]
          split
          next =>
              intro same
              cases same
          next next sets =>
              rcases List.mem_cons.1 among with rfl | later
              · obtain ⟨mismatch, refused⟩ := refuses object (within _ List.mem_cons_self) draft
                rw [refused] at sets
                cases sets
              · exact ih later

/-- Among values whose arrays list objects, only objects are read as records. -/
theorem exists_eq_obj_of_record {record : String} {value : Json} {members : List (Member value δ)}
    {blank last : δ} (tree : ListsObjects exempt value) (member : Member value δ)
    (among : member ∈ members) (given : member.absence ≠ .defaulted)
    (refuses : ∀ object within draft, ∃ mismatch, member.set (obj object) within draft =
      .error mismatch)
    (read : Json.record record blank value members = .ok last) : ∃ given, value = obj given := by
  cases tree with
  | obj => exact ⟨_, rfl⟩
  | arr => exact absurd read (setPlaced_objects among given refuses)
  | null | bool | int | double | str => cases read

end

end Json

end Subgraph
