import Mathlib.Data.List.Nodup
import Subgraph.Json.Record
import Subgraph.Proofs.Conversion

/-!
# What an object is read as

An object may give the members of a record in any order, and leave out some that
need not come.

* `Sets` says what comes of a record then, one member after the other.
* `record_eq_ok` says that this is what the object is read as.
* `record_keeps` is what holds of every record that is read, because each member
  keeps it.
* `record_leave` leaves out a member that sets what is there already.
-/

namespace Subgraph

namespace Json

variable {whole : Json} {α δ : Type}

/-! ## Parts -/

theorem nullable_of_ne_null (read : PartReading whole α) {part : Json} (given : part ≠ .null)
    (within : sizeOf part < sizeOf whole) :
    nullable read part within = (read part within).map some := by
  cases part with
  | null => exact absurd rfl given
  | _ => rfl

section

variable {less : Json} {read : PartReading whole α} {other : PartReading less α}

/-- A part is read alike in another whole. -/
def Agrees (read : PartReading whole α) (other : PartReading less α) : Prop :=
  ∀ value within within', read value within = other value within'

theorem agrees_each (read : Json → Except Mismatch α) :
    Agrees (each read : PartReading whole α) (each read : PartReading less α) :=
  fun _ _ _ => rfl

theorem agrees_plain : Agrees (plain : PartReading whole Json) (plain : PartReading less Json) :=
  fun _ _ _ => rfl

theorem agrees_text :
    Agrees (text : PartReading whole String) (text : PartReading less String) := by
  intro value _ _
  cases value <;> rfl

theorem agrees_flag : Agrees (flag : PartReading whole Bool) (flag : PartReading less Bool) := by
  intro value _ _
  cases value <;> rfl

theorem agrees_object : Agrees (object : PartReading whole (List (String × Json)))
    (object : PartReading less (List (String × Json))) := by
  intro value _ _
  cases value <;> rfl

theorem agrees_items (read : Json → Except Mismatch α) :
    Agrees (items read : PartReading whole (List α)) (items read : PartReading less (List α)) := by
  intro value _ _
  cases value <;> rfl

theorem Agrees.nullable (agrees : Agrees read other) :
    Agrees (nullable read) (nullable other) := by
  intro value within within'
  by_cases given : value = .null
  · cases given
    rfl
  · rw [nullable_of_ne_null read given, nullable_of_ne_null other given,
      agrees value within within']

end

/-! ## Members -/

@[simp] theorem Member.name_required (name : String) (read : PartReading whole α)
    (set : δ → α → δ) : (required name read set).name = name := rfl

@[simp] theorem Member.name_optional (name : String) (read : PartReading whole α)
    (set : δ → Option α → δ) : (optional name read set).name = name := rfl

@[simp] theorem Member.name_defaulted (name : String) (read : PartReading whole α)
    (set : δ → α → δ) : (defaulted name read set).name = name := rfl

/-- Members that are given one after the other take a record from one state to another.  Those that
are not given need not come. -/
inductive Sets : List (Member whole δ) → List (String × Json) → δ → δ → Prop where
  | nil {members : List (Member whole δ)} {draft : δ}
      (free : ∀ member ∈ members, member.absence ≠ .refused) : Sets members [] draft draft
  | skip {member : Member whole δ} {members : List (Member whole δ)}
      {given : List (String × Json)} {draft last : δ} (free : member.absence ≠ .refused)
      (rest : Sets members given draft last) : Sets (member :: members) given draft last
  | cons {member : Member whole δ} {members : List (Member whole δ)} {value : Json}
      {given : List (String × Json)} {draft next last : δ}
      (set : ∀ within, member.set value within draft = .ok next)
      (rest : Sets members given next last) :
      Sets (member :: members) ((member.name, value) :: given) draft last

namespace Sets

variable {name : String} {value : Json} {members : List (Member whole δ)}
  {given : List (String × Json)} {draft last : δ}

/-- Nothing is left to be set. -/
theorem done : Sets ([] : List (Member whole δ)) [] draft draft := .nil (by simp)

theorem required {read : PartReading whole α} {set : δ → α → δ} {found : α}
    (reads : ∀ within, read value within = .ok found)
    (rest : Sets members given (set draft found) last) :
    Sets (.required name read set :: members) ((name, value) :: given) draft last :=
  .cons (fun within => congrArg (Except.map (set draft)) (reads within)) rest

theorem optional {read : PartReading whole α} {set : δ → Option α → δ} {found : Option α}
    (reads : ∀ within, nullable read value within = .ok found)
    (rest : Sets members given (set draft found) last) :
    Sets (.optional name read set :: members) ((name, value) :: given) draft last :=
  .cons (fun within => congrArg (Except.map (set draft)) (reads within)) rest

theorem defaulted {read : PartReading whole α} {set : δ → α → δ} {found : α}
    (reads : ∀ within, read value within = .ok found)
    (rest : Sets members given (set draft found) last) :
    Sets (.defaulted name read set :: members) ((name, value) :: given) draft last :=
  .cons (fun within => congrArg (Except.map (set draft)) (reads within)) rest

/-- A member that may be left out is left out when it would set what is there already. -/
theorem defaulted_unless {absent : Bool} {read : PartReading whole α} {set : δ → α → δ} {found : α}
    (reads : absent = false → ∀ within, read value within = .ok found)
    (same : absent = true → set draft found = draft)
    (rest : Sets members given (set draft found) last) :
    Sets (.defaulted name read set :: members)
      ((if absent then [] else [(name, value)]) ++ given) draft last := by
  cases absent with
  | true =>
      rw [same rfl] at rest
      exact .skip Absence.noConfusion rest
  | false => exact .defaulted (reads rfl) rest

/-! ## Objects -/

/-- The members that are given are set, by induction on what is given.  None of them has been seen
before. -/
theorem setNamed_eq_ok {all : List (Member whole δ)} (sets : Sets members given draft last)
    (distinct : (all.map (·.name)).Nodup) (known : ∀ member ∈ members, member ∈ all)
    (apart : (members.map (·.name)).Nodup)
    (within : ∀ entry ∈ given, sizeOf entry.2 < sizeOf whole) {seen : List String}
    (unseen : ∀ member ∈ members, member.name ∉ seen) :
    setNamed all given within seen draft = .ok last := by
  induction sets generalizing seen with
  | nil free => rfl
  | @skip member members given draft last free rest ih =>
      exact ih (fun other among => known other (List.mem_cons_of_mem _ among))
        (List.nodup_cons.1 apart).2 within
        fun other among => unseen other (List.mem_cons_of_mem _ among)
  | @cons member members value given draft next last set rest ih =>
      obtain ⟨isNew, apart⟩ := List.nodup_cons.1 apart
      have inside := known member List.mem_cons_self
      have found : all.find? (fun other => other.name = member.name) = some member := by
        cases same : all.find? fun other => other.name = member.name with
        | none => exact absurd (decide_eq_true rfl) (List.find?_eq_none.1 same member inside)
        | some other =>
            have sameName : other.name = member.name := by simpa using List.find?_some same
            rw [List.inj_on_of_nodup_map distinct (List.mem_of_find?_eq_some same) inside sameName]
      rw [setNamed, found]
      dsimp only
      rw [if_neg (unseen member List.mem_cons_self), set]
      refine ih (fun other among => known other (List.mem_cons_of_mem _ among)) apart _
        fun other among again => ?_
      rcases List.mem_cons.1 again with same | again
      · exact isNew (List.mem_map.2 ⟨other, among, same⟩)
      · exact unseen other (List.mem_cons_of_mem _ among) again

/-- What is not given need not come. -/
theorem absence_ne_refused (sets : Sets members given draft last) :
    ∀ member ∈ members, (∀ entry ∈ given, entry.1 ≠ member.name) → member.absence ≠ .refused := by
  induction sets with
  | nil free => exact fun member inside _ => free member inside
  | skip free rest ih =>
      intro member inside absent
      rcases List.mem_cons.1 inside with rfl | inside
      · exact free
      · exact ih member inside absent
  | cons set rest ih =>
      intro member inside absent
      rcases List.mem_cons.1 inside with rfl | inside
      · exact absurd rfl (absent _ List.mem_cons_self)
      · exact ih member inside fun entry among => absent entry (List.mem_cons_of_mem _ among)

end Sets

/-- An object that gives its members in some order is read as the record that comes of them. -/
theorem record_eq_ok {name : String} {blank last : δ} {given : List (String × Json)}
    {members order : List (Member whole δ)} (isObject : whole = .obj given)
    (distinct : (members.map (·.name)).Nodup) (permuted : order.Perm members)
    (sets : Sets order given blank last) : record name blank whole members = .ok last := by
  subst isObject
  have complete : members.find? (fun member =>
      member.absence = .refused && !given.any fun entry => entry.1 = member.name) = none := by
    refine List.find?_eq_none.2 fun member inside missing => ?_
    rw [Bool.and_eq_true, decide_eq_true_eq, Bool.not_eq_true', List.any_eq_false] at missing
    exact sets.absence_ne_refused member (permuted.mem_iff.2 inside)
      (fun entry among same => missing.2 entry among (decide_eq_true same)) missing.1
  rw [record, sets.setNamed_eq_ok distinct (fun _ => permuted.mem_iff.1)
    ((permuted.map _).nodup_iff.2 distinct) (fun _ => sizeOf_snd_lt_of_mem)
    fun _ _ => List.not_mem_nil]
  dsimp only
  rw [complete]

/-! ## Invariants -/

/-- Setting a member keeps a property of the record. -/
def Member.Keeps (P : δ → Prop) (member : Member whole δ) : Prop :=
  ∀ (part : Json) (within : sizeOf part < sizeOf whole) (draft next : δ),
    P draft → member.set part within draft = .ok next → P next

section

variable {P : δ → Prop} {name : String}

theorem Member.keeps_required {read : PartReading whole α} {set : δ → α → δ}
    (keep : ∀ {part within draft found}, P draft → read part within = .ok found →
      P (set draft found)) : (required name read set).Keeps P := by
  intro part within draft next holds same
  obtain ⟨value, found, rfl⟩ := of_map_eq_ok same
  exact keep holds found

theorem Member.keeps_defaulted {read : PartReading whole α} {set : δ → α → δ}
    (keep : ∀ {part within draft found}, P draft → read part within = .ok found →
      P (set draft found)) : (defaulted name read set).Keeps P :=
  @keeps_required whole α δ P name read set keep

theorem of_nullable_eq_some {read : PartReading whole α} {part : Json}
    {within : sizeOf part < sizeOf whole} {one : α}
    (same : nullable read part within = .ok (some one)) : read part within = .ok one := by
  cases part with
  | null => cases same
  | bool | int | double | str | arr | obj =>
      obtain ⟨found, read, here⟩ := of_map_eq_ok same
      cases here
      exact read

/-- What is read as a list comes from the items of an array. -/
theorem exists_item_of_items {read : Json → Except Mismatch α} {part : Json}
    {within : sizeOf part < sizeOf whole} {found : List α}
    (same : items read part within = .ok found) :
    ∀ one ∈ found, ∃ item, read item = .ok one := by
  cases part with
  | arr values =>
      intro one inside
      obtain ⟨item, _, read⟩ := exists_item_of_mapM same one inside
      exact ⟨item, read⟩
  | null | bool | int | double | str | obj => cases same

theorem setNamed_keeps {members : List (Member whole δ)}
    (each : ∀ member ∈ members, member.Keeps P) {given : List (String × Json)}
    {within : ∀ entry ∈ given, sizeOf entry.2 < sizeOf whole} {seen : List String}
    {draft last : δ} (holds : P draft)
    (set : setNamed members given within seen draft = .ok last) : P last := by
  induction given generalizing seen draft with
  | nil =>
      cases set
      exact holds
  | cons entry given ih =>
      obtain ⟨name, value⟩ := entry
      rw [setNamed] at set
      split at set
      next => exact ih holds set
      next member found =>
          split at set
          next => cases set
          next =>
              split at set
              next => cases set
              next next same =>
                  exact ih (each member (List.mem_of_find?_eq_some found) _ _ _ _ holds same) set

theorem setPlaced_keeps {size index : Nat} {members : List (Member whole δ)}
    (each : ∀ member ∈ members, member.Keeps P) {given : List Json}
    {within : ∀ value ∈ given, sizeOf value < sizeOf whole} {draft last : δ} (holds : P draft)
    (set : setPlaced name size index members given within draft = .ok last) : P last := by
  induction members generalizing given index draft with
  | nil =>
      cases given with
      | nil =>
          cases set
          exact holds
      | cons value given => cases set
  | cons member members ih =>
      have others : ∀ other ∈ members, other.Keeps P :=
        fun other among => each other (List.mem_cons_of_mem member among)
      cases given with
      | nil =>
          rw [setPlaced] at set
          split at set
          next => exact ih others holds set
          next => cases set
      | cons value given =>
          rw [setPlaced] at set
          split at set
          next => cases set
          next next same => exact ih others (each member List.mem_cons_self _ _ _ _ holds same) set

/-- What holds of the blank record and is kept by every member holds of a record that is read. -/
theorem record_keeps {blank last : δ} {members : List (Member whole δ)}
    (each : ∀ member ∈ members, member.Keeps P) (holds : P blank)
    (read : record name blank whole members = .ok last) : P last := by
  cases whole with
  | obj given =>
      rw [record] at read
      split at read
      next => cases read
      next draft set =>
          split at read
          next => cases read
          next =>
              cases read
              exact setNamed_keeps each holds set
  | arr given => exact setPlaced_keeps each holds read
  | null | bool | int | double | str => cases read

end

/-! ## Members that change nothing -/

section

variable {less : Json} {P : δ → Prop} {name : String} {value : Json}

/-- What is found in two lists belongs together where their items do. -/
theorem find?_of_forall₂ {α β : Type} {R : α → β → Prop} {p : α → Bool} {q : β → Bool}
    (same : ∀ one other, R one other → p one = q other) {list : List α} {others : List β}
    (together : List.Forall₂ R list others) :
    (list.find? p = none ∧ others.find? q = none) ∨
    ∃ one other, list.find? p = some one ∧ others.find? q = some other ∧ R one other := by
  induction together with
  | nil => exact .inl ⟨rfl, rfl⟩
  | @cons one other list others first _ ih =>
      have both := same one other first
      cases passes : p one with
      | true =>
          have passesToo : q other = true := both.symm.trans passes
          exact .inr ⟨one, other, List.find?_cons_of_pos passes, List.find?_cons_of_pos passesToo,
            first⟩
      | false =>
          have failsToo : q other = false := both.symm.trans passes
          rw [List.find?_cons_of_neg (by simp [passes]),
            List.find?_cons_of_neg (by simp [failsToo])]
          exact ih

/-- Members that belong together have one name, and are found by it together. -/
theorem find?_name_of_forall₂ {R : Member whole δ → Member less δ → Prop}
    (sameName : ∀ {member other}, R member other → other.name = member.name)
    {members : List (Member whole δ)} {others : List (Member less δ)}
    (together : List.Forall₂ R members others) (name : String) :
    (members.find? (fun member => member.name = name) = none ∧
      others.find? (fun member => member.name = name) = none) ∨
    ∃ member other, members.find? (fun member => member.name = name) = some member ∧
      others.find? (fun member => member.name = name) = some other ∧ R member other :=
  find?_of_forall₂ (fun _ _ one => by rw [sameName one]) together

/-- A member is set alike in another whole. -/
structure Member.Alike (member : Member whole δ) (other : Member less δ) : Prop where
  name : other.name = member.name
  absence : other.absence = member.absence
  set : ∀ part within within' draft, other.set part within' draft = member.set part within draft

theorem Member.Alike.of_agrees {absence : Absence} {read : PartReading whole α}
    {other : PartReading less α} {set : δ → α → δ} (agrees : Agrees read other) :
    Member.Alike ⟨name, absence, fun part within draft => (read part within).map (set draft)⟩
      ⟨name, absence, fun part within draft => (other part within).map (set draft)⟩ where
  name := rfl
  absence := rfl
  set := fun part within within' draft =>
    congrArg (Except.map (set draft)) (agrees part within within').symm

/-- A value for a member tells nothing: the member need not come, no other member sets what it sets,
and it sets what is there until it comes. -/
structure Member.Idle (P : δ → Prop) (name : String) (value : Json) (member : Member whole δ) :
    Prop where
  free : member.name = name → member.absence ≠ .refused
  idle : member.name = name → ∀ within draft, P draft → member.set value within draft = .ok draft
  keeps : member.name ≠ name → member.Keeps P

theorem Member.Idle.here {absence : Absence} {read : PartReading whole α} {set : δ → α → δ}
    {found : α} (free : absence ≠ .refused) (reads : ∀ within, read value within = .ok found)
    (idle : ∀ draft, P draft → set draft found = draft) :
    Member.Idle P name value
      ⟨name, absence, fun part within draft => (read part within).map (set draft)⟩ where
  free := fun _ => free
  idle := fun _ within draft holds =>
    (congrArg (Except.map (set draft)) (reads within)).trans (congrArg Except.ok (idle draft holds))
  keeps := fun apart => absurd rfl apart

theorem Member.Idle.apart {absence : Absence} {read : PartReading whole α} {set : δ → α → δ}
    {other : String} (apart : other ≠ name) (keep : ∀ draft found, P draft → P (set draft found)) :
    Member.Idle P name value
      ⟨other, absence, fun part within draft => (read part within).map (set draft)⟩ where
  free := fun same => absurd same apart
  idle := fun same => absurd same apart
  keeps := fun _ =>
    @Member.keeps_required whole α δ P other read set fun holds _ => keep _ _ holds

/-- Members that are set alike go on alike where what comes after the first one does. -/
theorem setNamed_cons_alike {members : List (Member whole δ)} {others : List (Member less δ)}
    (alike : List.Forall₂ Member.Alike members others) {given rest : List (String × Json)}
    {within : ∀ entry ∈ (name, value) :: given, sizeOf entry.2 < sizeOf whole}
    {within' : ∀ entry ∈ (name, value) :: rest, sizeOf entry.2 < sizeOf less}
    {seen fewer : List String} {draft : δ} (sameSeen : name ∈ seen ↔ name ∈ fewer)
    (skips : ∀ within within',
      setNamed members given within seen draft = setNamed others rest within' fewer draft)
    (sets : ∀ member ∈ members, member.name = name → ∀ known next,
      member.set value known draft = .ok next → ∀ within within',
        setNamed members given within (name :: seen) next =
          setNamed others rest within' (name :: fewer) next) :
    setNamed members ((name, value) :: given) within seen draft =
      setNamed others ((name, value) :: rest) within' fewer draft := by
  rw [setNamed, setNamed]
  rcases find?_name_of_forall₂ Member.Alike.name alike name with
    ⟨unknown, unknownToo⟩ | ⟨member, other, found, foundToo, one⟩
  · rw [unknown, unknownToo]
    exact skips _ _
  · have named : member.name = name := by simpa using List.find?_some found
    have inside := List.mem_of_find?_eq_some found
    rw [found, foundToo]
    dsimp only
    rw [one.set value (within (name, value) List.mem_cons_self)]
    simp only [sameSeen]
    cases same : member.set value (within (name, value) List.mem_cons_self) draft with
    | error mismatch => rfl
    | ok next =>
        dsimp only
        rw [sets member inside named _ next same]

/-- What is given is set alike in another whole, by induction on it.  Members that have been seen
matter only as far as they come again. -/
theorem setNamed_alike {members : List (Member whole δ)} {others : List (Member less δ)}
    (alike : List.Forall₂ Member.Alike members others) {given : List (String × Json)}
    {within : ∀ entry ∈ given, sizeOf entry.2 < sizeOf whole}
    {within' : ∀ entry ∈ given, sizeOf entry.2 < sizeOf less} {seen fewer : List String}
    (sameSeen : ∀ entry ∈ given, entry.1 ∈ seen ↔ entry.1 ∈ fewer) {draft : δ} :
    setNamed members given within seen draft = setNamed others given within' fewer draft := by
  induction given generalizing seen fewer draft with
  | nil => rfl
  | cons entry given ih =>
      obtain ⟨here, later⟩ := List.forall_mem_cons.1 sameSeen
      refine setNamed_cons_alike alike here (fun _ _ => ih later) fun _ _ _ _ _ _ _ _ => ih ?_
      intro other inside
      rw [List.mem_cons, List.mem_cons, later other inside]

/-- A member that tells nothing may be left out, by induction on what comes before it. -/
theorem setNamed_leave {members : List (Member whole δ)} {others : List (Member less δ)}
    (alike : List.Forall₂ Member.Alike members others)
    (each : ∀ member ∈ members, member.Idle P name value) {before after : List (String × Json)}
    (notBefore : name ∉ before.map Prod.fst) (notAfter : name ∉ after.map Prod.fst)
    {within : ∀ entry ∈ before ++ (name, value) :: after, sizeOf entry.2 < sizeOf whole}
    {within' : ∀ entry ∈ before ++ after, sizeOf entry.2 < sizeOf less} {seen : List String}
    (unseen : name ∉ seen) {draft : δ} (holds : P draft) :
    setNamed members (before ++ (name, value) :: after) within seen draft =
      setNamed others (before ++ after) within' seen draft := by
  induction before generalizing seen draft with
  | nil =>
      change setNamed members ((name, value) :: after) within seen draft =
        setNamed others after _ seen draft
      rw [setNamed]
      cases found : members.find? fun member => member.name = name with
      | none => exact setNamed_alike alike fun _ _ => .rfl
      | some member =>
          have named : member.name = name := by simpa using List.find?_some found
          dsimp only
          rw [if_neg unseen,
            (each member (List.mem_of_find?_eq_some found)).idle named _ draft holds]
          refine setNamed_alike alike fun entry inside => ?_
          have other : entry.1 ≠ name := fun same =>
            notAfter (List.mem_map.2 ⟨entry, inside, same⟩)
          rw [List.mem_cons, or_iff_right other]
  | cons entry before ih =>
      rw [List.map_cons, List.mem_cons, not_or] at notBefore
      obtain ⟨other, notBefore⟩ := notBefore
      refine setNamed_cons_alike alike .rfl (fun _ _ => ih notBefore unseen holds)
        fun member inside named known next same _ _ => ih notBefore ?_ ?_
      · exact fun again => (List.mem_cons.1 again).elim other unseen
      · exact (each member inside).keeps (fun again => other (again.symm.trans named)) _ known _ _
          holds same

/-- A member that tells nothing may be left out of an object. -/
theorem record_leave {record : String} {blank : δ} {before after : List (String × Json)}
    {members : List (Member (obj (before ++ (name, value) :: after)) δ)}
    {others : List (Member (obj (before ++ after)) δ)}
    (alike : List.Forall₂ Member.Alike members others)
    (each : ∀ member ∈ members, member.Idle P name value) (holds : P blank)
    (notBefore : name ∉ before.map Prod.fst) (notAfter : name ∉ after.map Prod.fst) :
    Json.record record blank (obj (before ++ (name, value) :: after)) members =
      Json.record record blank (obj (before ++ after)) others := by
  -- A member that has to come is absent from both objects or from none: it is not the one left out.
  have absent : ∀ (member : Member (obj (before ++ (name, value) :: after)) δ)
      (other : Member (obj (before ++ after)) δ), member.Idle P name value ∧ member.Alike other →
        (member.absence = .refused && !(before ++ (name, value) :: after).any
          fun entry => entry.1 = member.name) =
        (other.absence = .refused && !(before ++ after).any fun entry => entry.1 = other.name) := by
    rintro member other ⟨idle, one⟩
    rw [one.name, one.absence]
    by_cases named : member.name = name
    · simp [idle.free named]
    · simp [Ne.symm named]
  have sets : setNamed members (before ++ (name, value) :: after)
      (fun _ inside => sizeOf_snd_lt_of_mem inside) [] blank =
        setNamed others (before ++ after) (fun _ inside => sizeOf_snd_lt_of_mem inside) [] blank :=
    setNamed_leave alike each notBefore notAfter List.not_mem_nil holds
  rw [Json.record, Json.record, sets]
  rcases find?_of_forall₂ absent ((List.forall₂_and_left _ _).2 ⟨each, alike⟩) with
    ⟨complete, completeToo⟩ | ⟨member, other, missing, missingToo, _, one⟩
  · rw [complete, completeToo]
  · rw [missing, missingToo]
    dsimp only
    rw [one.name]

end

end Json

end Subgraph
