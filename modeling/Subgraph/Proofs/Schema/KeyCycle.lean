import Mathlib.Data.List.Perm.Subperm
import Mathlib.Logic.Relation
import Subgraph.Proofs.Schema.KeyChain

/-!
# Searches in cycles

Types may refer to each other in a cycle.  A search for a key enters no type again
that it has come through, so it ends.  Nothing else changes.

* `Key.walk` takes the steps of a search one by one, with that guard or without
  it, and tells what it did.  It goes only so many types deep.
* `Key.walk_chain` says that with the guard as many types as the schema has
  objects are deep enough, and that the walk visits the types of the chain.
* `Key.diverges_of_turnedAway` says that the guard turns a field away only where
  the walk without it never ends, and `Key.walk_unguarded` that otherwise both
  walks are the same.
* `Key.walk_guarded` puts this together for every object type of a schema.
-/

namespace Subgraph

namespace Key

/-! ## Walks -/

/-- What a search finds, and what it does on the way. -/
structure Walk where
  /-- The path, if there is one. -/
  path : Option (List Name) := none
  /-- The types with a field that it comes to, each time that it comes there. -/
  visited : List Name := []
  /-- The fields whose type it does not enter, since it has come through it. -/
  turnedAway : List Name := []

/-- A walk that found nothing, and then another one. -/
def Walk.andThen (first second : Walk) : Walk where
  path := second.path
  visited := first.visited ++ second.visited
  turnedAway := first.turnedAway ++ second.turnedAway

/-- A walk in the type of a field, seen from the field. -/
def Walk.through (field : Name) (inner : Walk) : Walk :=
  { inner with path := inner.path.map (field :: ·) }

/-- A walk among the fields of a type.  If it found nothing, the first field counts. -/
def Walk.within (type first : Name) (inner : Walk) : Walk :=
  { inner with path := some (inner.path.getD [first]), visited := type :: inner.visited }

/-- Looks at fields one after the other, until one has a path. -/
def among (look : FieldDefinition → Option Walk) : List FieldDefinition → Option Walk
  | [] => some {}
  | field :: rest =>
      (look field).bind fun here =>
        if here.path.isSome then some here else (among look rest).map here.andThen

/-- Looks at a field.  With the guard, no type is entered that has been entered before. -/
def look (guarded : Bool) (schema : Schema) (entered : List Name)
    (enter : TypeDefinition → Option Walk) (field : FieldDefinition) : Option Walk :=
  if field.type.isList then some {}
  else
    match schema.find? field.type.innermost with
    | none => some {}
    | some next =>
        match next.body with
        | .scalar => some { path := some [field.name] }
        | .object _ _ =>
            if guarded ∧ next.name ∈ entered then some { turnedAway := [field.name] }
            else (enter next).map (Walk.through field.name)
        | _ => some {}

/-- The walk of a search from a type, none if it is more than some types deep. -/
def walk (guarded : Bool) (schema : Schema) :
    (depth : Nat) → (entered : List Name) → TypeDefinition → Option Walk
  | 0, _, _ => none
  | depth + 1, entered, type =>
      match type.objectFields?.getD [] with
      | [] => some {}
      | first :: rest =>
          match idField? (first :: rest) with
          | some field => some { path := some [field.name], visited := [type.name] }
          | none =>
              let entered := entered ++ [type.name]
              let enter next := walk guarded schema depth entered next
              (among (look guarded schema entered enter) (first :: rest)).map
                (Walk.within type.name first.name)

/-! ## Walks among fields -/

section

variable {see see' : FieldDefinition → Option Walk} {fields earlier rest : List FieldDefinition}
  {whole : Walk}

/-- Fields without anything in them are skipped. -/
theorem among_of_skip (nothing : ∀ field ∈ earlier, ∀ here, see field = some here → here = {})
    (ran : among see (earlier ++ rest) = some whole) : among see rest = some whole := by
  induction earlier with
  | nil => exact ran
  | cons field earlier ih =>
      rw [List.cons_append, among, Option.bind_eq_some_iff] at ran
      obtain ⟨here, seen, ran⟩ := ran
      cases nothing field List.mem_cons_self here seen
      refine ih (fun other member => nothing other (List.mem_cons_of_mem _ member)) ?_
      simpa [Walk.andThen] using ran

/-- Fields without a path do not change what is found behind them. -/
theorem exists_among_of_pass
    (passes : ∀ field ∈ earlier, ∃ here, see field = some here ∧ here.path = none ∧
      here.visited = [])
    (ran : among see rest = some whole) :
    ∃ longer, among see (earlier ++ rest) = some longer ∧ longer.path = whole.path ∧
      longer.visited = whole.visited := by
  induction earlier with
  | nil => exact ⟨whole, ran, rfl, rfl⟩
  | cons field earlier ih =>
      obtain ⟨here, seen, noPath, noVisit⟩ := passes field List.mem_cons_self
      obtain ⟨longer, ran, samePath, sameVisits⟩ :=
        ih fun other member => passes other (List.mem_cons_of_mem _ member)
      refine ⟨here.andThen longer, ?_, samePath, ?_⟩
      · rw [List.cons_append, among, seen, Option.bind_some, noPath, ran]
        rfl
      · rw [Walk.andThen, noVisit, List.nil_append, sameVisits]

/-- Two ways of looking that see the same in every field lead to the same walk. -/
theorem among_congr (ran : among see fields = some whole)
    (same : ∀ field ∈ fields, ∀ here, see field = some here →
      here.turnedAway ⊆ whole.turnedAway → see' field = some here) :
    among see' fields = some whole := by
  induction fields generalizing whole with
  | nil => exact ran
  | cons field fields ih =>
      rw [among, Option.bind_eq_some_iff] at ran ⊢
      obtain ⟨here, seen, goesOn⟩ := ran
      by_cases isPath : here.path.isSome = true
      · rw [if_pos isPath, Option.some.injEq] at goesOn
        subst goesOn
        exact ⟨here, same field List.mem_cons_self here seen (List.Subset.refl _), if_pos isPath⟩
      · rw [if_neg isPath] at goesOn
        obtain ⟨later, ranLater, rfl⟩ := Option.map_eq_some_iff.1 goesOn
        have before : here.turnedAway ⊆ (here.andThen later).turnedAway :=
          List.subset_append_left _ _
        have behind : later.turnedAway ⊆ (here.andThen later).turnedAway :=
          List.subset_append_right _ _
        refine ⟨here, same field List.mem_cons_self here seen before, ?_⟩
        rw [if_neg isPath, ih ranLater fun other member there found within =>
          same other (List.mem_cons_of_mem _ member) there found (List.Subset.trans within behind)]
        rfl

/-- What is turned away among fields is turned away at one of them. -/
theorem exists_of_mem_turnedAway {name : Name} (ran : among see fields = some whole)
    (turned : name ∈ whole.turnedAway) :
    ∃ field ∈ fields, ∃ here, see field = some here ∧ name ∈ here.turnedAway := by
  induction fields generalizing whole with
  | nil => cases ran; cases turned
  | cons field fields ih =>
      rw [among, Option.bind_eq_some_iff] at ran
      obtain ⟨here, seen, goesOn⟩ := ran
      by_cases turnedHere : name ∈ here.turnedAway
      · exact ⟨field, List.mem_cons_self, here, seen, turnedHere⟩
      · split at goesOn
        · cases goesOn
          exact absurd turned turnedHere
        · obtain ⟨later, ranLater, rfl⟩ := Option.map_eq_some_iff.1 goesOn
          have turnedLater := (List.mem_append.1 turned).resolve_left turnedHere
          obtain ⟨other, member, found⟩ := ih ranLater turnedLater
          exact ⟨other, List.mem_cons_of_mem _ member, found⟩

end

/-! ## Looking at a field -/

/-- A field, not a list, of an object type. -/
structure IsObjectField (schema : Schema) (field : FieldDefinition) (next : TypeDefinition) :
    Prop where
  notList : field.type.isList = false
  found : schema.find? field.type.innermost = some next
  object : ∃ fields, next.objectFields? = some fields

section

variable {guarded : Bool} {schema : Schema} {entered : List Name}
  {enter : TypeDefinition → Option Walk} {field : FieldDefinition} {next : TypeDefinition}

theorem Enters.isObjectField (enters : Enters schema entered field next) :
    IsObjectField schema field next := by
  obtain ⟨first, rest, object⟩ := enters.objectFields?
  exact ⟨enters.notList, enters.found, _, object⟩

theorem IsObjectField.enters (isObject : IsObjectField schema field next)
    (hasField : next.objectFields? ≠ some []) (unentered : next.name ∉ entered) :
    Enters schema entered field next := by
  refine ⟨isObject.notList, isObject.found, ?_, unentered⟩
  obtain ⟨fields, object⟩ := isObject.object
  cases fields with
  | nil => exact absurd object hasField
  | cons first rest =>
      unfold TypeDefinition.objectFields? at object
      split at object
      next interfaces fields body => cases object; exact ⟨interfaces, first, rest, body⟩
      next => cases object

theorem look_of_isScalarField (isScalar : IsScalarField schema field) :
    look guarded schema entered enter field = some { path := some [field.name] } := by
  obtain ⟨notList, type, found, scalar⟩ := isScalar
  simp [look, notList, found, scalar]

theorem look_of_isObjectField (isObject : IsObjectField schema field next) :
    look guarded schema entered enter field =
      if guarded ∧ next.name ∈ entered then some { turnedAway := [field.name] }
      else (enter next).map (Walk.through field.name) := by
  obtain ⟨notList, found, fields, object⟩ := isObject
  unfold TypeDefinition.objectFields? at object
  split at object
  next body => simp [look, notList, found, body]
  next => cases object

/-- There is nothing to see in any other field. -/
theorem look_of_neither (noScalar : ¬ IsScalarField schema field)
    (noObject : ∀ next, ¬ IsObjectField schema field next) :
    look guarded schema entered enter field = some {} := by
  unfold look
  split
  · rfl
  next sees =>
    have notList : field.type.isList = false := by simpa using sees
    split
    · rfl
    next next found =>
      split
      next scalar => exact absurd ⟨notList, next, found, scalar⟩ noScalar
      next interfaces fields body =>
        exact absurd ⟨notList, found, fields, by rw [TypeDefinition.objectFields?, body]⟩
          (noObject next)
      · rfl

theorem look_cases (schema : Schema) (field : FieldDefinition) :
    IsScalarField schema field ∨ (∃ next, IsObjectField schema field next) ∨
      (¬ IsScalarField schema field ∧ ∀ next, ¬ IsObjectField schema field next) := by
  by_cases isScalar : IsScalarField schema field
  · exact .inl isScalar
  · by_cases isObject : ∃ next, IsObjectField schema field next
    · exact .inr (.inl isObject)
    · exact .inr (.inr ⟨isScalar, fun next object => isObject ⟨next, object⟩⟩)

variable {here : Walk}

/-- Without the guard, nothing is turned away at a field but what is turned away in its type. -/
theorem turnedAway_of_look (seen : look false schema entered enter field = some here)
    (free : ∀ next inner, enter next = some inner → inner.turnedAway = []) :
    here.turnedAway = [] := by
  rcases look_cases schema field with isScalar | ⟨next, isObject⟩ | ⟨noScalar, noObject⟩
  · rw [look_of_isScalarField isScalar] at seen
    cases seen
    rfl
  · rw [look_of_isObjectField isObject, if_neg (by simp)] at seen
    obtain ⟨inner, ran, rfl⟩ := Option.map_eq_some_iff.1 seen
    exact free next inner ran
  · rw [look_of_neither noScalar noObject] at seen
    cases seen
    rfl

/-- Where nothing is turned away at a field, the same is seen without the guard. -/
theorem look_unguarded {entered' : List Name} {enter' : TypeDefinition → Option Walk}
    (seen : look guarded schema entered enter field = some here) (free : here.turnedAway = [])
    (same : ∀ next inner, enter next = some inner → inner.turnedAway = [] →
      enter' next = some inner) :
    look false schema entered' enter' field = some here := by
  rcases look_cases schema field with isScalar | ⟨next, isObject⟩ | ⟨noScalar, noObject⟩
  · rw [look_of_isScalarField isScalar] at seen ⊢
    exact seen
  · rw [look_of_isObjectField isObject] at seen ⊢
    split at seen
    next => cases seen; cases free
    next =>
      obtain ⟨inner, ran, rfl⟩ := Option.map_eq_some_iff.1 seen
      rw [if_neg (by simp), same next inner ran free]
      rfl
  · rw [look_of_neither noScalar noObject] at seen ⊢
    exact seen

end

/-! ## Walking from a type -/

section

variable {guarded : Bool} {schema : Schema} {depth : Nat} {entered : List Name}
  {type next : TypeDefinition} {field : FieldDefinition} {fields : List FieldDefinition}
  {whole : Walk}

/-- How a walk looks at the fields of a type. -/
def lookFrom (guarded : Bool) (schema : Schema) (depth : Nat) (entered : List Name) :
    FieldDefinition → Option Walk :=
  look guarded schema entered fun next => walk guarded schema depth entered next

theorem walk_of_nil (isObject : type.objectFields? = some []) :
    walk guarded schema (depth + 1) entered type = some {} := by
  rw [walk, isObject]
  rfl

theorem walk_of_id (isObject : type.objectFields? = some fields)
    (found : idField? fields = some field) :
    walk guarded schema (depth + 1) entered type =
      some { path := some [field.name], visited := [type.name] } := by
  cases fields with
  | nil => cases found
  | cons first rest =>
      rw [walk, isObject]
      simp only [Option.getD_some, found]

theorem walk_of_lacksId (isObject : type.objectFields? = some fields) (hasField : fields ≠ [])
    (lacks : LacksId fields) :
    walk guarded schema (depth + 1) entered type =
      (among (lookFrom guarded schema depth (entered ++ [type.name])) fields).map
        (Walk.within type.name (fields.head hasField).name) := by
  cases fields with
  | nil => exact absurd rfl hasField
  | cons first rest =>
      rw [walk, isObject]
      simp only [Option.getD_some, lacksId_iff.1 lacks]
      rfl

/-- From a type with a field, a walk has a path. -/
theorem path_isSome_of_walk (isObject : type.objectFields? = some fields) (hasField : fields ≠ [])
    (ran : walk guarded schema depth entered type = some whole) : whole.path.isSome = true := by
  cases depth with
  | zero => cases ran
  | succ depth =>
      cases found : idField? fields with
      | some field =>
          rw [walk_of_id isObject found] at ran
          cases ran
          rfl
      | none =>
          rw [walk_of_lacksId isObject hasField (lacksId_iff.2 found)] at ran
          obtain ⟨inner, -, rfl⟩ := Option.map_eq_some_iff.1 ran
          rfl

/-! ## Walks with the guard -/

/-- The object types of a schema without a field. -/
def bare (schema : Schema) : List TypeDefinition :=
  schema.types.filter fun type => type.objectFields?.any List.isEmpty

theorem mem_bare_iff : type ∈ bare schema ↔ type ∈ schema.types ∧ type.objectFields? = some [] := by
  rw [bare, List.mem_filter]
  cases type.objectFields? with
  | none => simp
  | some fields => simp

/-- A walk with the guard visits nothing through the fields that a chain passes. -/
theorem look_of_passed (deep : (bare schema).length ≤ depth)
    (passed : Passed schema entered fields) :
    ∀ field ∈ fields, ∃ here, lookFrom true schema depth entered field = some here ∧
      here.path = none ∧ here.visited = [] := by
  intro field member
  obtain ⟨noScalar, noEntry⟩ := passed field member
  rcases look_cases schema field with isScalar | ⟨next, isObject⟩ | ⟨-, noObject⟩
  · exact absurd isScalar noScalar
  · rw [lookFrom, look_of_isObjectField isObject]
    by_cases isEntered : next.name ∈ entered
    · rw [if_pos ⟨rfl, isEntered⟩]
      exact ⟨_, rfl, rfl, rfl⟩
    · have noField : next.objectFields? = some [] := by
        by_contra hasField
        exact noEntry next (isObject.enters hasField isEntered)
      have isType := List.mem_of_find?_eq_some isObject.found
      have positive := List.length_pos_of_mem (mem_bare_iff.2 ⟨isType, noField⟩)
      obtain ⟨depth, rfl⟩ := Nat.exists_eq_add_one_of_ne_zero (by omega : depth ≠ 0)
      rw [if_neg fun turned => isEntered turned.2, walk_of_nil noField]
      exact ⟨_, rfl, rfl, rfl⟩
  · exact ⟨{}, look_of_neither noScalar noObject, rfl, rfl⟩

/-- A walk with the guard finds what there is behind the fields that a chain passes. -/
theorem walk_of_passed {earlier later : List FieldDefinition} {inner : Walk}
    (isObject : type.objectFields? = some (earlier ++ later)) (hasField : earlier ++ later ≠ [])
    (lacks : LacksId (earlier ++ later)) (deep : (bare schema).length ≤ depth)
    (passed : Passed schema (entered ++ [type.name]) earlier)
    (ran : among (lookFrom true schema depth (entered ++ [type.name])) later = some inner) :
    ∃ whole, walk true schema (depth + 1) entered type = some whole ∧
      whole.path = some (inner.path.getD [((earlier ++ later).head hasField).name]) ∧
      whole.visited = type.name :: inner.visited := by
  obtain ⟨longer, ranLonger, path, visited⟩ := exists_among_of_pass (look_of_passed deep passed) ran
  refine ⟨_, by rw [walk_of_lacksId isObject hasField lacks, ranLonger]; rfl, ?_, ?_⟩
  · rw [Walk.within, path]
  · rw [Walk.within, visited]

/-- With the guard, a walk that may go deep enough goes along the chain, and visits its types. -/
theorem walk_chain {steps : List Step} (chain : Chain schema entered type steps)
    (deep : steps.length + (bare schema).length ≤ depth) :
    ∃ whole, walk true schema depth entered type = some whole ∧
      whole.path = some (steps.map (·.field.name)) ∧
      whole.visited = steps.map (·.type.name) := by
  -- The induction is on the chain; every step of it takes one off the depth.
  induction chain generalizing depth with
  | @id entered type earlier field later isObject lacks isId =>
      obtain ⟨depth, rfl⟩ := Nat.exists_eq_add_one_of_ne_zero (by grind : depth ≠ 0)
      have found : idField? (earlier ++ field :: later) = some field :=
        List.find?_eq_some_iff_append.2 ⟨by simpa using isId, earlier, later, rfl,
          fun other member => by simpa using lacks other member⟩
      exact ⟨_, walk_of_id isObject found, rfl, rfl⟩
  | @scalar entered type earlier field later isObject lacks passed isScalar =>
      obtain ⟨depth, rfl⟩ := Nat.exists_eq_add_one_of_ne_zero (by grind : depth ≠ 0)
      have ends : among (lookFrom true schema depth (entered ++ [type.name])) (field :: later) =
          some { path := some [field.name] } := by
        rw [among, lookFrom, look_of_isScalarField isScalar]
        rfl
      exact walk_of_passed isObject (by simp) lacks (by grind) passed ends
  | @object entered type earlier field later next rest isObject lacks passed enters _ ih =>
      obtain ⟨depth, rfl⟩ := Nat.exists_eq_add_one_of_ne_zero (by grind : depth ≠ 0)
      obtain ⟨deeper, ran, path, visited⟩ := @ih depth (by grind)
      have goesOn : among (lookFrom true schema depth (entered ++ [type.name])) (field :: later) =
          some (deeper.through field.name) := by
        rw [among, lookFrom, look_of_isObjectField enters.isObjectField,
          if_neg fun turned => enters.unentered turned.2, ran, Option.map_some,
          Option.bind_some, if_pos (by rw [Walk.through, path]; rfl)]
      obtain ⟨whole, ranWhole, wholePath, wholeVisited⟩ :=
        walk_of_passed isObject (by simp) lacks (by grind) passed goesOn
      refine ⟨whole, ranWhole, ?_, ?_⟩
      · rw [wholePath, Walk.through, path]
        rfl
      · rw [wholeVisited, Walk.through, visited]
        rfl
  | @first entered type field later isObject lacks passed =>
      obtain ⟨depth, rfl⟩ := Nat.exists_eq_add_one_of_ne_zero (by grind : depth ≠ 0)
      have deepEnough : (bare schema).length ≤ depth := by grind
      rw [← List.append_nil (field :: later)] at isObject lacks
      exact walk_of_passed isObject (by simp) lacks deepEnough passed rfl

/-! ## Walks without the guard -/

/-- A walk without the guard turns nothing away. -/
theorem turnedAway_of_unguarded (ran : walk false schema depth entered type = some whole) :
    whole.turnedAway = [] := by
  induction depth generalizing entered type whole with
  | zero => cases ran
  | succ depth ih =>
      rw [walk] at ran
      split at ran
      next => cases ran; rfl
      next first rest _ =>
        split at ran
        next => cases ran; rfl
        next =>
          obtain ⟨inner, ranInner, rfl⟩ := Option.map_eq_some_iff.1 ran
          refine List.eq_nil_iff_forall_not_mem.2 fun name turned => ?_
          obtain ⟨field, -, here, seen, turnedHere⟩ := exists_of_mem_turnedAway ranInner turned
          rw [turnedAway_of_look seen fun next inner => ih] at turnedHere
          cases turnedHere

/-- A walk that turns nothing away is the same without the guard, and if it may go deeper. -/
theorem walk_unguarded {depth' : Nat} {entered' : List Name}
    (ran : walk guarded schema depth entered type = some whole) (free : whole.turnedAway = [])
    (deeper : depth ≤ depth') : walk false schema depth' entered' type = some whole := by
  induction depth generalizing entered type whole depth' entered' with
  | zero => cases ran
  | succ depth ih =>
      obtain ⟨depth', rfl⟩ := Nat.exists_eq_add_one_of_ne_zero (by omega : depth' ≠ 0)
      rw [walk] at ran ⊢
      split at ran
      next => exact ran
      next first rest _ =>
        split at ran
        next => exact ran
        next =>
          obtain ⟨inner, ranInner, rfl⟩ := Option.map_eq_some_iff.1 ran
          refine Option.map_eq_some_iff.2 ⟨inner, among_congr ranInner ?_, rfl⟩
          intro field _ here seen within
          exact look_unguarded seen (List.subset_nil.1 (free ▸ within)) fun next inner ran free =>
            ih ran free (by omega)

/-- Without the guard, the search in a type goes on in another type. -/
def GoesOn (schema : Schema) (type next : TypeDefinition) : Prop :=
  ∃ earlier field later, type.objectFields? = some (earlier ++ field :: later) ∧
    LacksId (earlier ++ field :: later) ∧ Passed schema [] earlier ∧ Enters schema [] field next

/-- No object type without a field is among some that have been entered. -/
def HaveFields (schema : Schema) (entered : List Name) : Prop :=
  ∀ next ∈ schema.types, next.objectFields? = some [] → next.name ∉ entered

/-- A walk sees nothing in the fields that are passed before any type has been entered. -/
theorem look_of_passed_nil (passed : Passed schema [] fields)
    (haveFields : guarded = true → HaveFields schema entered) :
    ∀ field ∈ fields, ∀ here, lookFrom guarded schema depth entered field = some here →
      here = {} := by
  intro field member here seen
  obtain ⟨noScalar, noEntry⟩ := passed field member
  rcases look_cases schema field with isScalar | ⟨next, isObject⟩ | ⟨-, noObject⟩
  · exact absurd isScalar noScalar
  · have noField : next.objectFields? = some [] := by
      by_contra hasField
      exact noEntry next (isObject.enters hasField List.not_mem_nil)
    have isType := List.mem_of_find?_eq_some isObject.found
    rw [lookFrom, look_of_isObjectField isObject,
      if_neg fun turned => haveFields turned.1 next isType noField turned.2] at seen
    cases depth with
    | zero => cases seen
    | succ depth =>
        rw [walk_of_nil noField] at seen
        cases seen
        rfl
  · rw [lookFrom, look_of_neither noScalar noObject] at seen
    cases seen
    rfl

/-- If the search goes on in another type and ends, the one in that type ends. -/
theorem exists_walk_of_goesOn (goesOn : GoesOn schema type next)
    (ran : walk false schema (depth + 1) entered type = some whole) :
    ∃ entered' inner, walk false schema depth entered' next = some inner := by
  obtain ⟨earlier, field, later, isObject, lacks, passed, enters⟩ := goesOn
  rw [walk_of_lacksId isObject (by simp) lacks] at ran
  obtain ⟨inner, ranInner, -⟩ := Option.map_eq_some_iff.1 ran
  have ranLater := among_of_skip (look_of_passed_nil passed (by simp)) ranInner
  rw [among, Option.bind_eq_some_iff] at ranLater
  obtain ⟨here, seen, -⟩ := ranLater
  rw [lookFrom, look_of_isObjectField enters.isObjectField, if_neg (by simp)] at seen
  obtain ⟨deeper, ranDeeper, -⟩ := Option.map_eq_some_iff.1 seen
  exact ⟨_, deeper, ranDeeper⟩

theorem exists_walk_of_transGen (leads : Relation.TransGen (GoesOn schema) type next)
    (ran : walk false schema depth entered type = some whole) :
    ∃ depth' < depth, ∃ entered' inner, walk false schema depth' entered' next = some inner := by
  induction leads with
  | single goesOn =>
      cases depth with
      | zero => cases ran
      | succ depth => exact ⟨depth, Nat.lt_succ_self _, exists_walk_of_goesOn goesOn ran⟩
  | tail _ goesOn ih =>
      obtain ⟨depth', less, entered', inner, ranInner⟩ := ih
      cases depth' with
      | zero => cases ranInner
      | succ depth' => exact ⟨depth', by omega, exists_walk_of_goesOn goesOn ranInner⟩

/-- In a cycle the search without the guard does not end, however deep it may go. -/
theorem diverges_of_cycle (cycle : Relation.TransGen (GoesOn schema) type type) (depth : Nat)
    (entered : List Name) : walk false schema depth entered type = none := by
  induction depth using Nat.strongRecOn generalizing entered with
  | ind depth ih =>
      by_contra ends
      obtain ⟨whole, ran⟩ := Option.ne_none_iff_exists'.1 ends
      obtain ⟨depth', less, entered', inner, ranInner⟩ := exists_walk_of_transGen cycle ran
      rw [ih depth' less entered'] at ranInner
      cases ranInner

/-- Some fields are passed before any type has been entered, or one of them is the first that leads
to a goal. -/
theorem passed_or_goal (schema : Schema) (fields : List FieldDefinition) :
    Passed schema [] fields ∨ ∃ earlier field later goal, fields = earlier ++ field :: later ∧
      Passed schema [] earlier ∧ goal? schema [] field = some goal := by
  cases leads : fields.findSome? (goal? schema []) with
  | none => exact .inl (passed_iff.2 (List.findSome?_eq_none_iff.1 leads))
  | some goal =>
      obtain ⟨earlier, field, later, rfl, here, before⟩ := List.findSome?_eq_some_iff.1 leads
      exact .inr ⟨earlier, field, later, goal, rfl, passed_iff.2 before, here⟩

/-- Types that the search without the guard has come through. -/
def CameThrough (schema : Schema) (entered : List Name) (type : TypeDefinition) : Prop :=
  ∀ name ∈ entered, ∃ before, schema.find? name = some before ∧
    Relation.TransGen (GoesOn schema) before type

theorem GoesOn.hasField (goesOn : GoesOn schema type next) : type.objectFields? ≠ some [] := by
  obtain ⟨earlier, field, later, isObject, -⟩ := goesOn
  rw [isObject]
  simp

theorem CameThrough.goesOn (came : CameThrough schema entered type)
    (found : schema.find? type.name = some type) (goesOn : GoesOn schema type next) :
    CameThrough schema (entered ++ [type.name]) next := by
  intro name member
  rcases List.mem_append.1 member with before | here
  · obtain ⟨other, foundOther, leads⟩ := came name before
    exact ⟨other, foundOther, leads.tail goesOn⟩
  · cases List.mem_singleton.1 here
    exact ⟨type, found, .single goesOn⟩

theorem CameThrough.haveFields (came : CameThrough schema entered type)
    (found : schema.find? type.name = some type) (hasField : type.objectFields? ≠ some []) :
    HaveFields schema (entered ++ [type.name]) := by
  intro next member noField isEntered
  have foundNext := Schema.find?_of_mem member
  rcases List.mem_append.1 isEntered with before | here
  · obtain ⟨other, foundOther, leads⟩ := came next.name before
    cases foundNext.symm.trans foundOther
    obtain ⟨_, goesOn, -⟩ := Relation.TransGen.head'_iff.1 leads
    exact goesOn.hasField noField
  · rw [List.mem_singleton.1 here, found] at foundNext
    cases foundNext
    exact hasField noField

/-- Where the search comes back to a type, there is a cycle. -/
theorem CameThrough.cycle (came : CameThrough schema entered type) (member : type ∈ schema.types)
    (isEntered : type.name ∈ entered) : Relation.TransGen (GoesOn schema) type type := by
  obtain ⟨before, found, leads⟩ := came type.name isEntered
  cases (Schema.find?_of_mem member).symm.trans found
  exact leads

theorem diverges_of_goesOn (goesOn : GoesOn schema type next)
    (diverges : ∀ depth entered, walk false schema depth entered next = none) (depth : Nat)
    (entered : List Name) : walk false schema depth entered type = none := by
  by_contra ends
  obtain ⟨whole, ran⟩ := Option.ne_none_iff_exists'.1 ends
  cases depth with
  | zero => cases ran
  | succ depth =>
      obtain ⟨entered', inner, ranInner⟩ := exists_walk_of_goesOn goesOn ran
      rw [diverges depth entered'] at ranInner
      cases ranInner

/-- Where the guard turns a field away, a walk looks among fields. -/
theorem among_of_turnedAway (ran : walk guarded schema (depth + 1) entered type = some whole)
    (turned : whole.turnedAway ≠ []) :
    ∃ fields, type.objectFields? = some fields ∧ fields ≠ [] ∧ LacksId fields ∧
      ∃ inner, among (lookFrom guarded schema depth (entered ++ [type.name])) fields = some inner ∧
        inner.turnedAway ≠ [] := by
  rw [walk] at ran
  split at ran
  next =>
      cases ran
      exact absurd rfl turned
  next first rest declared =>
    split at ran
    next =>
      cases ran
      exact absurd rfl turned
    next lacks =>
      obtain ⟨inner, ranInner, rfl⟩ := Option.map_eq_some_iff.1 ran
      refine ⟨first :: rest, ?_, List.cons_ne_nil _ _, lacksId_iff.2 lacks, inner, ranInner, turned⟩
      cases isObject : type.objectFields? with
      | none => rw [isObject] at declared; cases declared
      | some fields => rw [isObject] at declared; exact congrArg some declared

/-- The guard turns a field away only where the search without it does not end. -/
theorem diverges_of_turnedAway (found : schema.find? type.name = some type)
    (came : CameThrough schema entered type)
    (ran : walk true schema depth entered type = some whole) (turned : whole.turnedAway ≠ [])
    (depth' : Nat) (entered' : List Name) : walk false schema depth' entered' type = none := by
  -- The induction is on the depth.  The search goes on in the type of the first field with a goal:
  -- either it has come through this type, which closes a cycle, or the guard does its work deeper.
  induction depth generalizing entered type whole depth' entered' with
  | zero => cases ran
  | succ depth ih =>
      obtain ⟨fields, isObject, hasField, lacks, inner, ranInner, turnedInner⟩ :=
        among_of_turnedAway ran turned
      have haveFields : HaveFields schema (entered ++ [type.name]) :=
        came.haveFields found (by simpa [isObject] using hasField)
      rcases passed_or_goal schema fields with
        passed | ⟨earlier, field, later, goal, rfl, passed, leads⟩
      · rw [← List.append_nil fields] at ranInner
        cases among_of_skip (look_of_passed_nil passed fun _ => haveFields) ranInner
        exact absurd rfl turnedInner
      have ranLater := among_of_skip (look_of_passed_nil passed fun _ => haveFields) ranInner
      cases goal with
      | scalar =>
          rw [among, lookFrom, look_of_isScalarField (goal?_eq_scalar_iff.1 leads)] at ranLater
          cases ranLater
          exact absurd rfl turnedInner
      | object next =>
          have enters := goal?_eq_object_iff.1 leads
          have goesOn : GoesOn schema type next := ⟨_, _, _, isObject, lacks, passed, enters⟩
          have cameOn := came.goesOn found goesOn
          refine diverges_of_goesOn goesOn ?_ depth' entered'
          by_cases isEntered : next.name ∈ entered ++ [type.name]
          · exact diverges_of_cycle (cameOn.cycle enters.mem isEntered)
          · rw [among, lookFrom, look_of_isObjectField enters.isObjectField,
              if_neg fun turned => isEntered turned.2, Option.bind_map,
              Option.bind_eq_some_iff] at ranLater
            obtain ⟨deeper, ranDeeper, stops⟩ := ranLater
            obtain ⟨first, rest, nextObject⟩ := enters.objectFields?
            have isPath : deeper.path.isSome = true :=
              path_isSome_of_walk nextObject (List.cons_ne_nil _ _) ranDeeper
            rw [Function.comp_apply,
              if_pos (by rw [Walk.through, Option.isSome_map, isPath])] at stops
            cases stops
            exact ih (Schema.find?_of_mem enters.mem) cameOn ranDeeper turnedInner

/-! ## Both walks -/

/-- The object types of a schema. -/
def objects (schema : Schema) : List TypeDefinition := schema.types.filter (·.isObject)

theorem mem_objects_of_objectFields? (member : type ∈ schema.types)
    (isObject : type.objectFields? = some fields) : type ∈ objects schema := by
  rw [objects, List.mem_filter, TypeDefinition.isObject, isObject]
  exact ⟨member, rfl⟩

/-- The types of a chain and the object types without a field are different object types. -/
theorem Chain.length_le {steps : List Step} (chain : Chain schema [] type steps)
    (member : type ∈ schema.types) :
    steps.length + (bare schema).length ≤ (objects schema).length := by
  have declared := chain.isDeclared member
  have distinct : (steps.map (·.type) ++ bare schema).Nodup := by
    refine List.Nodup.append ?_ (schema.distinct.of_map.filter _) ?_
    · refine List.Nodup.of_map (·.name) ?_
      rw [List.map_map]
      exact (chain.nodup_names List.not_mem_nil).1
    · intro other inside isBare
      obtain ⟨step, isStep, rfl⟩ := List.mem_map.1 inside
      obtain ⟨-, fields, isObject, hasField⟩ := declared step isStep
      cases isObject.symm.trans (mem_bare_iff.1 isBare).2
      cases hasField
  have inside : steps.map (·.type) ++ bare schema ⊆ objects schema := by
    refine List.append_subset.2 ⟨fun other isOf => ?_, fun other isBare => ?_⟩
    · obtain ⟨step, isStep, rfl⟩ := List.mem_map.1 isOf
      obtain ⟨isType, fields, isObject, -⟩ := declared step isStep
      exact mem_objects_of_objectFields? isType isObject
    · obtain ⟨isType, isObject⟩ := mem_bare_iff.1 isBare
      exact mem_objects_of_objectFields? isType isObject
  simpa using (distinct.subperm inside).length_le

/-- A search with the guard comes to its end in as many types as the schema has object types, finds
the key, and visits object types only, none of them twice. -/
theorem exists_walk (member : type ∈ schema.types) (isObject : type.isObject = true)
    (deep : (objects schema).length ≤ depth) :
    ∃ whole, walk true schema depth [] type = some whole ∧ whole.path = infer? schema type ∧
      whole.visited.Nodup ∧ whole.visited ⊆ (objects schema).map (·.name) := by
  obtain ⟨fields, isObject⟩ := Option.isSome_iff_exists.1 isObject
  cases fields with
  | nil =>
      have positive := List.length_pos_of_mem (mem_objects_of_objectFields? member isObject)
      obtain ⟨depth, rfl⟩ := Nat.exists_eq_add_one_of_ne_zero (by omega : depth ≠ 0)
      refine ⟨_, walk_of_nil isObject, ?_, List.nodup_nil, List.nil_subset _⟩
      rw [infer?_eq_search isObject, search_nil]
  | cons first rest =>
      obtain ⟨steps, chain, inferred⟩ := exists_chain_infer? isObject (List.cons_ne_nil first rest)
      have deepEnough := Nat.le_trans (chain.length_le member) deep
      obtain ⟨whole, ran, path, visited⟩ := walk_chain chain deepEnough
      refine ⟨whole, ran, path.trans inferred.symm, ?_, ?_⟩
      · rw [visited]
        exact (chain.nodup_names List.not_mem_nil).1
      · rw [visited]
        intro name isVisited
        obtain ⟨step, isStep, rfl⟩ := List.mem_map.1 isVisited
        obtain ⟨isType, fields, stepObject, -⟩ := chain.isDeclared member step isStep
        exact List.mem_map_of_mem (mem_objects_of_objectFields? isType stepObject)

/-- With the guard, a search comes to its end in as many types as the schema has object types, finds
the key and visits no type twice.  It turns a field away if and only if the search without the guard
has no end; if that one has an end, it finds the same. -/
theorem walk_guarded (member : type ∈ schema.types) (isObject : type.isObject = true)
    (deep : (objects schema).length ≤ depth) :
    ∃ whole, walk true schema depth [] type = some whole ∧
      whole.path = infer? schema type ∧
      whole.visited.Nodup ∧
      whole.visited ⊆ (objects schema).map (·.name) ∧
      whole.visited.length ≤ (objects schema).length ∧
      (∀ depth' unguarded, walk false schema depth' [] type = some unguarded →
        unguarded.path = infer? schema type) ∧
      (whole.turnedAway ≠ [] ↔ ∀ depth', walk false schema depth' [] type = none) := by
  obtain ⟨whole, ran, path, distinct, inside⟩ := exists_walk member isObject deep
  have diverges (turned : whole.turnedAway ≠ []) (depth' : Nat) :
      walk false schema depth' [] type = none :=
    diverges_of_turnedAway (Schema.find?_of_mem member) (by simp [CameThrough]) ran turned depth' []
  have unguarded (free : whole.turnedAway = []) (depth' : Nat) (deeper : depth ≤ depth') :
      walk false schema depth' [] type = some whole := walk_unguarded ran free deeper
  refine ⟨whole, ran, path, distinct, inside, ?_, fun depth' other ranOther => ?_,
    diverges, fun endless free => ?_⟩
  · simpa using (distinct.subperm inside).length_le
  · have free : whole.turnedAway = [] := by
      by_contra turned
      rw [diverges turned depth'] at ranOther
      cases ranOther
    -- Two searches without the guard that end are the same, since one may go as deep as the other.
    have same := (unguarded free _ (Nat.le_max_left depth depth')).symm.trans
      (walk_unguarded ranOther (turnedAway_of_unguarded ranOther) (Nat.le_max_right depth depth'))
    cases same
    exact path
  · have ends := unguarded free depth (Nat.le_refl _)
    rw [endless depth] at ends
    cases ends

/-- In a cycle, the guard turns away the field that refers back.  Without it there is no end. -/
theorem walk_guarded_pair :
    leftType ∈ pair.types ∧ leftType.isObject = true ∧ (objects pair).length ≤ 8 ∧
      (∃ whole, walk true pair 8 [] leftType = some whole ∧
        whole.path = some [rightField.name, sizeField.name] ∧
        whole.turnedAway = [leftField.name]) ∧
      ∀ depth, walk false pair depth [] leftType = none := by
  have size : (objects pair).length ≤ 8 := by decide +kernel
  have walked : walk true pair 8 [] leftType =
      some ⟨some [rightField.name, sizeField.name], [leftType.name, rightType.name],
        [leftField.name]⟩ := by rfl
  obtain ⟨whole, ran, -, -, -, -, -, turned⟩ := walk_guarded leftType_mem_pair rfl size
  cases walked.symm.trans ran
  exact ⟨leftType_mem_pair, rfl, size, ⟨_, walked, rfl, rfl⟩, turned.1 (List.cons_ne_nil _ _)⟩

end

end Key

end Subgraph
