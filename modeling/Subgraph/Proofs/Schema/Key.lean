import Subgraph.Schema.Key

/-!
# What an inferred key depends on

The search for a key looks at the names and the types of fields, and goes on only
through types that fields refer to.

* `Key.Form` is all that it sees of a type, and `Key.formOf` what it sees of the
  type with a name.
* `Key.search_congr` says that the search finds the same path wherever it sees
  the same, on the names that it can come to.
-/

namespace Subgraph

namespace Key

/-- What a search sees of a type. -/
inductive Form where
  | scalar
  | object (fields : List (Name × TypeReference))
  | other

/-- What a search sees of a field. -/
def sight (field : FieldDefinition) : Name × TypeReference := (field.name, field.type)

/-- What a search sees of a kind's own part. -/
def form : TypeBody → Form
  | .scalar => .scalar
  | .object _ fields => .object (fields.map sight)
  | .interface _ _ | .union _ | .enum _ | .input _ => .other

/-- What a search sees of the type with a name, among some types. -/
def formOf (types : List TypeDefinition) (name : Name) : Option Form :=
  (types.find? fun type => type.name = name).map fun type => form type.body

/-- Types are seen the same under each of some names. -/
def Agree (reached : Name → Prop) (types others : List TypeDefinition) : Prop :=
  ∀ name, reached name → formOf types name = formOf others name

/-- A type as a search sees it. -/
def seen (type : TypeDefinition) : Name × Form := (type.name, form type.body)

theorem formOf_eq_find?_map_seen (types : List TypeDefinition) (name : Name) :
    formOf types name = ((types.map seen).find? fun type => type.1 = name).map Prod.snd := by
  rw [formOf, List.find?_map, Option.map_map]
  rfl

/-- Types that are seen the same one after the other are seen the same under each name. -/
theorem agree_of_map_seen {reached : Name → Prop} {types others : List TypeDefinition}
    (same : types.map seen = others.map seen) : Agree reached types others := by
  intro name _
  rw [formOf_eq_find?_map_seen, formOf_eq_find?_map_seen, same]

/-- From the types of some names, no type of another name is entered. -/
def IsClosed (reached : Name → Prop) (types : List TypeDefinition) : Prop :=
  ∀ name fields, reached name → formOf types name = some (.object fields) →
    ∀ field ∈ fields, field.2.isList = false → reached field.2.innermost

/-! ## Types that are left -/

theorem find?_without (entered name : Name) (types : List TypeDefinition) :
    (without entered types).find? (fun type => type.name = name) =
      if name = entered then none else types.find? fun type => type.name = name := by
  rw [without, List.find?_filter]
  by_cases same : name = entered
  · rw [if_pos same, List.find?_eq_none]
    intro type _
    simp [same]
  · rw [if_neg same]
    congr 1
    funext type
    by_cases named : type.name = name
    · simp [named, same]
    · simp [named]

theorem formOf_without (entered name : Name) (types : List TypeDefinition) :
    formOf (without entered types) name =
      if name = entered then none else formOf types name := by
  rw [formOf, find?_without]
  split <;> rfl

variable {reached : Name → Prop} {types others : List TypeDefinition}

theorem Agree.without (agree : Agree reached types others) (entered : Name) :
    Agree reached (without entered types) (without entered others) := by
  intro name isReached
  rw [formOf_without, formOf_without, agree name isReached]

theorem IsClosed.without (closed : IsClosed reached types) (entered : Name) :
    IsClosed reached (without entered types) := by
  intro name fields isReached found
  rw [formOf_without] at found
  split at found
  next => cases found
  next => exact closed name fields isReached found

/-! ## Fields that are seen the same -/

/-- A search among the first fields finds what it finds in others that are seen the same. -/
theorem findSome?_congr {β : Type} {step step' : FieldDefinition → Option β}
    {fields fields' : List FieldDefinition} (same : fields.map sight = fields'.map sight)
    (each : ∀ field ∈ fields, ∀ field', sight field = sight field' →
      field.type.isList = false → step field = step' field') :
    (fields.filter fun field => !field.type.isList).findSome? step =
      (fields'.filter fun field => !field.type.isList).findSome? step' := by
  induction fields generalizing fields' with
  | nil =>
      cases List.map_eq_nil_iff.1 same.symm
      rfl
  | cons field fields ih =>
      cases fields' with
      | nil => cases same
      | cons field' fields' =>
          obtain ⟨here, behind⟩ := List.cons.inj same
          have rest := ih behind fun other member => each other (List.mem_cons_of_mem _ member)
          have sameType : field.type = field'.type := congrArg Prod.snd here
          cases isList : field.type.isList with
          | true =>
              rw [List.filter_cons_of_neg (by simp [isList]),
                List.filter_cons_of_neg (by simp [← sameType, isList]), rest]
          | false =>
              rw [List.filter_cons_of_pos (by simp [isList]),
                List.filter_cons_of_pos (by simp [← sameType, isList]), List.findSome?_cons,
                List.findSome?_cons, each field List.mem_cons_self field' here isList, rest]

theorem idField?_congr {fields fields' : List FieldDefinition}
    (same : fields.map sight = fields'.map sight) :
    (idField? fields).map (·.name) = (idField? fields').map (·.name) := by
  have seen (fields : List FieldDefinition) : (idField? fields).map (·.name) =
      ((fields.map sight).find? fun field => field.2.innermost = BuiltIn.id).map Prod.fst := by
    rw [List.find?_map, Option.map_map]
    rfl
  rw [seen, seen, same]

/-! ## The search -/

/-- The path through a field, if it leads to a scalar, or to an object type that is left and has a
path itself. -/
def through (schema : Schema) (left : List TypeDefinition) (field : FieldDefinition) :
    Option (List Name) :=
  match formOf schema.types field.type.innermost with
  | some .scalar => some [field.name]
  | some (.object _) =>
      ((left.find? fun type => type.name = field.type.innermost).bind
        TypeDefinition.objectFields?).bind fun inner =>
          (search schema (without field.type.innermost left) inner).map (field.name :: ·)
  | _ => none

/-- Where no field is of the type of identifiers, a path goes through the first field that has
one. -/
theorem search_of_idField? (schema : Schema) (left : List TypeDefinition) {first : FieldDefinition}
    {rest : List FieldDefinition} (noId : idField? (first :: rest) = none) :
    search schema left (first :: rest) =
      some ((((first :: rest).filter fun field => !field.type.isList).findSome?
        (through schema left)).getD [first.name]) := by
  rw [search, noId]
  dsimp only
  refine congrArg (fun step => some ((List.findSome? step _).getD _)) (funext fun field => ?_)
  unfold through formOf
  change _ = match (schema.find? field.type.innermost).map fun type => form type.body with
    | some .scalar => _ | some (.object _) => _ | _ => _
  split
  next found => rw [found]; rfl
  next found =>
      rw [found]
      split
      next isLeft => rw [isLeft]; rfl
      next noObject =>
          cases isLeft : left.find? fun type => type.name = field.type.innermost with
          | none => rfl
          | some type =>
              obtain ⟨description, name, directives, body⟩ := type
              cases body with
              | object interfaces inner => exact absurd isLeft (noObject _ _ _ _ _)
              | _ => rfl
  next noScalar noObject =>
      cases found : schema.find? field.type.innermost with
      | none => rfl
      | some type =>
          obtain ⟨description, name, directives, body⟩ := type
          cases body with
          | scalar => exact absurd found (noScalar _ _ _)
          | object interfaces inner => exact absurd found (noObject _ _ _ _ _)
          | _ => rfl

/-- The fields of an object that a search sees. -/
def Form.fields? : Form → Option (List (Name × TypeReference))
  | object fields => some fields
  | scalar | other => none

theorem form_of_objectFields? {type : TypeDefinition} {fields : List FieldDefinition}
    (isObject : type.objectFields? = some fields) : form type.body = .object (fields.map sight) := by
  obtain ⟨description, name, directives, body⟩ := type
  cases body with
  | object interfaces inner =>
      cases isObject
      rfl
  | _ => cases isObject

theorem map_sight_objectFields? (types : List TypeDefinition) (name : Name) :
    ((types.find? fun type => type.name = name).bind TypeDefinition.objectFields?).map
        (List.map sight) = (formOf types name).bind Form.fields? := by
  unfold formOf
  cases types.find? fun type => type.name = name with
  | none => rfl
  | some type =>
      obtain ⟨description, name, directives, body⟩ := type
      cases body <;> rfl

variable {schema other : Schema} {left left' : List TypeDefinition}

/-- A path leads through two fields that are seen the same alike, if it does so further on. -/
theorem through_congr {field field' : FieldDefinition} (seen : sight field = sight field')
    (agree : formOf schema.types field.type.innermost = formOf other.types field.type.innermost)
    (agreeLeft : formOf left field.type.innermost = formOf left' field.type.innermost)
    (deeper : ∀ type, left.find? (fun type => type.name = field.type.innermost) = some type →
      ∀ inner inner', type.objectFields? = some inner → inner.map sight = inner'.map sight →
        search schema (without field.type.innermost left) inner =
          search other (without field.type.innermost left') inner') :
    through schema left field = through other left' field' := by
  obtain ⟨named, typed⟩ := Prod.mk.inj seen
  have inside := map_sight_objectFields? left field.type.innermost
  rw [agreeLeft, ← map_sight_objectFields? left'] at inside
  unfold through
  rw [← named, ← typed, agree]
  split
  next => rfl
  next =>
      cases found : (left.find? fun type => type.name = field.type.innermost).bind
          TypeDefinition.objectFields? with
      | none =>
          rw [found] at inside
          rw [Option.map_eq_none_iff.1 inside.symm]
          rfl
      | some inner =>
          rw [found] at inside
          obtain ⟨inner', found', sameInner⟩ := Option.map_eq_some_iff.1 inside.symm
          obtain ⟨type, isLeft, isObject⟩ := Option.bind_eq_some_iff.1 found
          rw [found', Option.bind_some, Option.bind_some,
            deeper type isLeft inner inner' isObject sameInner.symm]
  next => rfl

/-- Two searches find the same among fields that are seen the same, if paths lead through these
alike. -/
theorem search_congr_of_through {fields fields' : List FieldDefinition}
    (same : fields.map sight = fields'.map sight)
    (each : ∀ field ∈ fields, ∀ field', sight field = sight field' → field.type.isList = false →
      through schema left field = through other left' field') :
    search schema left fields = search other left' fields' := by
  cases fields with
  | nil =>
      cases List.map_eq_nil_iff.1 same.symm
      rw [search, search]
  | cons first rest =>
      cases fields' with
      | nil => cases same
      | cons first' rest' =>
          have sameName : first.name = first'.name := congrArg Prod.fst (List.cons.inj same).1
          have sameId := idField?_congr same
          cases found : idField? (first :: rest) with
          | some field =>
              rw [found] at sameId
              obtain ⟨field', found', named⟩ := Option.map_eq_some_iff.1 sameId.symm
              rw [search, search, found, found']
              exact congrArg (fun name => some [name]) named.symm
          | none =>
              rw [found] at sameId
              rw [search_of_idField? schema left found,
                search_of_idField? other left' (Option.map_eq_none_iff.1 sameId.symm), sameName,
                findSome?_congr same each]

/-- The search finds the same path where it sees the same, by induction on how many types are
left. -/
theorem search_congr {fields fields' : List FieldDefinition}
    (agree : Agree reached schema.types other.types) (agreeLeft : Agree reached left left')
    (closed : IsClosed reached left) (same : fields.map sight = fields'.map sight)
    (starts : ∀ field ∈ fields, field.type.isList = false → reached field.type.innermost) :
    search schema left fields = search other left' fields' := by
  induction size : left.length using Nat.strongRecOn generalizing left left' fields fields' with
  | ind size ih =>
      refine search_congr_of_through same fun field member field' seen isPlain => ?_
      have isReached := starts field member isPlain
      refine through_congr seen (agree _ isReached) (agreeLeft _ isReached)
        fun type isLeft inner inner' isObject sameInner => ?_
      have formed : formOf left field.type.innermost = some (.object (inner.map sight)) := by
        rw [formOf, isLeft, Option.map_some, form_of_objectFields? isObject]
      have begins : ∀ next ∈ inner, next.type.isList = false → reached next.type.innermost :=
        fun next among => closed _ _ isReached formed (sight next) (List.mem_map_of_mem among)
      exact ih _ (size ▸ length_without_lt isLeft) (agreeLeft.without _) (closed.without _)
        sameInner begins rfl

end Key

end Subgraph
