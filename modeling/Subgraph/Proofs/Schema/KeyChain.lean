import Subgraph.Proofs.Schema.Key
import Subgraph.Proofs.Schema.Parts

/-!
# What a key leads through

A key names one field in each of a chain of object types.  `Key.Chain` says by
rules which field that is, and where the chain goes on.

* `Key.goal?` is what a field leads to, and `Key.choice?` the field that a type
  contributes, with the type that the chain goes on in.  A search makes this
  choice in every type (`Key.search_eq_choice`), and so does a chain
  (`Key.Chain.choice`).
* `Key.exists_chain` says that every object type with a field has a chain, which
  the search follows, and `Key.Chain.unique` that it has no other.
* `Key.infer?_chain` says what an inferred key is, for every type of a schema.
-/

namespace Subgraph

namespace Key

/-! ## Chains -/

/-- A step of a key: a type, and the field of it that the key names. -/
structure Step where
  /-- The type. -/
  type : TypeDefinition
  /-- The field. -/
  field : FieldDefinition

/-- No field among some is of the type of identifiers. -/
def LacksId (fields : List FieldDefinition) : Prop :=
  ∀ field ∈ fields, field.type.innermost ≠ BuiltIn.id

variable (schema : Schema)

/-- A field, not a list, of scalar type. -/
structure IsScalarField (field : FieldDefinition) : Prop where
  notList : field.type.isList = false
  scalar : ∃ type, schema.find? field.type.innermost = some type ∧ type.body = .scalar

/-- A field, not a list, whose type is an object type with a field and none of those that have been
entered. -/
structure Enters (entered : List Name) (field : FieldDefinition) (next : TypeDefinition) :
    Prop where
  notList : field.type.isList = false
  found : schema.find? field.type.innermost = some next
  hasField : ∃ interfaces first rest, next.body = .object interfaces (first :: rest)
  unentered : next.name ∉ entered

/-- No field among some is of scalar type or enters an object type. -/
def Passed (entered : List Name) (fields : List FieldDefinition) : Prop :=
  ∀ field ∈ fields, ¬ IsScalarField schema field ∧ ∀ next, ¬ Enters schema entered field next

/-- The chain of a type, when some types have been entered before. -/
inductive Chain : List Name → TypeDefinition → List Step → Prop
  /-- The first field of the type of identifiers ends the chain. -/
  | id {entered type earlier field later} :
      type.objectFields? = some (earlier ++ field :: later) →
      LacksId earlier → field.type.innermost = BuiltIn.id →
      Chain entered type [⟨type, field⟩]
  /-- Without one, the first field that is of scalar type or enters an object type counts.  One of
  scalar type ends the chain. -/
  | scalar {entered type earlier field later} :
      type.objectFields? = some (earlier ++ field :: later) → LacksId (earlier ++ field :: later) →
      Passed schema (entered ++ [type.name]) earlier → IsScalarField schema field →
      Chain entered type [⟨type, field⟩]
  /-- One that enters an object type goes on with the chain of that type. -/
  | object {entered type earlier field later next rest} :
      type.objectFields? = some (earlier ++ field :: later) → LacksId (earlier ++ field :: later) →
      Passed schema (entered ++ [type.name]) earlier →
      Enters schema (entered ++ [type.name]) field next →
      Chain (entered ++ [type.name]) next rest →
      Chain entered type (⟨type, field⟩ :: rest)
  /-- Without any of these, the first field ends the chain. -/
  | first {entered type field later} :
      type.objectFields? = some (field :: later) → LacksId (field :: later) →
      Passed schema (entered ++ [type.name]) (field :: later) →
      Chain entered type [⟨type, field⟩]

/-! ## Goals and choices -/

/-- What a field leads to. -/
inductive Goal where
  | scalar
  | object (next : TypeDefinition)

/-- The type that a key goes on in. -/
def Goal.next? : Goal → Option TypeDefinition
  | scalar => none
  | object next => some next

/-- What a field leads to, if it is no list and of scalar type, or of an object type with a field
that has not been entered. -/
def goal? (entered : List Name) (field : FieldDefinition) : Option Goal :=
  if field.type.isList then none
  else
    match schema.find? field.type.innermost with
    | none => none
    | some type =>
        match type.body with
        | .scalar => some .scalar
        | .object _ (_ :: _) => if type.name ∈ entered then none else some (.object type)
        | _ => none

/-- The field that a type contributes to a key, and the type that the key goes on in. -/
def choice? (entered : List Name) (fields : List FieldDefinition) :
    Option (FieldDefinition × Option TypeDefinition) :=
  ((idField? fields).map fun field => (field, none)).or <|
    (fields.findSome? fun field =>
      (goal? schema entered field).map fun goal => (field, goal.next?)).or <|
    fields.head?.map fun field => (field, none)

variable {schema} {entered : List Name} {field : FieldDefinition}
  {fields earlier later : List FieldDefinition} {type next : TypeDefinition}

theorem goal?_eq_scalar_iff :
    goal? schema entered field = some .scalar ↔ IsScalarField schema field := by
  unfold goal?
  constructor
  · intro leads
    split at leads
    · cases leads
    next notList =>
      split at leads
      · cases leads
      next type found =>
        refine ⟨by simpa using notList, type, found, ?_⟩
        split at leads
        next scalar => exact scalar
        next => split at leads <;> cases leads
        next => cases leads
  · rintro ⟨notList, type, found, scalar⟩
    simp [notList, found, scalar]

theorem goal?_eq_object_iff :
    goal? schema entered field = some (.object next) ↔ Enters schema entered field next := by
  unfold goal?
  constructor
  · intro leads
    split at leads
    · cases leads
    next notList =>
      split at leads
      · cases leads
      next type found =>
        split at leads
        next => cases leads
        next interfaces first rest object =>
          split at leads
          · cases leads
          next unentered =>
            cases leads
            exact ⟨by simpa using notList, found, ⟨interfaces, first, rest, object⟩, unentered⟩
        next => cases leads
  · rintro ⟨notList, found, ⟨interfaces, first, rest, object⟩, unentered⟩
    simp [notList, found, object, unentered]

theorem passed_iff : Passed schema entered fields ↔
    ∀ field ∈ fields, goal? schema entered field = none := by
  refine forall₂_congr fun field _ => ?_
  rw [← goal?_eq_scalar_iff]
  simp only [← goal?_eq_object_iff]
  rcases goal? schema entered field with _ | _ | next
  · simp
  · simp
  · simp

theorem lacksId_iff : LacksId fields ↔ idField? fields = none := by
  simp [LacksId, idField?, List.find?_eq_none]

instance (fields : List FieldDefinition) : Decidable (LacksId fields) :=
  inferInstanceAs (Decidable (∀ field ∈ fields, _))

instance : Decidable (Passed schema entered fields) := decidable_of_iff _ passed_iff.symm

theorem choice?_of_id (lacks : LacksId earlier) (isId : field.type.innermost = BuiltIn.id) :
    choice? schema entered (earlier ++ field :: later) = some (field, none) := by
  have found : idField? (earlier ++ field :: later) = some field :=
    List.find?_eq_some_iff_append.2
      ⟨by simpa using isId, earlier, later, rfl,
        fun other member => by simpa using lacks other member⟩
  rw [choice?, found]
  rfl

theorem choice?_of_goal (lacks : LacksId (earlier ++ field :: later))
    (passed : Passed schema entered earlier) {goal : Goal}
    (leads : goal? schema entered field = some goal) :
    choice? schema entered (earlier ++ field :: later) = some (field, goal.next?) := by
  have found : (earlier ++ field :: later).findSome? (fun field =>
      (goal? schema entered field).map fun goal => (field, goal.next?)) =
        some (field, goal.next?) :=
    List.findSome?_eq_some_iff.2 ⟨earlier, field, later, rfl, by rw [leads]; rfl,
      fun other member => by rw [passed_iff.1 passed other member]; rfl⟩
  rw [choice?, lacksId_iff.1 lacks, found]
  rfl

theorem choice?_of_passed (lacks : LacksId (field :: later))
    (passed : Passed schema entered (field :: later)) :
    choice? schema entered (field :: later) = some (field, none) := by
  have nothing : (field :: later).findSome? (fun field =>
      (goal? schema entered field).map fun goal => (field, goal.next?)) = none :=
    List.findSome?_eq_none_iff.2 fun other member => by
      rw [passed_iff.1 passed other member]
      rfl
  rw [choice?, lacksId_iff.1 lacks, nothing]
  rfl

/-- A chain makes the choice of its type, and goes on in the type that is chosen. -/
theorem Chain.choice {steps : List Step} (chain : Chain schema entered type steps) :
    ∃ fields field next?, type.objectFields? = some fields ∧
      choice? schema (entered ++ [type.name]) fields = some (field, next?) ∧
      match next? with
      | none => steps = [⟨type, field⟩]
      | some next =>
          ∃ rest, steps = ⟨type, field⟩ :: rest ∧
            Chain schema (entered ++ [type.name]) next rest := by
  cases chain with
  | id isObject lacks isId => exact ⟨_, _, none, isObject, choice?_of_id lacks isId, rfl⟩
  | scalar isObject lacks passed isScalar =>
      exact ⟨_, _, none, isObject,
        choice?_of_goal lacks passed (goal?_eq_scalar_iff.2 isScalar), rfl⟩
  | object isObject lacks passed enters rest =>
      exact ⟨_, _, some _, isObject,
        choice?_of_goal lacks passed (goal?_eq_object_iff.2 enters), _, rfl, rest⟩
  | first isObject lacks passed =>
      exact ⟨_, _, none, isObject, choice?_of_passed lacks passed, rfl⟩

/-- A type has one chain at most, by induction on the chain. -/
theorem Chain.unique {steps steps' : List Step} (chain : Chain schema entered type steps)
    (chain' : Chain schema entered type steps') : steps = steps' := by
  induction steps generalizing entered type steps' with
  | nil => cases chain
  | cons step rest ih =>
      obtain ⟨fields, field, next?, isObject, chosen, goesOn⟩ := chain.choice
      obtain ⟨_, _, _, isObject', chosen', goesOn'⟩ := chain'.choice
      cases isObject.symm.trans isObject'
      cases chosen.symm.trans chosen'
      cases next? with
      | none => exact goesOn.trans goesOn'.symm
      | some next =>
          obtain ⟨_, same, deeper⟩ := goesOn
          obtain ⟨_, rfl, deeper'⟩ := goesOn'
          cases same
          rw [ih deeper deeper']

/-- A choice is that of a chain: of one that ends there, or of one that goes on with any chain of
the chosen type. -/
theorem chain_of_choice {next? : Option TypeDefinition}
    (isObject : type.objectFields? = some fields)
    (chosen : choice? schema (entered ++ [type.name]) fields = some (field, next?)) :
    match next? with
    | none => Chain schema entered type [⟨type, field⟩]
    | some next => Enters schema (entered ++ [type.name]) field next ∧
        ∀ rest, Chain schema (entered ++ [type.name]) next rest →
          Chain schema entered type (⟨type, field⟩ :: rest) := by
  unfold choice? at chosen
  cases found : idField? fields with
  | some idField =>
      rw [found] at chosen
      cases chosen
      obtain ⟨isId, earlier, later, rfl, before⟩ := List.find?_eq_some_iff_append.1 found
      exact .id isObject (fun other member => by simpa using before other member)
        (by simpa using isId)
  | none =>
      rw [found, Option.map_none, Option.none_or] at chosen
      have lacks := lacksId_iff.2 found
      rcases Option.or_eq_some_iff.1 chosen with here | ⟨nowhere, here⟩
      · obtain ⟨earlier, other, later, rfl, settled, before⟩ := List.findSome?_eq_some_iff.1 here
        obtain ⟨goal, leads, same⟩ := Option.map_eq_some_iff.1 settled
        have passed : Passed schema (entered ++ [type.name]) earlier :=
          passed_iff.2 fun other member => Option.map_eq_none_iff.1 (before other member)
        cases same
        cases goal with
        | scalar => exact .scalar isObject lacks passed (goal?_eq_scalar_iff.1 leads)
        | object next =>
            have enters := goal?_eq_object_iff.1 leads
            exact ⟨enters, fun rest deeper => .object isObject lacks passed enters deeper⟩
      · have passed : Passed schema (entered ++ [type.name]) fields :=
          passed_iff.2 fun other member =>
            Option.map_eq_none_iff.1 (List.findSome?_eq_none_iff.1 nowhere other member)
        cases fields with
        | nil => cases here
        | cons first rest =>
            cases here
            exact .first isObject lacks passed

/-! ## The search -/

/-- Types are those of a schema without the ones that have been entered. -/
def IsLeft (schema : Schema) (entered : List Name) (left : List TypeDefinition) : Prop :=
  ∀ name, left.find? (fun type => type.name = name) =
    if name ∈ entered then none else schema.find? name

variable {left : List TypeDefinition}

theorem IsLeft.without (isLeft : IsLeft schema entered left) (name : Name) :
    IsLeft schema (entered ++ [name]) (without name left) := by
  intro other
  rw [find?_without, isLeft other]
  by_cases same : other = name
  · simp [same]
  · simp [same]

theorem isLeft_without_types (schema : Schema) (name : Name) :
    IsLeft schema [name] (without name schema.types) := by
  intro other
  rw [find?_without]
  simp [Schema.find?]

/-- The path that begins with a choice. -/
def pathOf (schema : Schema) (left : List TypeDefinition) :
    FieldDefinition × Option TypeDefinition → Option (List Name)
  | (field, none) => some [field.name]
  | (field, some next) =>
      (search schema (without next.name left) (next.objectFields?.getD [])).map (field.name :: ·)

theorem search_nil (schema : Schema) (left : List TypeDefinition) :
    search schema left [] = none := by
  rw [search]

/-- A search among some fields finds a path. -/
theorem search_cons_isSome (schema : Schema) (left : List TypeDefinition) (first : FieldDefinition)
    (rest : List FieldDefinition) : (search schema left (first :: rest)).isSome = true := by
  cases found : idField? (first :: rest) with
  | some field => rw [search, found]; rfl
  | none => rw [search_of_idField? schema left found]; rfl

theorem Enters.name_eq (enters : Enters schema entered field next) :
    next.name = field.type.innermost := by
  simpa using List.find?_some enters.found

theorem Enters.mem (enters : Enters schema entered field next) : next ∈ schema.types :=
  List.mem_of_find?_eq_some enters.found

theorem Enters.objectFields? (enters : Enters schema entered field next) :
    ∃ first rest, next.objectFields? = some (first :: rest) := by
  obtain ⟨interfaces, first, rest, object⟩ := enters.hasField
  exact ⟨first, rest, by rw [TypeDefinition.objectFields?, object]⟩

theorem pathOf_isSome {goal : Goal} (leads : goal? schema entered field = some goal) :
    (pathOf schema left (field, goal.next?)).isSome = true := by
  cases goal with
  | scalar => rfl
  | object next =>
      obtain ⟨first, rest, isObject⟩ := (goal?_eq_object_iff.1 leads).objectFields?
      rw [Goal.next?, pathOf, Option.isSome_map, isObject]
      exact search_cons_isSome schema _ first rest

/-- A path leads through a field to its goal. -/
theorem through_eq (isLeft : IsLeft schema entered left) (notList : field.type.isList = false) :
    through schema left field =
      (goal? schema entered field).bind fun goal => pathOf schema left (field, goal.next?) := by
  have sees : ¬ field.type.isList = true := by simp [notList]
  have seen : formOf schema.types field.type.innermost =
      (schema.find? field.type.innermost).map fun type => form type.body := rfl
  rw [through, seen, isLeft, goal?, if_neg sees]
  cases found : schema.find? field.type.innermost with
  | none => rfl
  | some type =>
      have named : type.name = field.type.innermost := by simpa using List.find?_some found
      obtain ⟨description, name, directives, body⟩ := type
      cases named
      cases body with
      | scalar | interface | union | enum | input => rfl
      | object interfaces fields =>
          by_cases isEntered : field.type.innermost ∈ entered
          · rw [if_pos isEntered]
            cases fields with
            | nil => rfl
            | cons first rest => simp [form, isEntered]
          · rw [if_neg isEntered]
            cases fields with
            | nil => exact congrArg (Option.map _) (search_nil schema _)
            | cons first rest =>
                dsimp only
                rw [if_neg isEntered]
                rfl

/-- The first result that goes on is the first result, if every result goes on. -/
theorem findSome?_bind {α β γ : Type} {find : α → Option β} {next : β → Option γ} {items : List α}
    (goesOn : ∀ item ∈ items, ∀ found, find item = some found → (next found).isSome = true) :
    items.findSome? (fun item => (find item).bind next) = (items.findSome? find).bind next := by
  induction items with
  | nil => rfl
  | cons item rest ih =>
      rw [List.findSome?_cons, List.findSome?_cons]
      cases found : find item with
      | none => exact ih fun other member => goesOn other (List.mem_cons_of_mem _ member)
      | some first =>
          obtain ⟨result, same⟩ :=
            Option.isSome_iff_exists.1 (goesOn item List.mem_cons_self first found)
          simp only [Option.bind_some, same]

/-- Where lists are left out, a search among fields sees their goals. -/
theorem findSome?_through (isLeft : IsLeft schema entered left) (fields : List FieldDefinition) :
    (fields.filter fun field => !field.type.isList).findSome? (through schema left) =
      fields.findSome? fun field =>
        ((goal? schema entered field).map fun goal => (field, goal.next?)).bind
          (pathOf schema left) := by
  induction fields with
  | nil => rfl
  | cons field rest ih =>
      rw [List.findSome?_cons]
      cases isList : field.type.isList with
      | true =>
          have unseen : goal? schema entered field = none := by rw [goal?, if_pos isList]
          rw [List.filter_cons_of_neg (by simp [isList]), ih, unseen]
          rfl
      | false =>
          rw [List.filter_cons_of_pos (by simp [isList]), List.findSome?_cons, ih,
            through_eq isLeft isList, Option.bind_map]
          rfl

/-- A search makes the choice of the type and goes on from there. -/
theorem search_eq_choice (isLeft : IsLeft schema entered left) :
    search schema left fields = (choice? schema entered fields).bind (pathOf schema left) := by
  cases fields with
  | nil => rw [search_nil]; rfl
  | cons first rest =>
      cases found : idField? (first :: rest) with
      | some field =>
          rw [search, choice?, found]
          rfl
      | none =>
          have goesOn : ∀ field ∈ first :: rest, ∀ chosen,
              (goal? schema entered field).map (fun goal => (field, goal.next?)) = some chosen →
                (pathOf schema left chosen).isSome = true := by
            intro field _ chosen settled
            obtain ⟨goal, leads, rfl⟩ := Option.map_eq_some_iff.1 settled
            exact pathOf_isSome leads
          rw [search_of_idField? schema left found, choice?, found, findSome?_through isLeft,
            findSome?_bind goesOn]
          cases settled : (first :: rest).findSome? fun field =>
              (goal? schema entered field).map fun goal => (field, goal.next?) with
          | none => rfl
          | some chosen =>
              obtain ⟨field, member, leads⟩ := List.exists_of_findSome?_eq_some settled
              obtain ⟨path, same⟩ := Option.isSome_iff_exists.1 (goesOn field member chosen leads)
              rw [Option.bind_some, same]
              exact same.symm

/-- An object type with a field has a chain, and the search follows it, by induction on how many
types are left. -/
theorem exists_chain (isObject : type.objectFields? = some fields) (hasField : fields ≠ [])
    (isLeft : IsLeft schema (entered ++ [type.name]) left) :
    ∃ chain, Chain schema entered type chain ∧
      search schema left fields = some (chain.map (·.field.name)) := by
  induction size : left.length using Nat.strongRecOn generalizing entered type fields left with
  | ind size ih =>
      obtain ⟨first, rest, rfl⟩ := List.exists_cons_of_ne_nil hasField
      obtain ⟨path, found⟩ := Option.isSome_iff_exists.1 (search_cons_isSome schema left first rest)
      rw [search_eq_choice isLeft] at found
      obtain ⟨⟨field, next?⟩, chosen, begins⟩ := Option.bind_eq_some_iff.1 found
      rw [search_eq_choice isLeft, chosen, Option.bind_some]
      have goesOn := chain_of_choice isObject chosen
      cases next? with
      | none => exact ⟨_, goesOn, rfl⟩
      | some next =>
          obtain ⟨enters, goesOn⟩ := goesOn
          obtain ⟨first', rest', isObject'⟩ := enters.objectFields?
          have nextLeft : left.find? (fun type => type.name = next.name) = some next := by
            rw [isLeft, if_neg enters.unentered, enters.name_eq, enters.found]
          obtain ⟨chain, deeper, follows⟩ := ih _ (size ▸ length_without_lt nextLeft) isObject'
            (List.cons_ne_nil _ _) (isLeft.without next.name) rfl
          refine ⟨_, goesOn chain deeper, ?_⟩
          rw [pathOf, isObject', Option.getD_some, follows]
          rfl

theorem infer?_eq_search (isObject : type.objectFields? = some fields) :
    infer? schema type = search schema (without type.name schema.types) fields := by
  rw [infer?, isObject]
  rfl

/-- The key of an object type with a field is the path along a chain. -/
theorem exists_chain_infer? (isObject : type.objectFields? = some fields) (hasField : fields ≠ []) :
    ∃ chain, Chain schema [] type chain ∧
      infer? schema type = some (chain.map (·.field.name)) := by
  rw [infer?_eq_search isObject]
  exact exists_chain isObject hasField (isLeft_without_types schema type.name)

/-! ## What chains are made of -/

/-- A chain enters no type that has been entered before, and none twice. -/
theorem Chain.nodup_names {steps : List Step} (chain : Chain schema entered type steps)
    (start : type.name ∉ entered) :
    (steps.map (·.type.name)).Nodup ∧ ∀ step ∈ steps, step.type.name ∉ entered := by
  induction chain with
  | id | scalar | first => exact ⟨by simp, by simpa using start⟩
  | object _ _ _ enters _ ih =>
      obtain ⟨distinct, fresh⟩ := ih enters.unentered
      simp only [List.mem_append, List.mem_singleton, not_or] at fresh
      refine ⟨?_, List.forall_mem_cons.2 ⟨start, fun step member => (fresh step member).1⟩⟩
      rw [List.map_cons, List.nodup_cons, List.mem_map]
      exact ⟨fun ⟨step, member, same⟩ => (fresh step member).2 same, distinct⟩

/-- Every step of a chain is a declared field of an object type of the schema. -/
theorem Chain.isDeclared {steps : List Step} (chain : Chain schema entered type steps)
    (member : type ∈ schema.types) :
    ∀ step ∈ steps, step.type ∈ schema.types ∧
      ∃ fields, step.type.objectFields? = some fields ∧ step.field ∈ fields := by
  induction chain with
  | id isObject | scalar isObject | first isObject =>
      rintro step inside
      cases List.mem_singleton.1 inside
      exact ⟨member, _, isObject, by simp⟩
  | object isObject _ _ enters _ ih =>
      exact List.forall_mem_cons.2 ⟨⟨member, _, isObject, by simp⟩, ih enters.mem⟩

/-- In the text of a path, braces open between the fields, and close at the end. -/
theorem text_eq (path : List Name) :
    text path = " \x7b ".intercalate (path.map Name.text) ++
      String.join (List.replicate (path.length - 1) " \x7d") := by
  induction path with
  | nil => rfl
  | cons field rest ih =>
      cases rest with
      | nil => simp [text]
      | cons next rest =>
          have opens : text (field :: next :: rest) =
              field.text ++ " \x7b " ++ text (next :: rest) ++ " \x7d" := rfl
          have closes : String.join (List.replicate ((field :: next :: rest).length - 1) " \x7d") =
              String.join (List.replicate ((next :: rest).length - 1) " \x7d") ++ " \x7d" := by
            simp [List.replicate_succ']
          rw [opens, ih, closes]
          simp only [List.map_cons, String.intercalate_cons_cons, String.append_assoc]

/-! ## Inferred keys -/

/-- A type of a schema has no key when it has no field.  Otherwise it has one chain, through
different object types and declared fields of theirs, and its key is the path along this chain. -/
theorem infer?_chain (member : type ∈ schema.types) (isObject : type.objectFields? = some fields) :
    (infer? schema type = none ↔ fields = []) ∧
    (fields ≠ [] → ∃ chain,
      (∀ steps, Chain schema [] type steps ↔ steps = chain) ∧
      (chain.map (·.type.name)).Nodup ∧
      (∀ step ∈ chain, step.type ∈ schema.types ∧
        ∃ declared, step.type.objectFields? = some declared ∧ step.field ∈ declared) ∧
      infer? schema type = some (chain.map (·.field.name)) ∧
      text (chain.map (·.field.name)) =
        " \x7b ".intercalate (chain.map (·.field.name.text)) ++
          String.join (List.replicate (chain.length - 1) " \x7d")) := by
  refine ⟨⟨fun none => ?_, fun empty => ?_⟩, fun hasField => ?_⟩
  · by_contra hasField
    obtain ⟨_, _, some⟩ := exists_chain_infer? isObject hasField
    exact absurd (none.symm.trans some) (by simp)
  · rw [infer?_eq_search isObject, empty, search_nil]
  · obtain ⟨chain, isChain, inferred⟩ := exists_chain_infer? isObject hasField
    refine ⟨chain, fun steps => ⟨fun other => other.unique isChain, ?_⟩,
      (isChain.nodup_names List.not_mem_nil).1, isChain.isDeclared member, inferred, ?_⟩
    · rintro rfl
      exact isChain
    · rw [text_eq, List.map_map, List.length_map]
      rfl

/-- A field of one of two types that refer to each other. -/
def rightField : FieldDefinition where
  name := ⟨"right", by decide⟩
  type := .named ⟨"Right", by decide⟩ false

/-- The field of the other type that refers back. -/
def leftField : FieldDefinition where
  name := ⟨"left", by decide⟩
  type := .named ⟨"Left", by decide⟩ false

/-- A field of scalar type. -/
def sizeField : FieldDefinition where
  name := ⟨"size", by decide⟩
  type := .named BuiltIn.string false

/-- A type that refers to another one. -/
def leftType : TypeDefinition where
  name := ⟨"Left", by decide⟩
  body := .object [] [rightField]

/-- A type that refers back to it. -/
def rightType : TypeDefinition where
  name := ⟨"Right", by decide⟩
  body := .object [] [leftField, sizeField]

/-- A schema with two types that refer to each other. -/
def pair : Schema where
  types := BuiltIn.types ++ [leftType, rightType]
  directives := []
  roots := []
  distinct := by decide +kernel

theorem leftType_mem_pair : leftType ∈ pair.types := by simp [pair]

/-- The field that refers back is passed, and the one behind it ends the chain. -/
theorem chain_pair : Chain pair [] leftType [⟨leftType, rightField⟩, ⟨rightType, sizeField⟩] := by
  have left : leftType.objectFields? = some ([] ++ rightField :: []) := rfl
  have right : rightType.objectFields? = some ([leftField] ++ sizeField :: []) := rfl
  have isRight : rightType ∈ pair.types := by simp [pair]
  have isString : { name := BuiltIn.string, body := .scalar } ∈ pair.types := by
    simp [pair, BuiltIn.types, BuiltIn.scalarNames]
  have enters : Enters pair [leftType.name] rightField rightType :=
    ⟨rfl, Schema.find?_of_mem isRight, ⟨[], leftField, [sizeField], rfl⟩, by decide⟩
  have isScalar : IsScalarField pair sizeField := ⟨rfl, _, Schema.find?_of_mem isString, rfl⟩
  refine .object left (by decide) (by decide) enters ?_
  exact .scalar right (by decide) (by decide +kernel) isScalar

/-- The key of a type in a cycle leads into the other type once. -/
theorem infer?_chain_pair :
    leftType ∈ pair.types ∧ leftType.objectFields? = some [rightField] ∧
      infer? pair leftType = some [rightField.name, sizeField.name] ∧
      text [rightField.name, sizeField.name] = "right \x7b size \x7d" := by
  have isObject : leftType.objectFields? = some [rightField] := rfl
  obtain ⟨chain, unique, _, _, inferred, written⟩ :=
    (infer?_chain leftType_mem_pair isObject).2 (List.cons_ne_nil _ _)
  cases (unique _).1 chain_pair
  exact ⟨leftType_mem_pair, isObject, inferred, written.trans (by decide +kernel)⟩

end Key

end Subgraph
