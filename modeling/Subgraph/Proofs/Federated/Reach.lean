import Mathlib
import Subgraph.Proofs.Federated.Alike
import Subgraph.Proofs.Federated.Stability
import Subgraph.Proofs.Federated.Text
import Subgraph.Proofs.Schema.Parts

/-!
# What a type depends on

The text of a federated schema has a block for each type.  A block depends on what
the options say about its type, and on the types that its type can come to.

* `Schema.Reaches` are the names that a type can come to, and `Schema.SameAt` says
  that two schemas and two options are the same as far as a type can come.
* `SameAt.typeOptions?_effectiveOptions_eq` and `SameAt.block?_eq` say that the
  options that hold for it, and its block, are the same then.
* `Schema.schema_federate` says that the text is made of blocks.  So types that are
  put elsewhere, added or changed leave the blocks of all others alone
  (`Schema.federate_local`).
-/

namespace Subgraph

namespace Schema

/-! ## What a type can come to -/

/-- The names that a type can come to: its own, and those that fields of an object type refer to,
but for lists. -/
inductive Reaches (schema : Schema) (start : Name) : Name → Prop
  | refl : Reaches schema start start
  | step {name : Name} {type : TypeDefinition} {fields : List FieldDefinition}
      {field : FieldDefinition} (before : Reaches schema start name)
      (found : schema.find? name = some type) (isObject : type.objectFields? = some fields)
      (member : field ∈ fields) (isPlain : field.type.isList = false) :
      Reaches schema start field.type.innermost

/-- A type comes to no more than some names do that are closed under what fields refer to. -/
theorem Reaches.mem_of_closed {schema : Schema} {start name : Name} {names : List Name}
    (reaches : schema.Reaches start name) (starts : start ∈ names)
    (closed : ∀ inner ∈ names,
      ∀ field ∈ ((schema.find? inner).bind TypeDefinition.objectFields?).getD [],
        field.type.isList = false → field.type.innermost ∈ names) :
    name ∈ names := by
  induction reaches with
  | refl => exact starts
  | step _ found isObject member isPlain ih =>
      refine closed _ ih _ ?_ isPlain
      rw [found, Option.bind_some, isObject]
      exact member

/-- Two schemas and two options are the same as far as a type can come. -/
structure SameAt (schema other : Schema) (options options' : Options) (start : Name) : Prop where
  /-- The options say the same about the type. -/
  said : options.typeOptions? start.text = options'.typeOptions? start.text
  /-- What the type can come to looks the same, or is missing. -/
  reached : ∀ name, schema.Reaches start name →
    (schema.find? name).map TypeDefinition.outline = (other.find? name).map TypeDefinition.outline

/-- The type of a name that the document defines. -/
def declared? (schema : Schema) (name : Name) : Option TypeDefinition :=
  (schema.find? name).filter fun type => !BuiltIn.isName type.name

theorem declared?_eq_some_iff {schema : Schema} {name : Name} {type : TypeDefinition} :
    schema.declared? name = some type ↔ type ∈ schema.declared ∧ type.name = name := by
  rw [declared?, Option.filter_eq_some_iff, declared, List.mem_filter]
  constructor
  · rintro ⟨found, isDeclared⟩
    have named : type.name = name := by simpa using List.find?_some found
    exact ⟨⟨List.mem_of_find?_eq_some found, isDeclared⟩, named⟩
  · rintro ⟨⟨member, isDeclared⟩, rfl⟩
    exact ⟨find?_of_mem member, isDeclared⟩

theorem find?_eq_some_iff {schema : Schema} {name : Name} {type : TypeDefinition} :
    schema.find? name = some type ↔ type ∈ schema.types ∧ type.name = name := by
  constructor
  · intro found
    have named : type.name = name := by simpa using List.find?_some found
    exact ⟨List.mem_of_find?_eq_some found, named⟩
  · rintro ⟨member, rfl⟩
    exact find?_of_mem member

/-- The names of the types, in order. -/
def names (schema : Schema) : List Name := schema.types.map (·.name)

theorem find?_isSome_iff {schema : Schema} {name : Name} :
    (schema.find? name).isSome = true ↔ name ∈ schema.names := by
  rw [Option.isSome_iff_exists, names, List.mem_map]
  exact exists_congr fun type => find?_eq_some_iff

end Schema

/-- The defaults say what is missing about a type. -/
theorem Options.find?_types_defaults_eq_bind (schema : Schema) (options : Options)
    (resolvers : ResolverTable) (name : Name) :
    (defaults schema options resolvers).types.find? name.text =
      (schema.declared? name).bind (gap? schema options) := by
  cases declared : schema.declared? name with
  | some type =>
      obtain ⟨member, rfl⟩ := Schema.declared?_eq_some_iff.1 declared
      exact find?_types_defaults member
  | none =>
      cases found : (defaults schema options resolvers).types.find? name.text with
      | none => rfl
      | some gap =>
          obtain ⟨type, member, named, _⟩ := exists_declared_of_find?_types_defaults found
          rw [Schema.declared?_eq_some_iff.2 ⟨member, Name.text_injective named⟩] at declared
          cases declared

/-! ## The same as far as a type can come -/

section

variable {schema other : Schema} {options options' : Options} {name : Name}

namespace Key

/-- What a search sees of a kind is told by what is declared of it. -/
theorem form_eq_of_declaration? {body body' : TypeBody}
    (same : body.declaration? = body'.declaration?) : form body = form body' := by
  cases body with
  | scalar =>
      cases body' with
      | scalar => rfl
      | _ => simp [TypeBody.declaration?] at same
  | object _ fields =>
      cases body' with
      | object _ fields' =>
          have told (fields : List FieldDefinition) : fields.map sight =
              (fields.map FieldDefinition.declaration).map fun field =>
                (field.name, field.type) := by
            rw [List.map_map]
            rfl
          rw [TypeBody.declaration?, TypeBody.declaration?, Option.some.injEq,
            DeclarationBody.object.injEq] at same
          rw [form, form, told, told, same]
      | _ => simp [TypeBody.declaration?] at same
  | interface | union | enum | input =>
      cases body' with
      | scalar | object => simp [TypeBody.declaration?] at same
      | _ => rfl

theorem formOf_eq_of_outline (same : (schema.find? name).map TypeDefinition.outline =
    (other.find? name).map TypeDefinition.outline) :
    formOf schema.types name = formOf other.types name := by
  change (schema.find? name).map _ = (other.find? name).map _
  cases found : schema.find? name with
  | none =>
      rw [found] at same
      rw [Option.map_eq_none_iff.1 same.symm]
  | some type =>
      rw [found] at same
      obtain ⟨type', found', sameOutline⟩ := Option.map_eq_some_iff.1 same.symm
      rw [found']
      exact congrArg some (form_eq_of_declaration? (congrArg (·.2.2) sameOutline)).symm

theorem exists_of_formOf_eq_object {fields : List (Name × TypeReference)}
    (seen : formOf schema.types name = some (.object fields)) :
    ∃ type inner, schema.find? name = some type ∧ type.objectFields? = some inner ∧
      inner.map sight = fields := by
  obtain ⟨type, found, seen⟩ := Option.map_eq_some_iff.1 seen
  obtain ⟨description, named, directives, body⟩ := type
  cases body with
  | object interfaces inner => exact ⟨_, inner, found, rfl, Form.object.inj seen⟩
  | _ => cases seen

/-- A search enters no type that its start does not come to. -/
theorem isClosed_reaches (schema : Schema) (start : Name) :
    IsClosed (schema.Reaches start) schema.types := by
  intro name fields reached seen field member isPlain
  obtain ⟨type, inner, found, isObject, rfl⟩ := exists_of_formOf_eq_object seen
  obtain ⟨own, among, rfl⟩ := List.mem_map.1 member
  exact reached.step found isObject among isPlain

end Key

namespace Schema

namespace SameAt

variable (same : schema.SameAt other options options' name)

include same

theorem declared?_eq : (schema.declared? name).map TypeDefinition.outline =
    (other.declared? name).map TypeDefinition.outline := by
  have filtered (schema : Schema) : (schema.declared? name).map TypeDefinition.outline =
      ((schema.find? name).map TypeDefinition.outline).filter
        fun outline => !BuiltIn.isName outline.1 := by
    rw [Option.filter_map]
    rfl
  rw [filtered, filtered, same.reached name .refl]

/-- The same key is inferred. -/
theorem infer?_eq {type type' : TypeDefinition} (found : schema.find? name = some type)
    (alike : type.outline = type'.outline) : Key.infer? schema type = Key.infer? other type' := by
  have agree : Key.Agree (schema.Reaches name) schema.types other.types := fun inner reached =>
    Key.formOf_eq_of_outline (same.reached inner reached)
  refine Key.infer?_congr agree (Key.isClosed_reaches schema name) alike
    fun field member isPlain => ?_
  cases isObject : type.objectFields? with
  | none =>
      rw [isObject] at member
      cases member
  | some fields =>
      rw [isObject] at member
      exact Reaches.refl.step found isObject member isPlain

/-- The same is missing. -/
theorem bind_gap?_eq : (schema.declared? name).bind (options.gap? schema) =
    (other.declared? name).bind (options'.gap? other) := by
  have alike := same.declared?_eq
  cases declared : schema.declared? name with
  | none =>
      rw [declared] at alike
      rw [Option.map_eq_none_iff.1 alike.symm]
      rfl
  | some type =>
      rw [declared] at alike
      obtain ⟨type', declared', sameOutline⟩ := Option.map_eq_some_iff.1 alike.symm
      obtain ⟨found, _⟩ := Option.filter_eq_some_iff.1 declared
      have named : type.name = name := (declared?_eq_some_iff.1 declared).2
      rw [declared', Option.bind_some, Option.bind_some]
      exact Options.gap?_congr sameOutline.symm (same.infer?_eq found sameOutline.symm)
        (named ▸ same.said)

/-- The same options hold. -/
theorem typeOptions?_effectiveOptions_eq (auto : options.auto = options'.auto)
    (given given' : ResolverTable) :
    (schema.effectiveOptions given options).typeOptions? name.text =
      (other.effectiveOptions given' options').typeOptions? name.text := by
  have said : options.types.find? name.text = options'.types.find? name.text := same.said
  rw [effectiveOptions, effectiveOptions, ← auto]
  cases options.auto with
  | false => exact said
  | true =>
      change (Options.mergeTypes _ _).find? name.text = (Options.mergeTypes _ _).find? name.text
      rw [Options.find?_mergeTypes, Options.find?_mergeTypes, said,
        Options.find?_types_defaults_eq_bind, Options.find?_types_defaults_eq_bind,
        same.bind_gap?_eq]

end SameAt

end Schema

end

/-! ## Blocks -/

namespace Schema

/-- The block of a type in the text of the federated schema: none for an interface, or a type that
is built in or missing. -/
def block? (schema : Schema) (resolvers : ResolverTable) (options : Options) (name : Name) :
    Option String :=
  ((schema.declared? name).bind TypeDefinition.declaration?).map fun declaration =>
    declaration.text (Sdl.optionsOf (schema.effectiveOptions resolvers options).types declaration)

/-- The blocks, in the order of the types. -/
def blocks (schema : Schema) (resolvers : ResolverTable) (options : Options) : List String :=
  schema.names.filterMap (schema.block? resolvers options)

/-- A federated schema is made of blocks, with line feeds between them. -/
theorem schema_federate {schema : Schema} {resolvers : ResolverTable} {options : Options}
    {federated : FederatedService} (accepted : schema.federate resolvers options = .ok federated) :
    federated.schema = "\n".intercalate (schema.blocks resolvers options) := by
  obtain ⟨_, rfl⟩ := federate_eq_ok_iff.1 accepted
  change Sdl.render _ _ = _
  rw [Sdl.render_eq_intercalate, declarations, declared, blocks, names, List.filterMap_filter,
    List.map_filterMap, List.filterMap_map]
  refine congrArg _ (List.filterMap_congr fun type member => ?_)
  rw [Function.comp_apply, block?, declared?, find?_of_mem member, Option.filter_some]
  cases BuiltIn.isName type.name <;> rfl

/-- A type that is declared and no interface has a block. -/
theorem block?_isSome {schema : Schema} {type : TypeDefinition} (member : type ∈ schema.declared)
    (noInterface : ∀ interfaces fields, type.body ≠ .interface interfaces fields)
    (resolvers : ResolverTable) (options : Options) :
    (schema.block? resolvers options type.name).isSome = true := by
  rw [block?, declared?_eq_some_iff.2 ⟨member, rfl⟩, Option.bind_some, Option.isSome_map,
    TypeDefinition.declaration?, Option.isSome_map]
  cases body : type.body with
  | interface interfaces fields => exact absurd body (noInterface _ _)
  | _ => rfl

section

variable {schema other : Schema} {options options' : Options} {name : Name}

theorem SameAt.block?_eq (same : schema.SameAt other options options' name)
    (auto : options.auto = options'.auto) (given given' : ResolverTable) :
    schema.block? given options name = other.block? given' options' name := by
  have hold := same.typeOptions?_effectiveOptions_eq auto given given'
  have alike : (schema.declared? name).bind TypeDefinition.declaration? =
      (other.declared? name).bind TypeDefinition.declaration? := by
    have outlines := same.declared?_eq
    cases declared : schema.declared? name with
    | none =>
        rw [declared] at outlines
        rw [Option.map_eq_none_iff.1 outlines.symm]
    | some type =>
        rw [declared] at outlines
        obtain ⟨type', declared', sameOutline⟩ := Option.map_eq_some_iff.1 outlines.symm
        rw [declared']
        exact (TypeDefinition.declaration?_of_outline sameOutline).symm
  rw [block?, block?, ← alike]
  refine Option.map_congr fun declaration isDeclared => ?_
  obtain ⟨type, declared, told⟩ := Option.bind_eq_some_iff.1 isDeclared
  have named : declaration.name = name := by
    obtain ⟨body, _, rfl⟩ := Option.map_eq_some_iff.1 told
    exact (declared?_eq_some_iff.1 declared).2
  rw [Sdl.optionsOf, Sdl.optionsOf, named]
  exact congrArg (fun said : Option TypeOptions => declaration.text (said.getD {})) hold

theorem SameAt.mem_names_iff (same : schema.SameAt other options options' name) :
    name ∈ schema.names ↔ name ∈ other.names := by
  rw [← find?_isSome_iff, ← find?_isSome_iff, ← Option.isSome_map (f := TypeDefinition.outline),
    same.reached name .refl, Option.isSome_map]

/-- In another order, the types come to the same. -/
theorem sameAt_of_perm (moved : schema.types.Perm other.types)
    (said : ∀ name, options.typeOptions? name = options'.typeOptions? name) (start : Name) :
    schema.SameAt other options options' start where
  said := said _
  reached name _ := by
    have found : schema.find? name = other.find? name := by
      ext type
      rw [find?_eq_some_iff, find?_eq_some_iff, moved.mem_iff]
    rw [found]

/-- What a type becomes depends on what the options say about it, and on the types that it can come
to.  The text is made of one block for each type.  So the blocks of types that are the same as far
as they can come are the same, in the order that the types have, and none goes when types are put
elsewhere or added. -/
theorem federate_local (schema other : Schema) (options options' : Options)
    (given given' : ResolverTable) (auto : options.auto = options'.auto) :
    (∀ name, schema.SameAt other options options' name →
      (schema.effectiveOptions given options).typeOptions? name.text =
          (other.effectiveOptions given' options').typeOptions? name.text ∧
        schema.block? given options name = other.block? given' options' name) ∧
      (∀ kept : Name → Bool,
        (∀ name, kept name = true → schema.SameAt other options options' name) →
          ((schema.names.filter kept).filterMap (schema.block? given options)).Perm
            ((other.names.filter kept).filterMap (other.block? given' options'))) ∧
      (schema.types.Perm other.types →
        (∀ name, options.typeOptions? name = options'.typeOptions? name) →
          (schema.blocks given options).Perm (other.blocks given' options')) ∧
      (schema.names.Sublist other.names →
        (∀ name ∈ schema.names, schema.SameAt other options options' name) →
          (schema.blocks given options).Sublist (other.blocks given' options')) ∧
      (∀ type ∈ schema.declared,
        (∀ interfaces fields, type.body ≠ .interface interfaces fields) →
          (schema.block? given options type.name).isSome = true) ∧
      ∀ federated, schema.federate given options = .ok federated →
        federated.schema = "\n".intercalate (schema.blocks given options) := by
  have blocks (names : List Name)
      (same : ∀ name ∈ names, schema.SameAt other options options' name) :
      names.filterMap (schema.block? given options) =
        names.filterMap (other.block? given' options') :=
    List.filterMap_congr fun name member => (same name member).block?_eq auto given given'
  refine ⟨fun name same => ⟨same.typeOptions?_effectiveOptions_eq auto given given',
    same.block?_eq auto given given'⟩, fun kept same => ?_, fun moved said => ?_,
    fun added same => ?_, fun type member noInterface => block?_isSome member noInterface _ _,
    fun federated accepted => schema_federate accepted⟩
  · have keep (names : List Name) : ∀ name ∈ names.filter kept,
        schema.SameAt other options options' name := fun name member =>
      same name (List.mem_filter.1 member).2
    rw [blocks _ (keep _)]
    refine List.Perm.filterMap _ ((List.perm_ext_iff_of_nodup (schema.distinct.filter _)
      (other.distinct.filter _)).2 fun name => ?_)
    rw [List.mem_filter, List.mem_filter]
    exact and_congr_left fun isKept => (same name isKept).mem_names_iff
  · rw [Schema.blocks, blocks _ fun name _ => sameAt_of_perm moved said name]
    exact (moved.map _).filterMap _
  · rw [Schema.blocks, blocks _ same]
    exact added.filterMap _

end

/-- The schema of users with one type more. -/
def groups : Schema where
  types :=
    { name := ⟨"Group", by decide⟩,
      body := .object [] [{ name := ⟨"owner", by decide⟩,
                            type := .named usersUser.name true }] } ::
      users.types
  directives := []
  roots := users.roots
  distinct := by decide

/-- The schema of users with its types the other way round. -/
def usersReversed : Schema where
  types := users.types.reverse
  directives := []
  roots := users.roots
  distinct := by decide

/-- Options that say something about the type that is added. -/
def groupOptions : Options where
  auto := true
  types := .ofList [("Group", { directives := some "@shareable" })]

/-- No type of the schema of users comes to the type that is added. -/
theorem sameAt_groups {start : Name} (member : start ∈ users.names) :
    users.SameAt groups .automatic groupOptions start where
  said := by
    have unsaid : ∀ name ∈ users.names, groupOptions.typeOptions? name.text = none := by decide
    exact (unsaid start member).symm
  reached name reaches := by
    have closed : ∀ inner ∈ BuiltIn.id :: users.names,
        ∀ field ∈ ((users.find? inner).bind TypeDefinition.objectFields?).getD [],
          field.type.isList = false → field.type.innermost ∈ BuiltIn.id :: users.names := by
      decide
    have among := reaches.mem_of_closed (List.mem_cons_of_mem _ member) closed
    have other : ∀ name ∈ BuiltIn.id :: users.names, name ≠ ⟨"Group", by decide⟩ := by decide
    have found : groups.find? name = users.find? name :=
      List.find?_cons_of_neg (by simpa using (other name among).symm)
    rw [found]

theorem federate_local_groups :
    (users.blocks .empty .automatic).Sublist (groups.blocks .empty groupOptions) ∧
      users.block? .empty .automatic ⟨"User", by decide⟩ =
        groups.block? .empty groupOptions ⟨"User", by decide⟩ ∧
      ((users.names.filter (· ∈ users.names)).filterMap (users.block? .empty .automatic)).Perm
        ((groups.names.filter (· ∈ users.names)).filterMap (groups.block? .empty groupOptions)) ∧
      (users.blocks .empty .automatic).Perm (usersReversed.blocks .empty .automatic) := by
  obtain ⟨each, kept, _, added, _, _⟩ :=
    federate_local users groups .automatic groupOptions .empty .empty rfl
  obtain ⟨_, _, moved, _⟩ :=
    federate_local users usersReversed .automatic .automatic .empty .empty rfl
  exact ⟨added (List.sublist_cons_self _ _) fun name => sameAt_groups,
    (each _ (sameAt_groups (by decide))).2,
    kept _ fun name member => sameAt_groups (of_decide_eq_true member),
    moved (List.reverse_perm _).symm fun _ => rfl⟩

end Schema

end Subgraph
