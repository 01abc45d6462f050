import Subgraph.Proofs.Federated.Reach
import Subgraph.Proofs.Schema.Extended
import Subgraph.Proofs.Schema.KeyChain

/-!
# Keys as selections

A key is a selection of fields.  It is well formed when its last field is of a
leaf type, since a field of any other type needs a selection of its own.

* `Key.IsSelection` says which paths are well-formed selections on a type.
* The last type of a chain decides (`Key.Chain.isLeaf_iff`), by what its fields
  offer: `Key.Offers`.  It need not be the type that the key is for.
* `Key.infer?_isSelection_iff` says this of inferred keys.  They are well formed
  where every type that can be come to offers an end.
-/

namespace Subgraph

namespace Key

/-! ## Selections -/

section

variable (schema : Schema)

/-- A reference to a scalar or an enum, which may be wrapped. -/
def IsLeaf (reference : TypeReference) : Prop :=
  ∃ type, schema.find? reference.innermost = some type ∧
    (type.body = .scalar ∨ ∃ values, type.body = .enum values)

/-- A path is a selection on an object type: each field is one of its type, the ones before the last
are of an object type on which the rest is a selection, and the last one is of a leaf type. -/
inductive IsSelection : TypeDefinition → List Name → Prop
  | leaf {type fields field} :
      type.objectFields? = some fields → field ∈ fields → IsLeaf schema field.type →
      IsSelection type [field.name]
  | inside {type fields field next rest} :
      type.objectFields? = some fields → field ∈ fields →
      schema.find? field.type.innermost = some next → next.isObject = true →
      IsSelection next rest → IsSelection type (field.name :: rest)

/-- Some fields offer an end for a key: one of the type of identifiers, one that is no list and of
scalar type, or a first one of a leaf type. -/
def Offers (fields : List FieldDefinition) : Prop :=
  (∃ field ∈ fields, field.type.innermost = BuiltIn.id) ∨
    (∃ field ∈ fields, IsScalarField schema field) ∨
    ∃ first, fields.head? = some first ∧ IsLeaf schema first.type

/-- The type of identifiers is a scalar. -/
def HasIdentifiers : Prop := ∃ type, schema.find? BuiltIn.id = some type ∧ type.body = .scalar

/-- No object type has two fields of one name. -/
def HasDistinctFields : Prop :=
  ∀ type ∈ schema.types, ∀ fields, type.objectFields? = some fields → (fields.map (·.name)).Nodup

end

variable {schema : Schema} {entered : List Name} {type : TypeDefinition}
  {fields : List FieldDefinition} {steps : List Step}

theorem IsScalarField.isLeaf {field : FieldDefinition} (isScalar : IsScalarField schema field) :
    IsLeaf schema field.type := by
  obtain ⟨type, found, scalar⟩ := isScalar.scalar
  exact ⟨type, found, .inl scalar⟩

theorem isLeaf_of_id (identifiers : HasIdentifiers schema) {field : FieldDefinition}
    (isId : field.type.innermost = BuiltIn.id) : IsLeaf schema field.type := by
  obtain ⟨type, found, scalar⟩ := identifiers
  exact ⟨type, isId ▸ found, .inl scalar⟩

/-! ### One field -/

section

variable (distinct : (fields.map (·.name)).Nodup) (isObject : type.objectFields? = some fields)
  {field : FieldDefinition} (member : field ∈ fields)
include distinct isObject member

/-- The field of a type under its name. -/
theorem eq_of_name {others : List FieldDefinition} {other : FieldDefinition}
    (isObject' : type.objectFields? = some others) (among : other ∈ others)
    (same : other.name = field.name) : other = field := by
  cases isObject.symm.trans isObject'
  exact List.inj_on_of_nodup_map distinct among member same

theorem isSelection_single_iff :
    IsSelection schema type [field.name] ↔ IsLeaf schema field.type := by
  constructor
  · intro selection
    generalize named : [field.name] = path at selection
    cases selection with
    | leaf isObject' among isLeaf =>
        rwa [eq_of_name distinct isObject member isObject' among (List.cons.inj named).1.symm]
          at isLeaf
    | inside _ _ _ _ deeper =>
        rw [← (List.cons.inj named).2] at deeper
        cases deeper
  · exact fun isLeaf => .leaf isObject member isLeaf

/-- In front of more fields, a field has to be of an object type on which they are a selection. -/
theorem isSelection_cons_iff {next : TypeDefinition} {path : List Name} (more : path ≠ [])
    (found : schema.find? field.type.innermost = some next) (through : next.isObject = true) :
    IsSelection schema type (field.name :: path) ↔ IsSelection schema next path := by
  constructor
  · intro selection
    generalize named : field.name :: path = whole at selection
    cases selection with
    | leaf => exact absurd (List.cons.inj named).2 more
    | inside isObject' among found' _ deeper =>
        rw [eq_of_name distinct isObject member isObject' among (List.cons.inj named).1.symm,
          found] at found'
        cases found'
        rwa [(List.cons.inj named).2]
  · exact fun deeper => .inside isObject member found through deeper

end

/-! ## The end of a chain -/

/-- How a chain of a type ends: with a field of an object type, behind fields that are of object
types.  It is of a leaf type if and only if the fields of its type offer an end, and then the path
along the chain is a selection, and not otherwise. -/
structure Ends (schema : Schema) (type : TypeDefinition) (before : List Step) (last : Step)
    (fields : List FieldDefinition) : Prop where
  isObject : last.type.objectFields? = some fields
  member : last.field ∈ fields
  through : ∀ step ∈ before, ∃ next, schema.find? step.field.type.innermost = some next ∧
    next.isObject = true
  isLeaf_iff : IsLeaf schema last.field.type ↔ Offers schema fields
  isSelection_iff : IsSelection schema type ((before ++ [last]).map (·.field.name)) ↔
    IsLeaf schema last.field.type

/-- A chain of one step ends there. -/
theorem ends_single (distinct : (fields.map (·.name)).Nodup)
    (isObject : type.objectFields? = some fields) {field : FieldDefinition}
    (member : field ∈ fields) (isLeaf_iff : IsLeaf schema field.type ↔ Offers schema fields) :
    Ends schema type [] ⟨type, field⟩ fields :=
  ⟨isObject, member, nofun, isLeaf_iff, isSelection_single_iff distinct isObject member⟩

/-- Every chain ends, by induction on the chain. -/
theorem Chain.exists_ends (identifiers : HasIdentifiers schema)
    (distinct : HasDistinctFields schema) (chain : Chain schema entered type steps)
    (known : type ∈ schema.types) :
    ∃ before last fields, steps = before ++ [last] ∧ Ends schema type before last fields := by
  induction chain with
  | @id _ _ earlier field later isObject lacks isId =>
      have member : field ∈ earlier ++ field :: later := by simp
      have offers : Offers schema _ := .inl ⟨field, member, isId⟩
      exact ⟨[], _, _, rfl, ends_single (distinct _ known _ isObject) isObject member
        (iff_of_true (isLeaf_of_id identifiers isId) offers)⟩
  | @scalar _ _ earlier field later isObject lacks passed isScalar =>
      have member : field ∈ earlier ++ field :: later := by simp
      have offers : Offers schema _ := .inr (.inl ⟨field, member, isScalar⟩)
      exact ⟨[], _, _, rfl, ends_single (distinct _ known _ isObject) isObject member
        (iff_of_true isScalar.isLeaf offers)⟩
  | @object _ _ _ field _ next _ isObject lacks passed enters deeper ih =>
      obtain ⟨before, last, fields, rfl, ends⟩ := ih enters.mem
      have through : next.isObject = true := by
        obtain ⟨first, others, nextObject⟩ := enters.objectFields?
        rw [TypeDefinition.isObject, nextObject]
        rfl
      have goesOn := isSelection_cons_iff (distinct _ known _ isObject) isObject (by simp)
        (by simp : (before ++ [last]).map (·.field.name) ≠ []) enters.found through
      exact ⟨_ :: before, last, fields, rfl, ends.isObject, ends.member,
        List.forall_mem_cons.2 ⟨⟨next, enters.found, through⟩, ends.through⟩, ends.isLeaf_iff,
        goesOn.trans ends.isSelection_iff⟩
  | @first _ _ field later isObject lacks passed =>
      have isLeaf_iff : IsLeaf schema field.type ↔ Offers schema (field :: later) := by
        refine ⟨fun isLeaf => .inr (.inr ⟨field, rfl, isLeaf⟩), ?_⟩
        rintro (⟨other, among, isId⟩ | ⟨other, among, isScalar⟩ | ⟨other, isFirst, isLeaf⟩)
        · exact absurd isId (lacks other among)
        · exact absurd isScalar (passed other among).1
        · cases isFirst
          exact isLeaf
      exact ⟨[], _, _, rfl, ends_single (distinct _ known _ isObject) isObject
        List.mem_cons_self isLeaf_iff⟩

/-- A type comes to every type of its chain, by induction on the chain. -/
theorem Chain.reaches (chain : Chain schema entered type steps) (known : type ∈ schema.types)
    {start : Name} (came : schema.Reaches start type.name) :
    ∀ step ∈ steps, schema.Reaches start step.type.name := by
  induction chain with
  | id | scalar | first =>
      intro step inside
      cases List.mem_singleton.1 inside
      exact came
  | @object _ _ _ field _ next _ isObject _ _ enters _ ih =>
      have cameOn : schema.Reaches start next.name := by
        rw [enters.name_eq]
        exact .step came (Schema.find?_of_mem known) isObject (by simp) enters.notList
      exact List.forall_mem_cons.2 ⟨came, ih enters.mem cameOn⟩

/-! ## Schemas of documents -/

section

variable {document : Document} (built : Schema.ofDocument? document = some schema)
include built

theorem hasIdentifiers_of_ofDocument? : HasIdentifiers schema := by
  obtain ⟨builtIn, append, same⟩ := Schema.exists_types_eq_append built
  have among : (BuiltIn.id, (TypeBody.scalar).kind) ∈
      builtIn.map fun type => (type.name, type.body.kind) := by
    rw [same]
    exact List.mem_map.2 ⟨{ name := BuiltIn.id, body := .scalar }, by
      simp [BuiltIn.types, BuiltIn.scalarNames], rfl⟩
  obtain ⟨type, inside, isId⟩ := List.mem_map.1 among
  obtain ⟨named, isKind⟩ := Prod.mk.inj isId
  have member : type ∈ schema.types := append ▸ List.mem_append_left _ inside
  refine ⟨type, named ▸ Schema.find?_of_mem member, ?_⟩
  cases body : type.body with
  | scalar => rfl
  | _ =>
      rw [body] at isKind
      cases isKind

theorem hasDistinctFields_of_ofDocument? : HasDistinctFields schema := by
  intro type member fields isObject
  obtain ⟨-, -, found⟩ := Schema.of_ofDocument?_eq_some built
  have distinct := (Schema.of_types?_eq_some found).2 type member
  unfold TypeDefinition.objectFields? at isObject
  split at isObject
  next interfaces inner body =>
      cases isObject
      rw [body] at distinct
      exact distinct.2
  next => cases isObject

end

/-! ## Inferred keys -/

/-- The key of an object type with a field leads along the chain of the type.  All its fields but
the last are of object types, and it is a well-formed selection if and only if the fields of the
last type offer an end.  They do where the fields of every type offer one that the type can come
to. -/
theorem infer?_isSelection_iff {document : Document}
    (built : Schema.ofDocument? document = some schema) (known : type ∈ schema.types)
    (isObject : type.objectFields? = some fields) (hasField : fields ≠ []) :
    ∃ before last offered path, Chain schema [] type (before ++ [last]) ∧
      infer? schema type = some path ∧ path = (before ++ [last]).map (·.field.name) ∧
      (∀ step ∈ before, ∃ next, schema.find? step.field.type.innermost = some next ∧
        next.isObject = true) ∧
      last.type.objectFields? = some offered ∧ last.field ∈ offered ∧
      (IsSelection schema type path ↔ Offers schema offered) ∧
      ((∀ name, schema.Reaches type.name name → ∀ next, schema.find? name = some next →
          ∀ inner, next.objectFields? = some inner → inner ≠ [] → Offers schema inner) →
        IsSelection schema type path) := by
  obtain ⟨steps, chain, inferred⟩ := exists_chain_infer? isObject hasField
  obtain ⟨before, last, offered, rfl, ends⟩ := chain.exists_ends
    (hasIdentifiers_of_ofDocument? built) (hasDistinctFields_of_ofDocument? built) known
  have decides := ends.isSelection_iff.trans ends.isLeaf_iff
  refine ⟨before, last, offered, _, chain, inferred, rfl, ends.through, ends.isObject, ends.member,
    decides, fun offers => decides.2 ?_⟩
  have inside : last ∈ before ++ [last] := by simp
  have lastKnown := (chain.isDeclared known last inside).1
  exact offers last.type.name (chain.reaches known .refl last inside) last.type
    (Schema.find?_of_mem lastKnown) offered ends.isObject (List.ne_nil_of_mem ends.member)

/-! ## Types that refer to each other -/

/-- A field of a type whose author has a type. -/
def authorField : FieldDefinition where
  name := ⟨"author", by decide⟩
  type := .named ⟨"Reviewer", by decide⟩ false

/-- The field of the author that refers back. -/
def latestField : FieldDefinition where
  name := ⟨"latest", by decide⟩
  type := .named ⟨"Review", by decide⟩ false

/-- A type with an author. -/
def reviewType : TypeDefinition where
  name := ⟨"Review", by decide⟩
  body := .object [] [authorField, sizeField]

/-- The type of the author. -/
def authorType : TypeDefinition where
  name := ⟨"Reviewer", by decide⟩
  body := .object [] [latestField, sizeField]

/-- A schema in which every type with a field offers an end for a key. -/
def reviews : Schema where
  types := BuiltIn.types ++ [reviewType, authorType]
  directives := []
  roots := []
  distinct := by decide +kernel

theorem ofDocument?_reviews :
    Schema.ofDocument? (Document.ofParts [] [] [reviewType, authorType]) = some reviews :=
  Schema.ofDocument?_ofParts_eq_some_iff.2
    ⟨List.nodup_nil, by decide +kernel, by decide +kernel, rfl, rfl⟩

/-- The types that the reviewed type can come to offer an end. -/
theorem offers_reviews (name : Name) (reaches : reviews.Reaches reviewType.name name)
    (next : TypeDefinition) (found : reviews.find? name = some next)
    (inner : List FieldDefinition) (isObject : next.objectFields? = some inner)
    (hasField : inner ≠ []) : Offers reviews inner := by
  have closed : ∀ start ∈ [reviewType.name, authorType.name, BuiltIn.string],
      ∀ field ∈ ((reviews.find? start).bind TypeDefinition.objectFields?).getD [],
        field.type.isList = false →
          field.type.innermost ∈ [reviewType.name, authorType.name, BuiltIn.string] := by
    decide +kernel
  have isString : { name := BuiltIn.string, body := .scalar } ∈ reviews.types := by
    simp [reviews, BuiltIn.types, BuiltIn.scalarNames]
  have isReview : reviewType ∈ reviews.types := by simp [reviews]
  have isAuthor : authorType ∈ reviews.types := by simp [reviews]
  have isScalar : IsScalarField reviews sizeField := ⟨rfl, _, Schema.find?_of_mem isString, rfl⟩
  have among := reaches.mem_of_closed List.mem_cons_self closed
  simp only [List.mem_cons, List.not_mem_nil, or_false] at among
  rcases among with rfl | rfl | rfl
  · cases (Schema.find?_of_mem isReview).symm.trans found
    cases isObject
    exact .inr (.inl ⟨sizeField, by simp, isScalar⟩)
  · cases (Schema.find?_of_mem isAuthor).symm.trans found
    cases isObject
    exact .inr (.inl ⟨sizeField, by simp, isScalar⟩)
  · cases (Schema.find?_of_mem isString).symm.trans found
    cases isObject

/-- The key leads into the other type, which does not refer back for it, and is well formed. -/
theorem infer?_isSelection_reviews :
    Schema.ofDocument? (Document.ofParts [] [] [reviewType, authorType]) = some reviews ∧
      reviewType ∈ reviews.types ∧ reviewType.objectFields? = some [authorField, sizeField] ∧
      ∃ path, infer? reviews reviewType = some path ∧ IsSelection reviews reviewType path := by
  have known : reviewType ∈ reviews.types := by simp [reviews]
  obtain ⟨_, _, _, path, _, inferred, _, _, _, _, _, offers⟩ :=
    infer?_isSelection_iff ofDocument?_reviews known rfl (List.cons_ne_nil _ _)
  exact ⟨ofDocument?_reviews, known, rfl, path, inferred, offers offers_reviews⟩

theorem ofDocument?_pair :
    Schema.ofDocument? (Document.ofParts [] [] [leftType, rightType]) = some pair :=
  Schema.ofDocument?_ofParts_eq_some_iff.2
    ⟨List.nodup_nil, by decide +kernel, by decide +kernel, rfl, rfl⟩

/-- From the type with a scalar, the chain goes into the type without one, and ends there. -/
theorem chain_pair_right :
    Chain pair [] rightType [⟨rightType, leftField⟩, ⟨leftType, rightField⟩] := by
  have right : rightType.objectFields? = some ([] ++ leftField :: [sizeField]) := rfl
  have left : leftType.objectFields? = some [rightField] := rfl
  have enters : Enters pair [rightType.name] leftField leftType :=
    ⟨rfl, Schema.find?_of_mem leftType_mem_pair, ⟨[], rightField, [], rfl⟩, by decide⟩
  exact .object right (by decide) (by decide) enters (.first left (by decide) (by decide +kernel))

/-- A type that offers an end itself may get a key that is no selection: another type, which the key
leads into, offers none. -/
theorem not_isSelection_of_isScalarField : ¬ ∀ (document : Document) (schema : Schema)
    (type : TypeDefinition) (fields : List FieldDefinition) (path : List Name),
    Schema.ofDocument? document = some schema → type ∈ schema.types →
    type.objectFields? = some fields → (∃ field ∈ fields, IsScalarField schema field) →
    infer? schema type = some path → IsSelection schema type path := by
  intro all
  have isString : { name := BuiltIn.string, body := .scalar } ∈ pair.types := by
    simp [pair, BuiltIn.types, BuiltIn.scalarNames]
  have isScalar : IsScalarField pair sizeField := ⟨rfl, _, Schema.find?_of_mem isString, rfl⟩
  have known : rightType ∈ pair.types := by simp [pair]
  have isObject : rightType.objectFields? = some [leftField, sizeField] := rfl
  obtain ⟨steps, chain, inferred⟩ := exists_chain_infer? isObject (List.cons_ne_nil _ _)
  cases chain.unique chain_pair_right
  have selection := all _ _ _ _ _ ofDocument?_pair known isObject
    ⟨sizeField, by simp, isScalar⟩ inferred
  have inLeft : IsSelection pair leftType [rightField.name] :=
    (isSelection_cons_iff (by decide) isObject List.mem_cons_self (List.cons_ne_nil _ _)
      (Schema.find?_of_mem leftType_mem_pair) rfl).1 selection
  have isLeaf : IsLeaf pair rightField.type :=
    (isSelection_single_iff (by decide) rfl List.mem_cons_self).1 inLeft
  obtain ⟨type, found, scalar | ⟨values, enum⟩⟩ := isLeaf
  · cases (Schema.find?_of_mem known).symm.trans found
    cases scalar
  · cases (Schema.find?_of_mem known).symm.trans found
    cases enum

end Key

end Subgraph
