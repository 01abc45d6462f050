import Subgraph.Proofs.Introspection.Encoding
import Subgraph.Proofs.Schema.Parts

/-!
# Schemas of documents with extensions

What a type is after its extensions, and what a schema has of its document.

* `Document.extended?_induction`: what a definition has, and what an extension
  keeps, the extended type has.
* `Schema.exists_types_eq_append`: the built-in types come first, each under its
  name and of its kind, and the declared ones after them.
* `Schema.forall_inputValues`: what is true of the arguments and input fields of a
  document is true of those of its schema.
-/

namespace Subgraph

/-! ## Extended types -/

namespace TypeDefinition

/-- An extension is of the kind of the definition, and its arguments and input fields come after
those of the definition. -/
theorem body_of_extend? {type extension whole : TypeDefinition}
    (extended : type.extend? extension = some whole) :
    whole.name = type.name ∧ whole.body.kind = type.body.kind ∧
      whole.body.inputValues = type.body.inputValues ++ extension.body.inputValues := by
  obtain ⟨body, appended, rfl⟩ := Option.map_eq_some_iff.1 extended
  refine ⟨rfl, ?_⟩
  dsimp only
  generalize type.body = first at appended
  generalize extension.body = second at appended
  cases first <;> cases second <;> cases appended <;>
    simp [TypeBody.kind, TypeBody.inputValues]

theorem foldlM_extend?_induction (property : TypeDefinition → Prop) {type whole : TypeDefinition}
    {extensions : List TypeDefinition} (extended : extensions.foldlM extend? type = some whole)
    (start : property type)
    (step : ∀ extension ∈ extensions, ∀ type whole, property type →
      extend? type extension = some whole → property whole) : property whole := by
  induction extensions generalizing type with
  | nil =>
      cases extended
      exact start
  | cons extension extensions ih =>
      rw [List.foldlM_cons] at extended
      obtain ⟨middle, one, others⟩ := Option.bind_eq_some_iff.1 extended
      exact ih others (step extension List.mem_cons_self type middle start one)
        fun other member => step other (List.mem_cons_of_mem _ member)

end TypeDefinition

namespace Document

variable {document : Document}

theorem mem_of_mem_types {type : TypeDefinition} (member : type ∈ document.types) :
    .type type ∈ document := by
  obtain ⟨definition, inside, same⟩ := List.mem_filterMap.1 member
  cases definition with
  | type defined =>
      cases same
      exact inside
  | _ => cases same

theorem mem_of_mem_extensionsOf {name : Name} {extension : TypeDefinition}
    (member : extension ∈ document.extensionsOf name) : .extendType extension ∈ document := by
  obtain ⟨definition, inside, same⟩ := List.mem_filterMap.1 (List.mem_filter.1 member).1
  cases definition with
  | extendType extended =>
      cases same
      exact inside
  | _ => cases same

/-- What a definition has, and what an extension of the document keeps, the extended type has. -/
theorem extended?_induction (property : TypeDefinition → Prop) {type whole : TypeDefinition}
    (extended : document.extended? type = some whole) (start : property type)
    (step : ∀ extension, .extendType extension ∈ document → ∀ type whole, property type →
      type.extend? extension = some whole → property whole) : property whole := by
  refine TypeDefinition.foldlM_extend?_induction property extended start fun extension member =>
    step extension ?_
  rcases List.mem_append.1 member with before | after
  · exact (List.takeWhile_sublist _).subset
      (mem_of_mem_extensionsOf (List.mem_filter.1 before).1)
  · exact (List.dropWhile_sublist _).subset (mem_of_mem_extensionsOf after)

/-- An extended type keeps its name and its kind. -/
theorem kind_of_extended? {type whole : TypeDefinition}
    (extended : document.extended? type = some whole) :
    whole.name = type.name ∧ whole.body.kind = type.body.kind := by
  refine extended?_induction (fun found => found.name = type.name ∧
    found.body.kind = type.body.kind) extended ⟨rfl, rfl⟩ ?_
  rintro extension _ found whole ⟨sameName, sameKind⟩ one
  obtain ⟨named, isKind, _⟩ := TypeDefinition.body_of_extend? one
  exact ⟨named.trans sameName, isKind.trans sameKind⟩

end Document

/-! ## Arguments and input fields -/

/-- The arguments and input fields of a definition of a type or a directive, or of an extension. -/
def Definition.inputValues : Definition → List InputValueDefinition
  | type defined => defined.body.inputValues
  | extendType extension => extension.body.inputValues
  | directive defined => defined.arguments
  | operation _ | fragment _ | schema _ | extendSchema _ => []

/-- Something is true of all arguments and input fields of a document. -/
def Document.AllInputValues (document : Document) (property : InputValueDefinition → Prop) : Prop :=
  ∀ definition ∈ document, ∀ value ∈ definition.inputValues, property value

namespace Document

variable {document : Document} {property : InputValueDefinition → Prop}

theorem mem_of_mem_directives {directive : DirectiveDefinition}
    (member : directive ∈ document.directives) : .directive directive ∈ document := by
  obtain ⟨definition, inside, same⟩ := List.mem_filterMap.1 member
  cases definition with
  | directive defined =>
      cases same
      exact inside
  | _ => cases same

/-- What is true of the arguments and input fields of a document is true of those of its types. -/
theorem AllInputValues.of_extended? (all : document.AllInputValues property)
    {type whole : TypeDefinition} (member : type ∈ document.types)
    (extended : document.extended? type = some whole) :
    ∀ value ∈ whole.body.inputValues, property value := by
  refine extended?_induction (fun found => ∀ value ∈ found.body.inputValues, property value)
    extended (all _ (mem_of_mem_types member)) ?_
  intro extension inside found whole each one value among
  rw [(TypeDefinition.body_of_extend? one).2.2, List.mem_append] at among
  rcases among with before | after
  · exact each value before
  · exact all _ inside value after

end Document

/-! ## Schemas -/

/-- What a conversion that may fail finds was found in some item. -/
theorem exists_of_mem_mapM {α β : Type} {convert : α → Option β} {items : List α}
    {found : List β} (converted : items.mapM convert = some found) {y : β} (member : y ∈ found) :
    ∃ x ∈ items, convert x = some y := by
  induction items generalizing found with
  | nil =>
      cases converted
      cases member
  | cons item items ih =>
      rw [List.mapM_cons] at converted
      obtain ⟨first, one, converted⟩ := Option.bind_eq_some_iff.1 converted
      obtain ⟨others, two, converted⟩ := Option.bind_eq_some_iff.1 converted
      cases converted
      rcases List.mem_cons.1 member with rfl | member
      · exact ⟨item, List.mem_cons_self, one⟩
      · obtain ⟨x, inside, same⟩ := ih two member
        exact ⟨x, List.mem_cons_of_mem _ inside, same⟩

/-- A conversion that keeps a view keeps the views of a list. -/
theorem map_eq_map_of_mapM {α β γ : Type} {convert : α → Option β} {view : α → γ} {view' : β → γ}
    (keeps : ∀ item found, convert item = some found → view' found = view item)
    {items : List α} {found : List β} (converted : items.mapM convert = some found) :
    found.map view' = items.map view := by
  induction items generalizing found with
  | nil =>
      cases converted
      rfl
  | cons item items ih =>
      rw [List.mapM_cons] at converted
      obtain ⟨first, one, converted⟩ := Option.bind_eq_some_iff.1 converted
      obtain ⟨others, rest, converted⟩ := Option.bind_eq_some_iff.1 converted
      cases converted
      rw [List.map_cons, List.map_cons, keeps item first one, ih rest]

namespace Schema

variable {document : Document} {schema : Schema}

/-- The types of a document are its definitions with their extensions, and none has a part twice. -/
theorem of_types?_eq_some {types : List TypeDefinition} (found : types? document = some types) :
    document.types.mapM document.extended? = some types ∧
      ∀ type ∈ types, type.body.IsDistinct := by
  obtain ⟨_, found⟩ := guard_bind_eq_some_iff.1 found
  obtain ⟨_, converted, found⟩ := Option.bind_eq_some_iff.1 found
  obtain ⟨distinct, found⟩ := guard_bind_eq_some_iff.1 found
  cases found
  exact ⟨converted, by simpa using distinct⟩

/-- What a schema has of its document. -/
theorem of_ofDocument?_eq_some (built : ofDocument? document = some schema) :
    (document.directives.map (·.name)).Nodup ∧ schema.directives = document.directives ∧
      types? document.withBuiltIn = some schema.types := by
  obtain ⟨_, built⟩ := guard_bind_eq_some_iff.1 built
  obtain ⟨distinct, built⟩ := guard_bind_eq_some_iff.1 built
  obtain ⟨types, found, built⟩ := Option.bind_eq_some_iff.1 built
  obtain ⟨roots, _, built⟩ := Option.bind_eq_some_iff.1 built
  split at built
  next =>
      cases built
      exact ⟨distinct, rfl, found⟩
  next => cases built

theorem isName_iff {name : Name} :
    BuiltIn.isName name = true ↔ name ∈ BuiltIn.types.map (·.name) := by
  rw [BuiltIn.isName, List.any_eq_true, List.mem_map]
  simp only [decide_eq_true_eq]

/-- The built-in types come first, each under its name and of its kind, then the declared ones. -/
theorem exists_types_eq_append (built : ofDocument? document = some schema) :
    ∃ builtIn, schema.types = builtIn ++ schema.declared ∧
      builtIn.map (fun type => (type.name, type.body.kind)) =
        BuiltIn.types.map fun type => (type.name, type.body.kind) := by
  obtain ⟨_, _, found⟩ := of_ofDocument?_eq_some built
  obtain ⟨converted, _⟩ := of_types?_eq_some found
  rw [Document.types_withBuiltIn, List.mapM_append] at converted
  obtain ⟨builtIn, first, converted⟩ := Option.bind_eq_some_iff.1 converted
  obtain ⟨declared, second, converted⟩ := Option.bind_eq_some_iff.1 converted
  obtain same : builtIn ++ declared = schema.types := Option.some.inj converted
  have kept : builtIn.map (fun type => (type.name, type.body.kind)) =
      BuiltIn.types.map fun type => (type.name, type.body.kind) :=
    map_eq_map_of_mapM (fun type whole extended => by
      obtain ⟨sameName, sameKind⟩ := Document.kind_of_extended? extended
      rw [sameName, sameKind]) first
  have names : builtIn.map (·.name) = BuiltIn.types.map (·.name) := by
    simpa only [List.map_map, Function.comp_def] using congrArg (List.map Prod.fst) kept
  have distinct := schema.distinct
  rw [← same, List.map_append] at distinct
  have apart := (List.nodup_append.1 distinct).2.2
  have dropped : builtIn.filter (fun type => !BuiltIn.isName type.name) = [] := by
    refine List.filter_eq_nil_iff.2 fun type member => ?_
    have known : BuiltIn.isName type.name = true :=
      isName_iff.2 (names ▸ List.mem_map_of_mem member)
    simp [known]
  have kept' : declared.filter (fun type => !BuiltIn.isName type.name) = declared := by
    refine List.filter_eq_self.2 fun type member => ?_
    have unknown : ¬ BuiltIn.isName type.name = true := fun known =>
      apart _ (names ▸ isName_iff.1 known) _ (List.mem_map_of_mem member) rfl
    simpa using unknown
  refine ⟨builtIn, ?_, kept⟩
  rw [Schema.declared, ← same, List.filter_append, dropped, kept', List.nil_append]

/-- What is true of all arguments and input fields of a document is true of those of its schema, if
it is true of those of built-in types. -/
theorem forall_inputValues {property : InputValueDefinition → Prop}
    (built : ofDocument? document = some schema) (all : document.AllInputValues property)
    (builtIn : ∀ type ∈ BuiltIn.types, ∀ value ∈ type.body.inputValues, property value) :
    (∀ directive ∈ schema.directives, ∀ value ∈ directive.arguments, property value) ∧
      ∀ type ∈ schema.types, ∀ value ∈ type.body.inputValues, property value := by
  obtain ⟨_, sameDirectives, found⟩ := of_ofDocument?_eq_some built
  have whole : document.withBuiltIn.AllInputValues property := by
    intro definition member
    rcases List.mem_append.1 member with isBuiltIn | own
    · obtain ⟨type, among, rfl⟩ := List.mem_map.1 isBuiltIn
      exact builtIn type among
    · exact all definition own
  refine ⟨fun directive member => ?_, fun type member => ?_⟩
  · rw [sameDirectives] at member
    exact all _ (Document.mem_of_mem_directives member)
  · obtain ⟨defined, inside, extended⟩ := exists_of_mem_mapM (of_types?_eq_some found).1 member
    exact whole.of_extended? inside extended

end Schema

end Subgraph
