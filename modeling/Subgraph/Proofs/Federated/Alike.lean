import Subgraph.Federated.Service
import Subgraph.Proofs.Schema.Key

/-!
# What a federated schema depends on

Of the types of a schema, federating it looks at the names, the directives applied
to a type and the declarations.  Of built-in types it sees no more than a search
for a key does.

* `Schema.Alike` says that two schemas are the same so far.
* `Schema.Alike.federate_eq` says that then they are federated alike.
-/

namespace Subgraph

/-! ## What is looked at -/

/-- What federating a schema looks at in a type. -/
def TypeDefinition.outline (type : TypeDefinition) :
    Name × List Directive × Option DeclarationBody :=
  (type.name, type.directives, type.body.declaration?)

/-- Two schemas between which federating does not tell. -/
structure Schema.Alike (schema other : Schema) : Prop where
  seen : Key.Agree (fun _ => True) schema.types other.types
  declared : schema.declared.map TypeDefinition.outline = other.declared.map TypeDefinition.outline

section

variable {α β γ : Type} {view : α → γ} {items others : List α}

/-- Conversions that agree on what has the same view give the same of lists with the same views. -/
theorem filterMap_congr_of_map {convert convert' : α → Option β}
    (same : items.map view = others.map view)
    (each : ∀ item ∈ items, ∀ other ∈ others, view item = view other →
      convert item = convert' other) :
    items.filterMap convert = others.filterMap convert' := by
  induction items generalizing others with
  | nil =>
      cases List.map_eq_nil_iff.1 same.symm
      rfl
  | cons item items ih =>
      cases others with
      | nil => cases same
      | cons other others =>
          obtain ⟨here, behind⟩ := List.cons.inj same
          have rest := ih behind fun one member one' member' =>
            each one (List.mem_cons_of_mem _ member) one' (List.mem_cons_of_mem _ member')
          rw [List.filterMap_cons, List.filterMap_cons,
            each item List.mem_cons_self other List.mem_cons_self here, rest]

/-- A view that tells no more than another one does is the same where the other is. -/
theorem map_congr_of_map {look : α → β} (same : items.map view = others.map view)
    (each : ∀ item ∈ items, ∀ other ∈ others, view item = view other → look item = look other) :
    items.map look = others.map look := by
  rw [← List.filterMap_eq_map]
  exact filterMap_congr_of_map same fun item member other member' seen =>
    congrArg some (each item member other member' seen)

end

namespace TypeDefinition

variable {type other : TypeDefinition}

/-- The fields of a declaration of an object. -/
def declaredFields? (type : TypeDefinition) : Option (List FieldDeclaration) :=
  match type.body.declaration? with
  | some (.object fields) => some fields
  | _ => none

theorem map_declaration_objectFields? (type : TypeDefinition) :
    type.objectFields?.map (List.map FieldDefinition.declaration) = type.declaredFields? := by
  obtain ⟨description, name, directives, body⟩ := type
  cases body <;> rfl

section

variable (same : type.outline = other.outline)

include same

theorem name_of_outline : type.name = other.name := congrArg Prod.fst same

theorem directives_of_outline : type.directives = other.directives :=
  congrArg (fun outline => outline.2.1) same

theorem declaration?_of_outline : type.declaration? = other.declaration? := by
  have sameBody : type.body.declaration? = other.body.declaration? :=
    congrArg (fun outline => outline.2.2) same
  rw [declaration?, declaration?, sameBody, name_of_outline same, directives_of_outline same]

theorem objectFields?_of_outline :
    type.objectFields?.map (List.map FieldDefinition.declaration) =
      other.objectFields?.map (List.map FieldDefinition.declaration) := by
  have sameBody : type.body.declaration? = other.body.declaration? :=
    congrArg (fun outline => outline.2.2) same
  rw [map_declaration_objectFields?, map_declaration_objectFields?, declaredFields?,
    declaredFields?, sameBody]

theorem isEntity_of_outline : type.isEntity = other.isEntity := by
  have fields := objectFields?_of_outline same
  rw [isEntity, isEntity, name_of_outline same]
  cases found : type.objectFields? with
  | none =>
      rw [found] at fields
      rw [Option.map_eq_none_iff.1 fields.symm]
  | some own =>
      rw [found] at fields
      obtain ⟨own', found', sameFields⟩ := Option.map_eq_some_iff.1 fields.symm
      have sameEmpty : own.isEmpty = own'.isEmpty := by
        rw [← List.isEmpty_map, ← sameFields, List.isEmpty_map]
      rw [found']
      dsimp only
      rw [sameEmpty]

theorem hasDirective_of_outline (name : String) :
    type.hasDirective name = other.hasDirective name := by
  rw [hasDirective, hasDirective, directives_of_outline same]

theorem sights_of_outline : (type.objectFields?.getD []).map Key.sight =
    (other.objectFields?.getD []).map Key.sight := by
  have seen (type : TypeDefinition) : (type.objectFields?.getD []).map Key.sight =
      ((type.objectFields?.map (List.map FieldDefinition.declaration)).getD []).map
        fun field => (field.name, field.type) := by
    cases type.objectFields? with
    | none => rfl
    | some fields =>
        rw [Option.map_some, Option.getD_some, Option.getD_some, List.map_map]
        rfl
  rw [seen, seen, objectFields?_of_outline same]

end

end TypeDefinition

/-! ## What is made of it -/

section

variable {schema other : Schema} {type type' : TypeDefinition}

/-- A key is inferred alike where the types that its search can come to look the same. -/
theorem Key.infer?_congr {reached : Name → Prop} (agree : Agree reached schema.types other.types)
    (closed : IsClosed reached schema.types) (same : type.outline = type'.outline)
    (starts : ∀ field ∈ type.objectFields?.getD [], field.type.isList = false →
      reached field.type.innermost) :
    infer? schema type = infer? other type' := by
  rw [infer?, infer?, TypeDefinition.name_of_outline same]
  exact search_congr agree (agree.without _) (closed.without _)
    (TypeDefinition.sights_of_outline same) starts

/-- The same is missing about types that look the same, if the options say the same about them. -/
theorem Options.gap?_congr {options options' : Options} (same : type.outline = type'.outline)
    (inferred : Key.infer? schema type = Key.infer? other type')
    (said : options.typeOptions? type.name.text = options'.typeOptions? type.name.text) :
    options.gap? schema type = options'.gap? other type' := by
  rw [gap?, gap?, inferred, saysExtend, saysExtend, saysKey, saysKey, said,
    TypeDefinition.hasDirective_of_outline same, TypeDefinition.hasDirective_of_outline same,
    TypeDefinition.isEntity_of_outline same, TypeDefinition.name_of_outline same]

end

namespace Schema.Alike

variable {schema other : Schema} (alike : schema.Alike other)

include alike

/-- A key is inferred alike. -/
theorem infer?_eq {type type' : TypeDefinition} (same : type.outline = type'.outline) :
    Key.infer? schema type = Key.infer? other type' :=
  Key.infer?_congr alike.seen (fun _ _ _ _ _ _ _ => trivial) same fun _ _ _ => trivial

/-- The same is missing about types that look the same. -/
theorem gap?_eq (options : Options) {type type' : TypeDefinition}
    (same : type.outline = type'.outline) :
    options.gap? schema type = options.gap? other type' :=
  Options.gap?_congr same (alike.infer?_eq same) rfl

theorem defaults_eq (options : Options) (given : ResolverTable) :
    options.defaults schema given = options.defaults other given := by
  have gaps : (schema.declared.filterMap fun type =>
        (options.gap? schema type).map fun gap => (type.name.text, gap)) =
      other.declared.filterMap fun type =>
        (options.gap? other type).map fun gap => (type.name.text, gap) :=
    filterMap_congr_of_map alike.declared fun type _ type' _ same => by
      rw [alike.gap?_eq options same, TypeDefinition.name_of_outline same]
  have stubs : (schema.declared.filterMap fun type =>
        if options.needsPlaceholder given type then
          some (type.name.text, referenceField, Resolver.placeholder)
        else none) =
      other.declared.filterMap fun type =>
        if options.needsPlaceholder given type then
          some (type.name.text, referenceField, Resolver.placeholder)
        else none :=
    filterMap_congr_of_map alike.declared fun type _ type' _ same => by
      rw [Options.needsPlaceholder, Options.needsPlaceholder,
        TypeDefinition.isEntity_of_outline same, TypeDefinition.name_of_outline same]
  have asFilterMap (schema : Schema) :
      ((schema.declared.filter (options.needsPlaceholder given)).map fun type =>
        (type.name.text, referenceField, Resolver.placeholder)) =
      schema.declared.filterMap fun type =>
        if options.needsPlaceholder given type then
          some (type.name.text, referenceField, Resolver.placeholder)
        else none := by
    rw [← List.filterMap_eq_map, List.filterMap_filter]
    rfl
  rw [Options.defaults, Options.defaults, gaps, asFilterMap, asFilterMap, stubs]

/-- The same options hold for both. -/
theorem effectiveOptions_eq (given : ResolverTable) (options : Options) :
    schema.effectiveOptions given options = other.effectiveOptions given options := by
  rw [effectiveOptions, effectiveOptions, Options.synthesize, Options.synthesize,
    alike.defaults_eq]

theorem declarations_eq : schema.declarations = other.declarations :=
  filterMap_congr_of_map alike.declared fun _ _ _ _ => TypeDefinition.declaration?_of_outline

/-- Schemas that look the same are federated alike. -/
theorem federate_eq (given : ResolverTable) (options : Options) :
    schema.federate given options = other.federate given options := by
  rw [federate, federate, alike.effectiveOptions_eq, alike.declarations_eq]

end Schema.Alike

end Subgraph
