import Subgraph.Schema.Basic

/-!
# Building schemas

`Schema.ofDocument?` collects the definitions and extensions of a document
into a schema.

* A type has the parts of its definition, then those of its extensions, in
  document order.  An extension may come before its definition.  Then it counts
  only if it has the kind of the definition.
* Without a schema definition, the root types are the object types with the
  default names.
* Refused are operations and fragments; two definitions of one type, one
  directive or the schema; an extension of nothing, or of another kind after the
  definition; a repeated field, value, member or interface in one type; and a
  repeated kind of operation among the root types.

Nothing else is checked.  A schema may refer to types that it does not define.
-/

namespace Subgraph

namespace TypeBody

/-- The parts of a definition followed by those of an extension, when both have one kind. -/
def append? : TypeBody → TypeBody → Option TypeBody
  | .scalar, .scalar => some .scalar
  | .object is fs, .object js gs => some (.object (is ++ js) (fs ++ gs))
  | .interface is fs, .interface js gs => some (.interface (is ++ js) (fs ++ gs))
  | .union ms, .union ns => some (.union (ms ++ ns))
  | .enum vs, .enum ws => some (.enum (vs ++ ws))
  | .input fs, .input gs => some (.input (fs ++ gs))
  | _, _ => none

/-- Whether no interface, field, value or member comes twice. -/
def IsDistinct : TypeBody → Prop
  | .scalar => True
  | .object interfaces fields => interfaces.Nodup ∧ (fields.map (·.name)).Nodup
  | .interface interfaces fields => interfaces.Nodup ∧ (fields.map (·.name)).Nodup
  | .union members => members.Nodup
  | .enum values => (values.map (·.name)).Nodup
  | .input fields => (fields.map (·.name)).Nodup

instance (body : TypeBody) : Decidable body.IsDistinct := by
  cases body <;> unfold IsDistinct <;> infer_instance

end TypeBody

namespace TypeDefinition

/-- A definition followed by an extension of its kind. -/
def extend? (type extension : TypeDefinition) : Option TypeDefinition :=
  (type.body.append? extension.body).map fun body =>
    { type with directives := type.directives ++ extension.directives, body }

/-- Whether a definition and an extension have one kind. -/
def fits (type extension : TypeDefinition) : Bool := (type.extend? extension).isSome

/-- A definition followed by its extensions, those that precede it and those that come after. -/
def extendAll? (type : TypeDefinition) (before after : List TypeDefinition) :
    Option TypeDefinition :=
  (before.filter type.fits ++ after).foldlM extend? type

end TypeDefinition

namespace Document

/-- Whether a document has no operation and no fragment. -/
def isTypeSystem (document : Document) : Bool :=
  document.all fun
    | .operation _ | .fragment _ => false
    | _ => true

/-- The type definitions of a document. -/
def types (document : Document) : List TypeDefinition :=
  document.filterMap fun
    | .type type => some type
    | _ => none

/-- The type extensions of a document. -/
def typeExtensions (document : Document) : List TypeDefinition :=
  document.filterMap fun
    | .extendType extension => some extension
    | _ => none

/-- The extensions of one type in a document. -/
def extensionsOf (document : Document) (name : Name) : List TypeDefinition :=
  document.typeExtensions.filter fun extension => extension.name = name

/-- Whether a definition is that of a type with a name. -/
def defines (name : Name) : Definition → Bool
  | .type type => type.name = name
  | _ => false

/-- A type of a document with its extensions. -/
def extended? (document : Document) (type : TypeDefinition) : Option TypeDefinition :=
  let isElsewhere := fun definition => !defines type.name definition
  type.extendAll? (extensionsOf (document.takeWhile isElsewhere) type.name)
    (extensionsOf (document.dropWhile isElsewhere) type.name)

/-- The directive definitions of a document. -/
def directives (document : Document) : List DirectiveDefinition :=
  document.filterMap fun
    | .directive directive => some directive
    | _ => none

/-- The schema definitions of a document. -/
def schemas (document : Document) : List SchemaDefinition :=
  document.filterMap fun
    | .schema schema => some schema
    | _ => none

/-- The schema extensions of a document. -/
def schemaExtensions (document : Document) : List SchemaDefinition :=
  document.filterMap fun
    | .extendSchema extension => some extension
    | _ => none

end Document

namespace Schema

/-- The root types without a schema definition: the object types with the default names. -/
def implicitRoots (types : List TypeDefinition) : List (OperationKind × Name) :=
  OperationKind.all.filterMap fun kind =>
    if types.any fun type => type.isObject && type.name = kind.defaultRoot then
      some (kind, kind.defaultRoot)
    else none

/-- The root types from the schema definition, if there is one, and its extensions. -/
def roots? (types : List TypeDefinition) (definitions extensions : List SchemaDefinition) :
    Option (List (OperationKind × Name)) :=
  let added := extensions.flatMap (·.roots)
  let found :=
    match definitions with
    | [definition] => some (definition.roots ++ added)
    | [] =>
        let implicit := implicitRoots types
        if implicit.isEmpty && !extensions.isEmpty then none else some (implicit ++ added)
    | _ => none
  found.filter fun roots => decide (roots.map Prod.fst).Nodup

/-- The types of a document, all with their extensions. -/
def types? (document : Document) : Option (List TypeDefinition) := do
  let defined := document.types
  guard (document.typeExtensions.all fun extension =>
    defined.any fun type => type.name = extension.name)
  let types ← defined.mapM document.extended?
  guard (types.all fun type => type.body.IsDistinct)
  return types

/-- The schema that a document defines, besides the built-in types. -/
def ofDocument? (document : Document) : Option Schema := do
  guard document.isTypeSystem
  guard (document.directives.map (·.name)).Nodup
  let types ← types? (BuiltIn.types.map .type ++ document)
  let roots ← roots? types document.schemas document.schemaExtensions
  if distinct : (types.map (·.name)).Nodup then
    return { types, directives := document.directives, roots, distinct }
  else none

end Schema

end Subgraph
