import Subgraph.Introspection.Conversion
import Subgraph.Proofs.Language.Value
import Subgraph.Schema.Build

/-!
# What introspection shows of a document

`Document.record` is what the introspection system tells about the schema of a
document, as records.

* A reference to a type is a chain of its wrappers with the named type at the
  end.
* A default value is its text on one line.
* A deprecation without a reason has the default one.
* Without a schema definition, the root types are the object types with the
  default names.

`Document.IsShown` says that nothing of a document is lost on this way, and
`SchemaRecord.Shows` that a service tells about a document, with whatever it
likes to tell about types and directives that every service has.
-/

namespace Subgraph

open Introspection

/-! ## References -/

/-- The kind of a type. -/
def TypeBody.kind : TypeBody → TypeKind
  | scalar => .scalar
  | object _ _ => .object
  | interface _ _ => .interface
  | union _ => .union
  | enum _ => .enum
  | input _ => .inputObject

/-- Whether a type is an object that implements an interface. -/
def TypeDefinition.implements (type : TypeDefinition) (interface : Name) : Bool :=
  match type.body with
  | .object interfaces _ => interfaces.contains interface
  | _ => false

namespace Document

variable (document : Document)

/-- The kind of the type with a name, which the document defines or which is built in. -/
def kindOf (name : Name) : TypeKind :=
  match (document.types ++ BuiltIn.types).find? fun type => type.name = name with
  | some type => type.body.kind
  | none => .scalar

/-- The record of a named type. -/
def nameRecord (name : Name) : ReferenceRecord :=
  { kind := document.kindOf name, name := some name.text }

/-- The record of a reference to a type, one for each layer. -/
def referenceRecord : TypeReference → ReferenceRecord
  | .named name false => document.nameRecord name
  | .named name true => { kind := .nonNull, ofType := some (document.nameRecord name) }
  | .list item false => { kind := .list, ofType := some (referenceRecord item) }
  | .list item true =>
      { kind := .nonNull
        ofType := some { kind := .list, ofType := some (referenceRecord item) } }

/-! ## Fields and values -/

/-- The record of an argument or an input field. -/
def inputValueRecord (value : InputValueDefinition) : InputValueRecord where
  name := value.name.text
  description := value.description
  type := document.referenceRecord value.type
  defaultValue := value.defaultValue.map Value.text

/-- Why something with some directives is deprecated, if it is. -/
def deprecationReason? (directives : List Directive) : Option String :=
  (directives.find? fun directive => directive.name.text = "deprecated").map fun directive =>
    match (Assoc.find? reasonName directive.arguments : Option Value) with
    | some (.string reason) => reason
    | _ => "No longer supported"

/-- The record of a field. -/
def fieldRecord (field : FieldDefinition) : FieldRecord where
  name := field.name.text
  description := field.description
  args := field.arguments.map document.inputValueRecord
  type := document.referenceRecord field.type
  isDeprecated := (deprecationReason? field.directives).isSome
  deprecationReason := deprecationReason? field.directives

/-- The record of a value of an enum. -/
def enumValueRecord (value : EnumValueDefinition) : EnumValueRecord where
  name := value.name.text
  description := value.description
  isDeprecated := (deprecationReason? value.directives).isSome
  deprecationReason := deprecationReason? value.directives

/-! ## Types, directives and schemas -/

/-- The record of a type. -/
def typeRecord (type : TypeDefinition) : TypeRecord :=
  let record : TypeRecord :=
    { kind := type.body.kind, name := type.name.text, description := type.description }
  match type.body with
  | .scalar => record
  | .object interfaces fields =>
      { record with
        fields := some (fields.map document.fieldRecord)
        interfaces := some (interfaces.map document.nameRecord) }
  | .interface interfaces fields =>
      { record with
        fields := some (fields.map document.fieldRecord)
        interfaces := some (interfaces.map document.nameRecord)
        possibleTypes := some ((document.types.filter (·.implements type.name)).map fun other =>
          document.nameRecord other.name) }
  | .union members => { record with possibleTypes := some (members.map document.nameRecord) }
  | .enum values => { record with enumValues := some (values.map enumValueRecord) }
  | .input fields => { record with inputFields := some (fields.map document.inputValueRecord) }

/-- The record of a directive. -/
def directiveRecord (directive : DirectiveDefinition) : DirectiveRecord where
  name := directive.name.text
  description := directive.description
  locations := directive.locations.map DirectiveLocation.text
  args := directive.arguments.map document.inputValueRecord
  isRepeatable := directive.repeatable

/-- The root types: those of the schema definition, or the object types with the default names. -/
def rootTypes : List (OperationKind × Name) :=
  match document.schemas with
  | schema :: _ => schema.roots
  | [] => Schema.implicitRoots document.types

/-- The record of the root type of a kind of operation. -/
def rootRecord? (kind : OperationKind) : Option RootRecord :=
  (Assoc.find? kind document.rootTypes).map fun name => { name := name.text }

/-- What introspection shows of a document. -/
def record : SchemaRecord where
  queryType := document.rootRecord? .query
  mutationType := document.rootRecord? .mutation
  subscriptionType := document.rootRecord? .subscription
  types := document.types.map document.typeRecord
  directives := document.directives.map document.directiveRecord

end Document

/-! ## What nothing is lost of -/

/-- An argument or input field without directives and with a constant default. -/
structure InputValueDefinition.IsShown (value : InputValueDefinition) : Prop where
  directives : value.directives = []
  constant : ∀ default ∈ value.defaultValue, default.isConstant = true

/-- Directives that only say that something is deprecated, and why unless for the default reason. -/
def IsDeprecation (directives : List Directive) : Prop :=
  directives = [] ∨ directives = [{ name := Introspection.deprecatedName }] ∨
    ∃ reason, reason ≠ "No longer supported" ∧ directives =
      [{ name := Introspection.deprecatedName
         arguments := [(Introspection.reasonName, .string reason)] }]

/-- A field of which introspection shows the whole. -/
structure FieldDefinition.IsShown (field : FieldDefinition) : Prop where
  arguments : ∀ argument ∈ field.arguments, argument.IsShown
  directives : IsDeprecation field.directives

/-- A kind's own part of which introspection shows the whole. -/
def TypeBody.IsShown : TypeBody → Prop
  | .scalar | .union _ => True
  | .object _ fields | .interface _ fields => ∀ field ∈ fields, field.IsShown
  | .enum values => ∀ value ∈ values, IsDeprecation value.directives
  | .input fields => ∀ field ∈ fields, field.IsShown

/-- The name of a type that every service has: a built-in scalar, or a name with two underscores
in front. -/
def IsSystemType (name : String) : Prop :=
  "__".toList <+: name.toList ∨ name ∈ ["Int", "Float", "String", "Boolean", "ID"]

/-- The name of a directive that every service has. -/
def IsSystemDirective (name : String) : Prop :=
  name ∈ ["skip", "include", "deprecated", "specifiedBy", "oneOf"]

instance (name : String) : Decidable (IsSystemType name) :=
  inferInstanceAs (Decidable (_ ∨ _))

instance (name : String) : Decidable (IsSystemDirective name) :=
  inferInstanceAs (Decidable (_ ∈ _))

/-- A type of a service of its own, without directives outside its fields and values. -/
structure TypeDefinition.IsShown (type : TypeDefinition) : Prop where
  name : ¬ IsSystemType type.name.text
  directives : type.directives = []
  body : type.body.IsShown

/-- A directive of a service of its own. -/
structure DirectiveDefinition.IsShown (directive : DirectiveDefinition) : Prop where
  name : ¬ IsSystemDirective directive.name.text
  arguments : ∀ argument ∈ directive.arguments, argument.IsShown

/-- A schema definition that gives nothing but root types, in their usual order, and one of them
another name than the default one. -/
structure SchemaDefinition.IsShown (schema : SchemaDefinition) : Prop where
  description : schema.description = none
  directives : schema.directives = []
  ordered : (schema.roots.map Prod.fst).Sublist [.query, .mutation, .subscription]
  named : ∃ root ∈ schema.roots, root.2 ≠ root.1.defaultRoot

/-- A document of which introspection shows the whole: directives first, then perhaps the schema,
then types. -/
structure Document.IsShown (document : Document) : Prop where
  ordered : document = document.directives.map .directive ++ document.schemas.map .schema ++
    document.types.map .type
  oneSchema : document.schemas.length ≤ 1
  directives : ∀ directive ∈ document.directives, directive.IsShown
  schemas : ∀ schema ∈ document.schemas, schema.IsShown
  types : ∀ type ∈ document.types, type.IsShown

/-! ## What a service tells -/

/-- A list with extras put anywhere between the items of another. -/
inductive Inserted {α : Type} (extra : α → Prop) : List α → List α → Prop where
  | nil : Inserted extra [] []
  | keep (item : α) {items all : List α} (rest : Inserted extra items all) :
      Inserted extra (item :: items) (item :: all)
  | insert {item : α} {items all : List α} (isExtra : extra item)
      (rest : Inserted extra items all) : Inserted extra items (item :: all)

theorem Inserted.refl {α : Type} {extra : α → Prop} (items : List α) :
    Inserted extra items items := by
  induction items with
  | nil => exact .nil
  | cons item items ih => exact .keep item ih

/-- A service tells what introspection shows of a document, and anything about types and
directives that every service has. -/
structure Introspection.SchemaRecord.Shows (record : SchemaRecord) (document : Document) :
    Prop where
  queryType : record.queryType = document.record.queryType
  mutationType : record.mutationType = document.record.mutationType
  subscriptionType : record.subscriptionType = document.record.subscriptionType
  types : Inserted (fun type => IsSystemType type.name) document.record.types record.types
  directives : Inserted (fun directive => IsSystemDirective directive.name)
    document.record.directives record.directives

/-- A service may tell nothing but what introspection shows. -/
theorem Document.record_shows (document : Document) : document.record.Shows document where
  queryType := rfl
  mutationType := rfl
  subscriptionType := rfl
  types := Inserted.refl _
  directives := Inserted.refl _

/-! ## Default values -/

/-- The arguments and input fields of a type. -/
def TypeBody.inputValues : TypeBody → List InputValueDefinition
  | .object _ fields | .interface _ fields => fields.flatMap (·.arguments)
  | .input fields => fields
  | .scalar | .union _ | .enum _ => []

/-- A default value, if there is one, is nested less deep than a query with it may be. -/
def InputValueDefinition.IsShallow (value : InputValueDefinition) : Prop :=
  ∀ default ∈ value.defaultValue, default.depth < Reading.nestingLimit

/-- The arguments and input fields of a document. -/
def Document.inputValues (document : Document) : List InputValueDefinition :=
  document.directives.flatMap (·.arguments) ++ document.types.flatMap (·.body.inputValues)

end Subgraph
