import Subgraph.Introspection.Record
import Subgraph.Language.Document.Reader
import Subgraph.Schema.BuiltIn

/-!
# From introspection records to a document

`SchemaRecord.document` turns what a service tells about its schema into
definitions: directives first, then the schema, then the types, each in the
order of the records.

* Built-in directives, built-in scalars, and types with two underscores in
  front are left out before anything in them is looked at.
* The schema is defined only when some root type has another name than the
  default one.
* A record gives only what belongs to its kind, and a wrapper gives nothing.
* A default value is a literal.  It has to be one value and nothing else in
  the place of an argument.
* A deprecation keeps its reason unless it is the default one.

The first fault decides.
-/

namespace Subgraph

/-- Why introspection records do not make a document. -/
inductive IntrospectionFault where
  | invalidName (name : String)
  | missingName (kind : Introspection.TypeKind)
  | missingType (kind : Introspection.TypeKind)
  | invalidDefault (literal : String)
  | unknownLocation (name : String)
deriving DecidableEq

namespace IntrospectionFault

/-- The text of a fault. -/
def message : IntrospectionFault → String
  | invalidName name => "`" ++ name ++ "` is not a valid GraphQL name"
  | missingName kind => kind.title ++ " type reference has no name"
  | missingType kind => kind.title ++ " type reference has no ofType"
  | invalidDefault literal => "invalid default value `" ++ literal ++ "`"
  | unknownLocation name => "unknown directive location " ++ name

end IntrospectionFault

namespace Document

/-- The value of the argument of a document that has nothing but one query of one field with one
argument. -/
def onlyArgument? : Document → Option Value
  | [.operation { selections := [.field _ _ [(_, value)] _ _], .. }] => some value
  | _ => none

end Document

namespace Value

/-- The value that a literal stands for in the place of an argument. -/
def ofLiteral? (literal : String) : Option Value :=
  Document.ofText? ("\x7b default(value: " ++ literal ++ ") \x7d") >>= Document.onlyArgument?

example : (ofLiteral? "[1, \x7ba: RED\x7d]").isSome = true := by decide +kernel
example : (ofLiteral? "1) @skip(if: true").isSome = true := by decide +kernel
example : (ofLiteral? "1, b: 2").isNone = true := by decide +kernel

end Value

namespace Introspection

/-- A conversion that may fail. -/
abbrev Converted (α : Type) := Except IntrospectionFault α

/-- The name with a text. -/
def nameOf (text : String) : Converted Name :=
  match Name.ofText? text with
  | some name => .ok name
  | none => .error (.invalidName text)

/-- The value of a literal. -/
def valueOf (literal : String) : Converted Value :=
  match Value.ofLiteral? literal with
  | some value => .ok value
  | none => .error (.invalidDefault literal)

/-- The value of a literal, if there is one. -/
def valueOf? : Option String → Converted (Option Value)
  | some literal => (valueOf literal).map some
  | none => .ok none

/-- The place with a name. -/
def locationOf (name : String) : Converted DirectiveLocation :=
  match DirectiveLocation.ofText? name with
  | some location => .ok location
  | none => .error (.unknownLocation name)

/-! ## Deprecation -/

/-- The reason of a deprecation that gives none. -/
def defaultReason : String := "No longer supported"

/-- The directive of a deprecation. -/
def deprecatedName : Name := ⟨"deprecated", by decide⟩

/-- The argument with the reason of a deprecation. -/
def reasonName : Name := ⟨"reason", by decide⟩

/-- The directives that say whether and why something is deprecated. -/
def deprecation (isDeprecated : Bool) (reason : Option String) : List Directive :=
  if isDeprecated then
    match reason with
    | some reason =>
        if reason = defaultReason then [{ name := deprecatedName }]
        else [{ name := deprecatedName, arguments := [(reasonName, .string reason)] }]
    | none => [{ name := deprecatedName }]
  else []

/-! ## Records -/

namespace ReferenceRecord

/-- The type that a reference is to. -/
def reference : ReferenceRecord → Converted TypeReference
  | ⟨.nonNull, _, some inner⟩ => inner.reference.map TypeReference.nonNull
  | ⟨.list, _, some inner⟩ => inner.reference.map fun item => .list item false
  | ⟨.nonNull, _, none⟩ => .error (.missingType .nonNull)
  | ⟨.list, _, none⟩ => .error (.missingType .list)
  | ⟨_, some name, _⟩ => (nameOf name).map fun name => .named name false
  | ⟨kind, none, _⟩ => .error (.missingName kind)

/-- The name that a reference has itself. -/
def typeName (reference : ReferenceRecord) : Converted Name :=
  match reference.name with
  | some name => nameOf name
  | none => .error (.missingName reference.kind)

end ReferenceRecord

namespace InputValueRecord

/-- The definition of an argument or an input field. -/
def definition (record : InputValueRecord) : Converted InputValueDefinition := do
  let name ← nameOf record.name
  let type ← record.type.reference
  let defaultValue ← valueOf? record.defaultValue
  return { description := record.description, name, type, defaultValue }

end InputValueRecord

namespace FieldRecord

/-- The definition of a field. -/
def definition (record : FieldRecord) : Converted FieldDefinition := do
  let name ← nameOf record.name
  let arguments ← record.args.mapM InputValueRecord.definition
  let type ← record.type.reference
  return {
    description := record.description, name, arguments, type
    directives := deprecation record.isDeprecated record.deprecationReason }

end FieldRecord

namespace EnumValueRecord

/-- The definition of a value of an enum. -/
def definition (record : EnumValueRecord) : Converted EnumValueDefinition := do
  let name ← nameOf record.name
  return {
    description := record.description, name
    directives := deprecation record.isDeprecated record.deprecationReason }

end EnumValueRecord

namespace TypeRecord

/-- The interfaces and the fields of an object or an interface. -/
def fieldsPart (record : TypeRecord) : Converted (List Name × List FieldDefinition) := do
  let interfaces ← (record.interfaces.getD []).mapM ReferenceRecord.typeName
  let fields ← (record.fields.getD []).mapM FieldRecord.definition
  return (interfaces, fields)

/-- What the kind of a type adds, nothing for a wrapper. -/
def body? (record : TypeRecord) : Converted (Option TypeBody) :=
  match record.kind with
  | .scalar => .ok (some .scalar)
  | .object => record.fieldsPart.map fun part => some (.object part.1 part.2)
  | .interface => record.fieldsPart.map fun part => some (.interface part.1 part.2)
  | .union =>
      ((record.possibleTypes.getD []).mapM ReferenceRecord.typeName).map fun members =>
        some (.union members)
  | .enum =>
      ((record.enumValues.getD []).mapM EnumValueRecord.definition).map fun values =>
        some (.enum values)
  | .inputObject =>
      ((record.inputFields.getD []).mapM InputValueRecord.definition).map fun fields =>
        some (.input fields)
  | .list | .nonNull => .ok none

/-- The definition of a type, nothing for a wrapper. -/
def definition? (record : TypeRecord) : Converted (Option TypeDefinition) := do
  let name ← nameOf record.name
  let body ← record.body?
  return body.map fun body => { description := record.description, name, body }

/-- Whether a type is left out. -/
def isLeftOut (record : TypeRecord) : Bool :=
  ['_', '_'].isPrefixOf record.name.toList ||
    BuiltIn.scalarNames.any fun name => name.text = record.name

end TypeRecord

namespace DirectiveRecord

/-- The names of the built-in directives. -/
def builtInNames : List String := ["skip", "include", "deprecated", "specifiedBy", "oneOf"]

/-- The definition of a directive. -/
def definition (record : DirectiveRecord) : Converted DirectiveDefinition := do
  let name ← nameOf record.name
  let arguments ← record.args.mapM InputValueRecord.definition
  let locations ← record.locations.mapM locationOf
  return {
    description := record.description, name, arguments
    repeatable := record.isRepeatable, locations }

/-- Whether a directive is left out. -/
def isLeftOut (record : DirectiveRecord) : Bool := builtInNames.contains record.name

end DirectiveRecord

namespace SchemaRecord

/-- The root type of a kind of operation. -/
def root? (record : SchemaRecord) : OperationKind → Option RootRecord
  | .query => record.queryType
  | .mutation => record.mutationType
  | .subscription => record.subscriptionType

/-- The root types in their usual order. -/
def roots (record : SchemaRecord) : List (OperationKind × String) :=
  OperationKind.all.filterMap fun kind => (record.root? kind).map fun root => (kind, root.name)

/-- The schema definition, if some root type has another name than the default one. -/
def schema? (record : SchemaRecord) : Converted (Option SchemaDefinition) :=
  if record.roots.all fun root => root.2 = root.1.defaultRoot.text then .ok none
  else do
    let roots ← record.roots.mapM fun root => (nameOf root.2).map fun name => (root.1, name)
    return some { roots }

/-- The document of a schema. -/
def document (record : SchemaRecord) : Converted Document := do
  let directives ←
    (record.directives.filter fun directive => !directive.isLeftOut).mapM
      DirectiveRecord.definition
  let schema ← record.schema?
  let types ← (record.types.filter fun type => !type.isLeftOut).mapM TypeRecord.definition?
  return directives.map .directive ++ schema.toList.map .schema ++
    (types.filterMap id).map .type

end SchemaRecord

end Introspection

end Subgraph
