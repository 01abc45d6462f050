import Subgraph.Language.Document

/-!
# Built-in types

The types that every schema has: five scalars, and the types of the
introspection system.  They are real types.  A field may refer to them, and an
inferred key may lead through them.
-/

namespace Subgraph

namespace BuiltIn

/-! ## Scalars -/

/-- The name of the integer scalar. -/
def int : Name := ⟨"Int", by decide⟩

/-- The name of the float scalar. -/
def float : Name := ⟨"Float", by decide⟩

/-- The name of the string scalar. -/
def string : Name := ⟨"String", by decide⟩

/-- The name of the boolean scalar. -/
def boolean : Name := ⟨"Boolean", by decide⟩

/-- The name of the identifier scalar. -/
def id : Name := ⟨"ID", by decide⟩

/-- The names of the scalars. -/
def scalarNames : List Name := [int, float, string, boolean, id]

/-! ## Types of the introspection system -/

/-- A nullable type. -/
def nullable (name : Name) : TypeReference := .named name false

/-- A type that is not null. -/
def required (name : Name) : TypeReference := .named name true

/-- A nullable list of values that are not null. -/
def listOf (name : Name) : TypeReference := .list (.named name true) false

/-- A list of values, both not null. -/
def requiredListOf (name : Name) : TypeReference := .list (.named name true) true

/-- A field without arguments. -/
def field (name : Name) (type : TypeReference) : FieldDefinition := { name, type }

/-- A list of fields, values or arguments that leaves deprecated ones out unless asked. -/
def fieldWithDeprecated (name : Name) (type : TypeReference) : FieldDefinition :=
  { name, type,
    arguments :=
      [{ name := ⟨"includeDeprecated", by decide⟩, type := nullable boolean,
         defaultValue := some (.boolean false) }] }

/-- An object type. -/
def object (name : Name) (fields : List FieldDefinition) : TypeDefinition :=
  { name, body := .object [] fields }

/-- An enum type. -/
def enum (name : Name) (values : List Name) : TypeDefinition :=
  { name, body := .enum (values.map fun value => { name := value }) }

/-- The name of the type that describes a schema. -/
def schemaName : Name := ⟨"__Schema", by decide⟩

/-- The name of the type that describes a type. -/
def typeName : Name := ⟨"__Type", by decide⟩

/-- The name of the enum of the kinds of types. -/
def typeKindName : Name := ⟨"__TypeKind", by decide⟩

/-- The name of the type that describes a field. -/
def fieldName : Name := ⟨"__Field", by decide⟩

/-- The name of the type that describes an argument or an input field. -/
def inputValueName : Name := ⟨"__InputValue", by decide⟩

/-- The name of the type that describes a value of an enum. -/
def enumValueName : Name := ⟨"__EnumValue", by decide⟩

/-- The name of the type that describes a directive. -/
def directiveName : Name := ⟨"__Directive", by decide⟩

/-- The name of the enum of the places where a directive may be applied. -/
def directiveLocationName : Name := ⟨"__DirectiveLocation", by decide⟩

/-- The field that a description is in. -/
def description : FieldDefinition := field ⟨"description", by decide⟩ (nullable string)

/-- The field that a name is in. -/
def name : FieldDefinition := field ⟨"name", by decide⟩ (required string)

/-- The fields that say whether and why something is deprecated. -/
def deprecation : List FieldDefinition :=
  [field ⟨"isDeprecated", by decide⟩ (required boolean),
    field ⟨"deprecationReason", by decide⟩ (nullable string)]

/-- The built-in types in order. -/
def types : List TypeDefinition :=
  scalarNames.map (fun name => { name, body := .scalar }) ++
  [object schemaName
      [description,
        field ⟨"types", by decide⟩ (requiredListOf typeName),
        field ⟨"queryType", by decide⟩ (required typeName),
        field ⟨"mutationType", by decide⟩ (nullable typeName),
        field ⟨"subscriptionType", by decide⟩ (nullable typeName),
        field ⟨"directives", by decide⟩ (requiredListOf directiveName)],
    object typeName
      [field ⟨"kind", by decide⟩ (required typeKindName),
        field ⟨"name", by decide⟩ (nullable string),
        description,
        fieldWithDeprecated ⟨"fields", by decide⟩ (listOf fieldName),
        field ⟨"interfaces", by decide⟩ (listOf typeName),
        field ⟨"possibleTypes", by decide⟩ (listOf typeName),
        fieldWithDeprecated ⟨"enumValues", by decide⟩ (listOf enumValueName),
        fieldWithDeprecated ⟨"inputFields", by decide⟩ (listOf inputValueName),
        field ⟨"ofType", by decide⟩ (nullable typeName),
        field ⟨"specifiedByURL", by decide⟩ (nullable string)],
    enum typeKindName
      [⟨"SCALAR", by decide⟩, ⟨"OBJECT", by decide⟩, ⟨"INTERFACE", by decide⟩,
        ⟨"UNION", by decide⟩, ⟨"ENUM", by decide⟩, ⟨"INPUT_OBJECT", by decide⟩,
        ⟨"LIST", by decide⟩, ⟨"NON_NULL", by decide⟩],
    object fieldName
      ([name, description,
        fieldWithDeprecated ⟨"args", by decide⟩ (requiredListOf inputValueName),
        field ⟨"type", by decide⟩ (required typeName)] ++ deprecation),
    object inputValueName
      ([name, description,
        field ⟨"type", by decide⟩ (required typeName),
        field ⟨"defaultValue", by decide⟩ (nullable string)] ++ deprecation),
    object enumValueName ([name, description] ++ deprecation),
    object directiveName
      [name, description,
        field ⟨"locations", by decide⟩ (requiredListOf directiveLocationName),
        fieldWithDeprecated ⟨"args", by decide⟩ (requiredListOf inputValueName),
        field ⟨"isRepeatable", by decide⟩ (required boolean)],
    enum directiveLocationName
      [⟨"QUERY", by decide⟩, ⟨"MUTATION", by decide⟩, ⟨"SUBSCRIPTION", by decide⟩,
        ⟨"FIELD", by decide⟩, ⟨"FRAGMENT_DEFINITION", by decide⟩,
        ⟨"FRAGMENT_SPREAD", by decide⟩, ⟨"INLINE_FRAGMENT", by decide⟩,
        ⟨"VARIABLE_DEFINITION", by decide⟩, ⟨"SCHEMA", by decide⟩, ⟨"SCALAR", by decide⟩,
        ⟨"OBJECT", by decide⟩, ⟨"FIELD_DEFINITION", by decide⟩,
        ⟨"ARGUMENT_DEFINITION", by decide⟩, ⟨"INTERFACE", by decide⟩, ⟨"UNION", by decide⟩,
        ⟨"ENUM", by decide⟩, ⟨"ENUM_VALUE", by decide⟩, ⟨"INPUT_OBJECT", by decide⟩,
        ⟨"INPUT_FIELD_DEFINITION", by decide⟩]]

/-- Whether a name belongs to a built-in type. -/
def isName (name : Name) : Bool := types.any fun type => type.name = name

end BuiltIn

end Subgraph
