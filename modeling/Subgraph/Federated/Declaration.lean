import Subgraph.Schema.Basic

/-!
# Declarations

What a federated schema says about a type: its directives, and its fields,
values or members with their types, arguments and defaults.  It says nothing
about interfaces, descriptions, or the directives inside a type.

`Schema.declarations` are those of a schema, in its order, without interfaces
and built-in types.
-/

namespace Subgraph

/-- An argument, or a field of an input object. -/
structure InputDeclaration where
  /-- The name. -/
  name : Name
  /-- The type. -/
  type : TypeReference
  /-- The value that stands in for a missing one. -/
  defaultValue : Option Value := none

/-- A field of an object. -/
structure FieldDeclaration where
  /-- The name. -/
  name : Name
  /-- The arguments. -/
  arguments : List InputDeclaration := []
  /-- The type. -/
  type : TypeReference

/-- What the kind of a type adds to its name and directives. -/
inductive DeclarationBody where
  | object (fields : List FieldDeclaration)
  | input (fields : List InputDeclaration)
  | scalar
  | enum (values : List Name)
  | union (members : List Name)

namespace DeclarationBody

/-- The word that introduces a declaration of the kind. -/
def keyword : DeclarationBody → String
  | object _ => "type"
  | input _ => "input"
  | scalar => "scalar"
  | enum _ => "enum"
  | union _ => "union"

end DeclarationBody

/-- What a federated schema says about a type. -/
structure Declaration where
  /-- The name. -/
  name : Name
  /-- The directives applied to it. -/
  directives : List Directive := []
  /-- What its kind adds. -/
  body : DeclarationBody

namespace InputValueDefinition

/-- The declaration of an argument or an input field. -/
def declaration (value : InputValueDefinition) : InputDeclaration where
  name := value.name
  type := value.type
  defaultValue := value.defaultValue

end InputValueDefinition

namespace FieldDefinition

/-- The declaration of a field. -/
def declaration (field : FieldDefinition) : FieldDeclaration where
  name := field.name
  arguments := field.arguments.map InputValueDefinition.declaration
  type := field.type

end FieldDefinition

namespace TypeBody

/-- The declaration of what a kind adds.  An interface has none. -/
def declaration? : TypeBody → Option DeclarationBody
  | scalar => some .scalar
  | object _ fields => some (.object (fields.map FieldDefinition.declaration))
  | interface _ _ => none
  | union members => some (.union members)
  | enum values => some (.enum (values.map (·.name)))
  | input fields => some (.input (fields.map InputValueDefinition.declaration))

end TypeBody

namespace TypeDefinition

/-- The declaration of a type. -/
def declaration? (type : TypeDefinition) : Option Declaration :=
  type.body.declaration?.map fun body =>
    { name := type.name, directives := type.directives, body }

end TypeDefinition

namespace Schema

/-- The declarations of a schema. -/
def declarations (schema : Schema) : List Declaration :=
  schema.declared.filterMap TypeDefinition.declaration?

end Schema

end Subgraph
