import Subgraph.Language.Value

/-!
# Documents

The definitions of a document.

* A type definition and a type extension have the same shape.  What its kind
  adds to the name and the directives is its `TypeBody`.
* A field of an object has arguments and no default.  An argument and a field
  of an input object have a default and no arguments.
* Operations and fragments are selections of fields, nested to any depth.
-/

namespace Subgraph

/-- A directive as it is applied, with its arguments in order. -/
structure Directive where
  /-- The name of the directive. -/
  name : Name
  /-- Its arguments. -/
  arguments : List (Name × Value) := []

/-! ## Types -/

/-- An argument, or a field of an input object. -/
structure InputValueDefinition where
  /-- What the documentation says. -/
  description : Option String := none
  /-- The name. -/
  name : Name
  /-- The type. -/
  type : TypeReference
  /-- The value that stands in for a missing one. -/
  defaultValue : Option Value := none
  /-- The directives applied to it. -/
  directives : List Directive := []

/-- A field of an object or an interface. -/
structure FieldDefinition where
  /-- What the documentation says. -/
  description : Option String := none
  /-- The name. -/
  name : Name
  /-- The arguments. -/
  arguments : List InputValueDefinition := []
  /-- The type. -/
  type : TypeReference
  /-- The directives applied to it. -/
  directives : List Directive := []

/-- A value of an enum. -/
structure EnumValueDefinition where
  /-- What the documentation says. -/
  description : Option String := none
  /-- The name. -/
  name : Name
  /-- The directives applied to it. -/
  directives : List Directive := []

/-- What the kind of a type adds to its name and directives. -/
inductive TypeBody where
  | scalar
  | object (interfaces : List Name) (fields : List FieldDefinition)
  | interface (interfaces : List Name) (fields : List FieldDefinition)
  | union (members : List Name)
  | enum (values : List EnumValueDefinition)
  | input (fields : List InputValueDefinition)

namespace TypeBody

/-- The word that introduces a definition of the kind. -/
def keyword : TypeBody → String
  | scalar => "scalar"
  | object _ _ => "type"
  | interface _ _ => "interface"
  | union _ => "union"
  | enum _ => "enum"
  | input _ => "input"

/-- Whether the kind's own part has nothing in it. -/
def isEmpty : TypeBody → Bool
  | scalar => true
  | object interfaces fields => interfaces.isEmpty && fields.isEmpty
  | interface interfaces fields => interfaces.isEmpty && fields.isEmpty
  | union members => members.isEmpty
  | enum values => values.isEmpty
  | input fields => fields.isEmpty

end TypeBody

/-- A type as it is defined or extended. -/
structure TypeDefinition where
  /-- What the documentation says. -/
  description : Option String := none
  /-- The name. -/
  name : Name
  /-- The directives applied to it. -/
  directives : List Directive := []
  /-- What its kind adds. -/
  body : TypeBody

/-! ## Directives and roots -/

/-- A place where a directive may be applied. -/
inductive DirectiveLocation where
  | query | mutation | subscription | field | fragmentDefinition | fragmentSpread
  | inlineFragment | variableDefinition
  | schema | scalar | object | fieldDefinition | argumentDefinition | interface | union
  | enum | enumValue | inputObject | inputFieldDefinition
deriving DecidableEq

namespace DirectiveLocation

/-- The name of a place. -/
def text : DirectiveLocation → String
  | query => "QUERY"
  | mutation => "MUTATION"
  | subscription => "SUBSCRIPTION"
  | field => "FIELD"
  | fragmentDefinition => "FRAGMENT_DEFINITION"
  | fragmentSpread => "FRAGMENT_SPREAD"
  | inlineFragment => "INLINE_FRAGMENT"
  | variableDefinition => "VARIABLE_DEFINITION"
  | schema => "SCHEMA"
  | scalar => "SCALAR"
  | object => "OBJECT"
  | fieldDefinition => "FIELD_DEFINITION"
  | argumentDefinition => "ARGUMENT_DEFINITION"
  | interface => "INTERFACE"
  | union => "UNION"
  | enum => "ENUM"
  | enumValue => "ENUM_VALUE"
  | inputObject => "INPUT_OBJECT"
  | inputFieldDefinition => "INPUT_FIELD_DEFINITION"

/-- All places. -/
def all : List DirectiveLocation :=
  [query, mutation, subscription, field, fragmentDefinition, fragmentSpread, inlineFragment,
    variableDefinition, schema, scalar, object, fieldDefinition, argumentDefinition, interface,
    union, enum, enumValue, inputObject, inputFieldDefinition]

/-- The place with a name. -/
def ofText? (name : String) : Option DirectiveLocation := all.find? fun place => place.text = name

@[simp] theorem ofText?_text (place : DirectiveLocation) : ofText? place.text = some place := by
  cases place <;> decide

end DirectiveLocation

/-- A directive as it is defined. -/
structure DirectiveDefinition where
  /-- What the documentation says. -/
  description : Option String := none
  /-- The name. -/
  name : Name
  /-- The arguments. -/
  arguments : List InputValueDefinition := []
  /-- Whether it may be applied twice to one thing. -/
  repeatable : Bool := false
  /-- Where it may be applied. -/
  locations : List DirectiveLocation

/-- The kind of an operation. -/
inductive OperationKind where
  | query | mutation | subscription
deriving DecidableEq

namespace OperationKind

/-- The word for the kind. -/
def text : OperationKind → String
  | query => "query"
  | mutation => "mutation"
  | subscription => "subscription"

/-- The name of the root type of the kind, unless a schema says otherwise. -/
def defaultRoot : OperationKind → Name
  | query => ⟨"Query", by decide⟩
  | mutation => ⟨"Mutation", by decide⟩
  | subscription => ⟨"Subscription", by decide⟩

/-- The kinds in their usual order. -/
def all : List OperationKind := [query, mutation, subscription]

end OperationKind

/-- The root types of a schema as they are defined or extended. -/
structure SchemaDefinition where
  /-- What the documentation says. -/
  description : Option String := none
  /-- The directives applied to the schema. -/
  directives : List Directive := []
  /-- The root types by the kind of operation that starts there. -/
  roots : List (OperationKind × Name) := []

/-! ## Operations and fragments -/

/-- Something selected on a type. -/
inductive Selection where
  | field (responseKey : Option Name) (name : Name) (arguments : List (Name × Value))
      (directives : List Directive) (selections : List Selection)
  | spread (fragment : Name) (directives : List Directive)
  | inline (typeCondition : Option Name) (directives : List Directive)
      (selections : List Selection)

/-- A variable of an operation. -/
structure VariableDefinition where
  /-- The name. -/
  name : Name
  /-- The type. -/
  type : TypeReference
  /-- The value that stands in for a missing one. -/
  defaultValue : Option Value := none
  /-- The directives applied to it. -/
  directives : List Directive := []

/-- An operation. -/
structure Operation where
  /-- The kind. -/
  kind : OperationKind := .query
  /-- The name, if there is one. -/
  name : Option Name := none
  /-- The variables. -/
  variableDefinitions : List VariableDefinition := []
  /-- The directives applied to it. -/
  directives : List Directive := []
  /-- What is selected on the root type. -/
  selections : List Selection

/-- A named selection that others spread. -/
structure Fragment where
  /-- The name. -/
  name : Name
  /-- The type that it selects on. -/
  typeCondition : Name
  /-- The directives applied to it. -/
  directives : List Directive := []
  /-- What is selected on the type. -/
  selections : List Selection

/-! ## Documents -/

/-- One definition of a document. -/
inductive Definition where
  | operation (operation : Operation)
  | fragment (fragment : Fragment)
  | schema (schema : SchemaDefinition)
  | type (type : TypeDefinition)
  | directive (directive : DirectiveDefinition)
  | extendSchema (extension : SchemaDefinition)
  | extendType (extension : TypeDefinition)

/-- The definitions of a document in order. -/
abbrev Document := List Definition

end Subgraph
