/-!
# Introspection records

What a service tells about its schema, as it comes: names and literals are
texts that nobody has checked, and a reference to a type may be cut off.
-/

namespace Subgraph.Introspection

/-- The kind of a type, or of a layer of a reference to one. -/
inductive TypeKind where
  | scalar | object | interface | union | enum | inputObject | list | nonNull
deriving DecidableEq, Inhabited

namespace TypeKind

/-- The name of a kind as services write it. -/
def text : TypeKind → String
  | scalar => "SCALAR"
  | object => "OBJECT"
  | interface => "INTERFACE"
  | union => "UNION"
  | enum => "ENUM"
  | inputObject => "INPUT_OBJECT"
  | list => "LIST"
  | nonNull => "NON_NULL"

/-- The name of a kind in messages. -/
def title : TypeKind → String
  | scalar => "Scalar"
  | object => "Object"
  | interface => "Interface"
  | union => "Union"
  | enum => "Enum"
  | inputObject => "InputObject"
  | list => "List"
  | nonNull => "NonNull"

/-- All kinds. -/
def all : List TypeKind := [scalar, object, interface, union, enum, inputObject, list, nonNull]

/-- The kind with a name. -/
def ofText? (name : String) : Option TypeKind := all.find? fun kind => kind.text = name

@[simp] theorem ofText?_text (kind : TypeKind) : ofText? kind.text = some kind := by
  cases kind <;> decide

end TypeKind

/-- A reference to a type, or one layer of it. -/
structure ReferenceRecord where
  /-- The kind of the type, or of the layer. -/
  kind : TypeKind := .scalar
  /-- The name of the type. -/
  name : Option String := none
  /-- What the layer is around. -/
  ofType : Option ReferenceRecord := none
deriving Inhabited

/-- A root type. -/
structure RootRecord where
  /-- The name. -/
  name : String
deriving DecidableEq

/-- An argument, or a field of an input object. -/
structure InputValueRecord where
  /-- The name. -/
  name : String := ""
  /-- The description. -/
  description : Option String := none
  /-- The type. -/
  type : ReferenceRecord := {}
  /-- The default, as a literal. -/
  defaultValue : Option String := none
deriving Inhabited

/-- A field of an object or an interface. -/
structure FieldRecord where
  /-- The name. -/
  name : String := ""
  /-- The description. -/
  description : Option String := none
  /-- The arguments. -/
  args : List InputValueRecord := []
  /-- The type. -/
  type : ReferenceRecord := {}
  /-- Whether the field is deprecated. -/
  isDeprecated : Bool := false
  /-- Why it is. -/
  deprecationReason : Option String := none
deriving Inhabited

/-- A value of an enum. -/
structure EnumValueRecord where
  /-- The name. -/
  name : String := ""
  /-- The description. -/
  description : Option String := none
  /-- Whether the value is deprecated. -/
  isDeprecated : Bool := false
  /-- Why it is. -/
  deprecationReason : Option String := none
deriving Inhabited

/-- A type. -/
structure TypeRecord where
  /-- The kind. -/
  kind : TypeKind := .scalar
  /-- The name. -/
  name : String := ""
  /-- The description. -/
  description : Option String := none
  /-- The fields of an object or an interface. -/
  fields : Option (List FieldRecord) := none
  /-- The fields of an input object. -/
  inputFields : Option (List InputValueRecord) := none
  /-- The interfaces of an object or an interface. -/
  interfaces : Option (List ReferenceRecord) := none
  /-- The values of an enum. -/
  enumValues : Option (List EnumValueRecord) := none
  /-- The members of a union. -/
  possibleTypes : Option (List ReferenceRecord) := none
deriving Inhabited

/-- A directive. -/
structure DirectiveRecord where
  /-- The name. -/
  name : String := ""
  /-- The description. -/
  description : Option String := none
  /-- The places where it may be applied. -/
  locations : List String := []
  /-- The arguments. -/
  args : List InputValueRecord := []
  /-- Whether it may be applied twice to one thing. -/
  isRepeatable : Bool := false
deriving Inhabited

/-- A schema. -/
structure SchemaRecord where
  /-- The root type of queries. -/
  queryType : Option RootRecord := none
  /-- The root type of mutations. -/
  mutationType : Option RootRecord := none
  /-- The root type of subscriptions. -/
  subscriptionType : Option RootRecord := none
  /-- The types. -/
  types : List TypeRecord := []
  /-- The directives. -/
  directives : List DirectiveRecord := []
deriving Inhabited

end Subgraph.Introspection
