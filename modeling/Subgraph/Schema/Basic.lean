import Subgraph.Language.Document
import Subgraph.OrderedMap
import Subgraph.Schema.BuiltIn

/-!
# Schemas

A schema holds its types in order, the types that every schema has in front,
then its directives and its root types.

* No two types have one name.
* A type is built in when its name is, whatever extensions have added to it.
-/

namespace Subgraph

/-- The types, directives and root types that a document defines. -/
structure Schema where
  /-- The types, built-in ones first. -/
  types : List TypeDefinition
  /-- The directives that the document defines. -/
  directives : List DirectiveDefinition
  /-- The root types by the kind of operation that starts there. -/
  roots : List (OperationKind × Name)
  /-- No two types have one name. -/
  distinct : (types.map (·.name)).Nodup

namespace Schema

/-- The type with a name. -/
def find? (schema : Schema) (name : Name) : Option TypeDefinition :=
  schema.types.find? fun type => type.name = name

/-- The root type of a kind of operation. -/
def root? (schema : Schema) (kind : OperationKind) : Option Name := Assoc.find? kind schema.roots

/-- The types that the document defines, in order. -/
def declared (schema : Schema) : List TypeDefinition :=
  schema.types.filter fun type => !BuiltIn.isName type.name

end Schema

namespace TypeDefinition

/-- The fields of an object type. -/
def objectFields? (type : TypeDefinition) : Option (List FieldDefinition) :=
  match type.body with
  | .object _ fields => some fields
  | _ => none

/-- Whether a type is an object type. -/
def isObject (type : TypeDefinition) : Bool := type.objectFields?.isSome

/-- Whether a directive with a name is applied to a type. -/
def hasDirective (type : TypeDefinition) (name : String) : Bool :=
  type.directives.any fun directive => directive.name.text = name

end TypeDefinition

/-- Whether a name is the default name of a root type. -/
def Name.isRoot (name : String) : Bool :=
  OperationKind.all.any fun kind => kind.defaultRoot.text = name

end Subgraph
