import Subgraph.OrderedMap
import Subgraph.Resolver.Basic
import Subgraph.Schema.Basic
import Subgraph.Text.Quoted

/-!
# Tables of resolvers

A table holds a resolver for some fields of some types, in the order in which
they were registered.

* Registering a field again replaces its resolver and keeps its place.
* Merging registers the entries of one table over those of another.
* A type with a resolver for one of its own fields has a reference resolver
  too, unless it is a root type.  Fields with two underscores in front do not
  count.
-/

namespace Subgraph

/-- The name under which a type's reference resolver is registered. -/
def referenceField : String := "__resolveReference"

/-- The resolvers of the fields of types. -/
structure ResolverTable where
  /-- The resolvers by type and field. -/
  types : OrderedMap String (OrderedMap String Resolver) := .empty

namespace ResolverTable

/-- The table without resolvers. -/
def empty : ResolverTable := ⟨.empty⟩

instance : EmptyCollection ResolverTable := ⟨empty⟩

instance : Inhabited ResolverTable := ⟨empty⟩

/-- The resolvers of a type. -/
def fieldsOf (table : ResolverTable) (type : String) : OrderedMap String Resolver :=
  (table.types.find? type).getD .empty

/-- Registers a resolver. -/
def insert (table : ResolverTable) (type field : String) (resolver : Resolver) : ResolverTable :=
  ⟨table.types.insert type ((table.fieldsOf type).insert field resolver)⟩

/-- The resolver of a field. -/
def find? (table : ResolverTable) (type field : String) : Option Resolver :=
  (table.types.find? type).bind fun fields => fields.find? field

/-- Whether a field has a resolver. -/
def contains (table : ResolverTable) (type field : String) : Bool :=
  (table.find? type field).isSome

/-- Whether a type has a reference resolver. -/
def hasReference (table : ResolverTable) (type : String) : Bool :=
  table.contains type referenceField

/-- Whether a table has no entry. -/
def isEmpty (table : ResolverTable) : Bool := table.types.isEmpty

/-- The types with a resolver, in order. -/
def typeNames (table : ResolverTable) : List String := table.types.keys

/-- The fields of a type with a resolver, in order. -/
def fieldNames (table : ResolverTable) (type : String) : List String := (table.fieldsOf type).keys

/-- The types, each with its fields, in order. -/
def listing (table : ResolverTable) : List (String × List String) :=
  table.types.entries.map fun entry => (entry.1, entry.2.keys)

/-- Registers the resolvers of another table over those of a table. -/
def merge (table overrides : ResolverTable) : ResolverTable :=
  overrides.types.entries.foldl (fun merged entry =>
    ⟨merged.types.insert entry.1 ((merged.fieldsOf entry.1).insertAll entry.2.entries)⟩) table

/-- Registers resolvers one after the other. -/
def ofList (entries : List (String × String × Resolver)) : ResolverTable :=
  entries.foldl (fun table entry => table.insert entry.1 entry.2.1 entry.2.2) empty

/-- Runs the resolver of a field, if there is one. -/
def resolve (table : ResolverTable) (type field : String) (context : ResolverContext) :
    Exchange (Option (Except ResolverError Json)) := do
  match table.find? type field with
  | some resolver => return some (← resolver.resolve context)
  | none => return none

/-- The text of a table: each type with its fields. -/
def text (table : ResolverTable) : String :=
  let entries := table.listing.map fun (type, fields) =>
    Text.quoted type ++ ": [" ++ ", ".intercalate (fields.map Text.quoted) ++ "]"
  "\x7b" ++ ", ".intercalate entries ++ "\x7d"

/-! ## The rule of reference resolvers -/

/-- Whether the name of a field begins with two underscores. -/
def isMeta (field : String) : Bool := ['_', '_'].isPrefixOf field.toList

/-- Whether a type has a resolver for a field of its own and lacks a reference resolver. -/
def lacksReference (table : ResolverTable) (type : String) : Bool :=
  !Name.isRoot type && (table.fieldNames type).any (fun field => !isMeta field) &&
    !table.hasReference type

/-- The first type that breaks the rule. -/
def missingReference? (table : ResolverTable) : Option String :=
  table.typeNames.find? table.lacksReference

example : (ofList [("User", "name", .placeholder), ("User", "id", .placeholder)]).text =
    "\x7b\"User\": [\"name\", \"id\"]\x7d" := by decide +kernel
example : (ofList [("User", "name", .placeholder)]).missingReference? = some "User" := by
  decide +kernel
example : (ofList [("Query", "me", .placeholder), ("User", "__type", .placeholder)]).missingReference?
    = none := by decide +kernel

end ResolverTable

end Subgraph
