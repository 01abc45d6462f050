import Subgraph.Options.Basic
import Subgraph.Schema.Key

/-!
# Filling gaps

What a schema needs to be federated and a caller has not said.

* A type with the name of a root type is an extension, unless the caller or
  the schema has said whether it is one.
* An entity gets its inferred key, unless the caller or the schema gives one.
* An entity gets a placeholder as its reference resolver, unless the caller has
  one for it.

An entity is an object type that is not built in and has a field, and whose
name is not that of a root type and has no two underscores in front.  What the
caller said always stays.
-/

namespace Subgraph

namespace TypeDefinition

/-- Whether a type is an entity. -/
def isEntity (type : TypeDefinition) : Bool :=
  !type.name.isReserved && !Name.isRoot type.name.text &&
    match type.objectFields? with
    | some fields => !fields.isEmpty
    | none => false

end TypeDefinition

namespace Options

/-- Whether it is said whether a type is an extension. -/
def saysExtend (options : Options) (type : TypeDefinition) : Bool :=
  type.hasDirective "extends" ||
    (options.typeOptions? type.name.text).any fun said =>
      said.extend.isSome || said.mentions "@extends"

/-- Whether a key of a type is given. -/
def saysKey (options : Options) (type : TypeDefinition) : Bool :=
  type.hasDirective "key" ||
    (options.typeOptions? type.name.text).any fun said => said.mentions "@key"

/-- The directive that gives a key. -/
def keyDirective (path : List Name) : String := "@key(fields: \"" ++ Key.text path ++ "\")"

/-- What is missing about a type. -/
def gap? (schema : Schema) (options : Options) (type : TypeDefinition) : Option TypeOptions :=
  if Name.isRoot type.name.text then
    if options.saysExtend type then none else some { extend := some true }
  else if type.isEntity && !options.saysKey type then
    (Key.infer? schema type).map fun path => { directives := some (keyDirective path) }
  else none

/-- Whether a type needs a placeholder as its reference resolver. -/
def needsPlaceholder (options : Options) (resolvers : ResolverTable) (type : TypeDefinition) :
    Bool :=
  type.isEntity && !options.resolvers.hasReference type.name.text &&
    !resolvers.hasReference type.name.text

/-- The options that fill the gaps. -/
def defaults (schema : Schema) (options : Options) (resolvers : ResolverTable) : Options where
  auto := true
  types := .ofList <| schema.declared.filterMap fun type =>
    (gap? schema options type).map fun gap => (type.name.text, gap)
  resolvers := .ofList <| (schema.declared.filter (needsPlaceholder options resolvers)).map
    fun type => (type.name.text, referenceField, Resolver.placeholder)

/-- The caller's options with the gaps filled. -/
def synthesize (schema : Schema) (options : Options) (resolvers : ResolverTable) : Options :=
  (defaults schema options resolvers).merge options

end Options

end Subgraph
