import Subgraph.Options.Error
import Subgraph.Options.TypeOptions
import Subgraph.Resolver.Table

/-!
# Options

What a caller says about a schema: what holds of single types, which resolvers
to use, and whether gaps are to be filled.

Merging lets overrides win leaf by leaf.

* Types of the override come first, then those that only the defaults know.
* Gaps are filled when either side asks for it.
* Resolvers of the override are registered over those of the defaults.
-/

namespace Subgraph

/-- What a caller says about a schema. -/
structure Options where
  /-- Whether gaps are to be filled. -/
  auto : Bool := false
  /-- What is said about single types. -/
  types : OrderedMap String TypeOptions := .empty
  /-- The caller's resolvers. -/
  resolvers : ResolverTable := .empty

namespace Options

/-- The options that say nothing. -/
def empty : Options := {}

/-- The options that only ask to fill gaps. -/
def automatic : Options := { auto := true }

/-- The options with other resolvers. -/
def withResolvers (options : Options) (resolvers : ResolverTable) : Options :=
  { options with resolvers }

/-- What is said about a type. -/
def typeOptions? (options : Options) (type : String) : Option TypeOptions :=
  options.types.find? type

/-- Checks the rule of reference resolvers. -/
def validate (options : Options) : Except ConfigurationError Unit :=
  match options.resolvers.missingReference? with
  | some type => .error (.missingReferenceResolver type)
  | none => .ok ()

/-- What both sides say about types, the override's types first. -/
def mergeTypes (defaults overrides : OrderedMap String TypeOptions) :
    OrderedMap String TypeOptions :=
  let merged := overrides.mapValues fun name said =>
    match defaults.find? name with
    | some gap => gap.merge said
    | none => said
  merged.insertAll (defaults.entries.filter fun entry => !overrides.contains entry.1)

/-- The options with overrides over them. -/
def merge (defaults overrides : Options) : Options where
  auto := defaults.auto || overrides.auto
  types := mergeTypes defaults.types overrides.types
  resolvers := defaults.resolvers.merge overrides.resolvers

/-- The types of the options, each as a JSON value. -/
def typesListing (options : Options) : List (String × Json) :=
  options.types.entries.map fun entry => (entry.1, entry.2.toJson)

/-- The options as a JSON value, without their resolvers. -/
def toJson (options : Options) : Json :=
  .obj [("auto", .bool options.auto), ("type", .obj options.typesListing)]

end Options

end Subgraph
