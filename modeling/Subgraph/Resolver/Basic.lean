import Subgraph.Forward

/-!
# Resolvers

A resolver answers one field, or makes an entity from its representation.

* A placeholder answers null.
* A proxy sends the query of the client, with its variables and without its
  headers, to the origin, and picks the entry of its field from the data.
* Any other resolver is a function of the context.
-/

namespace Subgraph

/-- What is known when a field is resolved. -/
structure ResolverContext where
  /-- The value that the field belongs to, or the representation of an entity. -/
  parent : Json := .null
  /-- The arguments of the field. -/
  arguments : List (String × Json) := []
  /-- The text of the client's query. -/
  query : String := ""
  /-- The values of the client's variables. -/
  variableValues : List (String × Json) := []
  /-- The header fields of the client's request. -/
  headers : Headers := []

/-- How a field is resolved. -/
inductive Resolver where
  | placeholder
  | proxy (origin : Url) (field : String)
  | custom (run : ResolverContext → Exchange (Except ResolverError Json))

namespace Resolver

/-- Resolves a field. -/
def resolve (resolver : Resolver) (context : ResolverContext) :
    Exchange (Except ResolverError Json) :=
  match resolver with
  | placeholder => return .ok .null
  | proxy origin field => do
      let response ← Origin.ask origin []
        { query := context.query, variableValues := some context.variableValues }
      if response.hasErrors then return .error (.remote response.errors)
      else return .ok ((response.data.bind (Json.member? field)).getD .null)
  | custom run => run context

end Resolver

end Subgraph
