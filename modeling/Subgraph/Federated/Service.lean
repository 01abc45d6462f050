import Subgraph.Federated.Sdl
import Subgraph.Introspection.Query
import Subgraph.Introspection.Schema
import Subgraph.Options.Synthesis

/-!
# Federated services

A federated service has the text of its schema, its resolvers, and the options
that both were made with.

* `Schema.federate` works on a schema that is at hand.  With automatic options
  the gaps are filled, otherwise the options hold as they are.  Their resolvers
  are registered over the given ones.
* `Service.federate` asks the service behind a URL for its schema.  It checks
  the URL and the options before anything is sent, and it sends one request.
  The fields of the query and the mutation root without a resolver get a proxy.
-/

namespace Subgraph

/-- A service made ready for federation. -/
structure FederatedService where
  /-- The text of the federated schema. -/
  schema : String
  /-- The resolvers to register for it. -/
  resolvers : ResolverTable
  /-- The options that it was made with. -/
  options : Options

namespace Schema

/-- The options that hold for a schema. -/
def effectiveOptions (schema : Schema) (resolvers : ResolverTable) (options : Options) : Options :=
  if options.auto then options.synthesize schema resolvers else options

/-- Federates a schema. -/
def federate (schema : Schema) (resolvers : ResolverTable) (options : Options) :
    Except FederationError FederatedService :=
  match options.validate with
  | .error error => .error (.configuration error)
  | .ok () =>
      let effective := schema.effectiveOptions resolvers options
      .ok {
        schema := Sdl.render schema.declarations effective.types
        resolvers := resolvers.merge effective.resolvers
        options := effective }

/-- Federates the schema that a text defines. -/
def federateText (text : String) (resolvers : ResolverTable) (options : Options) :
    Except FederationError FederatedService := do
  (← ofText text).federate resolvers options

example : (federateText "type Query \x7b me: User \x7d type User \x7b name: String! id: [ID] \x7d"
      .empty .automatic).toOption.map (·.schema) =
    some ("extend type Query \x7b\n  me: User\n\x7d\n" ++
      "type User @key(fields: \"id\") \x7b\n  name: String!\n  id: [ID]\n\x7d") := by
  decide +kernel

end Schema

/-! ## Services behind a URL -/

namespace Service

/-- The URL of a service, checked. -/
def checkUrl (text : String) : Except ConfigurationError Url :=
  if text.isEmpty then .error .missingUrl
  else
    match Url.ofText? text with
    | some url => .ok url
    | none => .error (.invalidUrl text)

/-- The fields of the root type of a kind of operation. -/
def rootFields (schema : Schema) (kind : OperationKind) : List (Name × Name) :=
  match schema.root? kind with
  | some root =>
      match (schema.find? root).bind TypeDefinition.objectFields? with
      | some fields => fields.map fun field => (root, field.name)
      | none => []
  | none => []

/-- Registers a proxy for a field, unless it has a resolver. -/
def addProxy (url : Url) (table : ResolverTable) (field : Name × Name) : ResolverTable :=
  if table.contains field.1.text field.2.text then table
  else table.insert field.1.text field.2.text (.proxy url field.2.text)

/-- Registers a proxy for each field of the query and the mutation root without a resolver. -/
def addProxies (url : Url) (schema : Schema) (table : ResolverTable) : ResolverTable :=
  (rootFields schema .query ++ rootFields schema .mutation).foldl (addProxy url) table

/-- The data of a response without errors. -/
def introspectionData (url : Url) (response : Response) : Except FederationError Json :=
  match response.data, response.errors with
  | some data, [] => .ok data
  | _, errors => .error (.failedIntrospection url errors)

/-- Federates the schema that introspection data stands for. -/
def federateData (url : Url) (options : Options) (data : Json) :
    Except FederationError FederatedService := do
  let schema ← Schema.ofIntrospection data
  let federated ← schema.federate .empty options
  return { federated with resolvers := addProxies url schema federated.resolvers }

/-- The URL and the options of a service, checked. -/
def check (url : String) (options : Options) : Except ConfigurationError Url := do
  let url ← checkUrl url
  options.validate
  return url

/-- Federates the service behind a URL.  Without options the gaps are filled. -/
def federate (url : String) (options : Option Options) :
    Exchange (Except FederationError FederatedService) :=
  let options := options.getD .automatic
  match check url options with
  | .error error => return .error (.configuration error)
  | .ok url => do
      let response ← Origin.ask url [] { query := Introspection.query }
      return introspectionData url response >>= federateData url options

end Service

end Subgraph
