import Subgraph.Http.Url
import Subgraph.Introspection.Conversion
import Subgraph.Json.Record
import Subgraph.Message.Response
import Subgraph.Options.Error

/-!
# Errors of federation

Why a schema or a service could not be federated.
-/

namespace Subgraph

/-- Why federation failed. -/
inductive FederationError where
  | configuration (error : ConfigurationError)
  | rejectedSchema
  | mismatchedIntrospection (mismatch : Json.Mismatch)
  | faultyIntrospection (fault : IntrospectionFault)
  | failedIntrospection (url : Url) (errors : List ResponseError)

namespace FederationError

/-- The messages of the errors that an introspection was answered with. -/
def joinedMessages (errors : List ResponseError) : String :=
  if errors.isEmpty then "response has no data"
  else ", ".intercalate (errors.map (·.message))

/-- What precedes the cause of a malformed answer to an introspection. -/
def malformedStart : String := "invalid schema: malformed introspection result: "

/-- The text of an error. -/
def message : FederationError → String
  | configuration error => "buildFederatedService: " ++ error.message
  | rejectedSchema => "invalid schema"
  | mismatchedIntrospection mismatch => malformedStart ++ mismatch.message
  | faultyIntrospection fault => malformedStart ++ fault.message
  | failedIntrospection url errors =>
      "introspection of '" ++ url.text ++ "' failed: " ++ joinedMessages errors

end FederationError

end Subgraph
