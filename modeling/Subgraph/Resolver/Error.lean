import Subgraph.Message.Response

/-!
# Errors of resolvers

A resolver fails with the errors that the origin reported, unchanged, or with a
message of its own.
-/

namespace Subgraph

/-- Why a field could not be resolved. -/
inductive ResolverError where
  | remote (errors : List ResponseError)
  | custom (message : String)

namespace ResolverError

/-- The text of an error. -/
def message : ResolverError → String
  | remote _ => "Error on query"
  | custom message => message

/-- The errors that the origin reported. -/
def errors : ResolverError → List ResponseError
  | remote errors => errors
  | custom _ => []

/-- The error as a response reports it.  What the origin reported is in its extensions. -/
def toResponseError (error : ResolverError) : ResponseError :=
  match error with
  | remote errors =>
      { message := error.message
        extensions := [("errors", .arr (errors.map ResponseError.toJson))] }
  | custom _ => { message := error.message }

end ResolverError

end Subgraph
