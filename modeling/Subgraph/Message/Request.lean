import Subgraph.Json.Record
import Subgraph.Json.Reader

/-!
# Requests

A request to a service is a query text and, perhaps, the values of its
variables.  An empty set of variables is something else than none.  Other members
of a request that is read are skipped, whatever their values.
-/

namespace Subgraph

/-- A request to a service. -/
structure Request where
  /-- The text of the query. -/
  query : String
  /-- The values of its variables. -/
  variableValues : Option (List (String × Json)) := none

namespace Request

/-- The request as a JSON value, without a member for missing variables. -/
def toJson (request : Request) : Json :=
  .obj (("query", .str request.query) ::
    match request.variableValues with
    | some values => [("variables", .obj values)]
    | none => [])

/-- The text that is sent for a request. -/
def body (request : Request) : String := request.toJson.compress

/-- The members of a request. -/
def shape : Json.Shape := .record [("query", .any), ("variables", .any)]

/-- Reads a request. -/
def ofJson (value : Json) : Except Json.Mismatch Request :=
  Json.record "Request" { query := "" } value
    [.required "query" Json.text fun r x => { r with query := x },
      .optional "variables" Json.object fun r x => { r with variableValues := x }]

/-- The request with its data reduced to the last value of each member. -/
def withoutRepeats (request : Request) : Request :=
  { request with
    variableValues := request.variableValues.map (Json.withoutRepeatsIn []) }

/-- Reads a request from a text.  Its own members may not come twice, those of its data may. -/
def ofText? (text : String) : Option Request := do
  let source ← Json.shaped? shape text
  let request ← (ofJson source).toOption
  return request.withoutRepeats

end Request

end Subgraph
