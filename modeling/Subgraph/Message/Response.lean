import Subgraph.Json.Record
import Subgraph.Json.Reader

/-!
# Responses

A response holds data, errors, or both.  An error has a message, and perhaps
the places and the path that it is about and further data of its own.

* Every member of a response and of an error may be left out.  A place has
  both its numbers.
* What is absent or empty is not written, an empty path excepted.
* Data that is null counts as absent, and errors that are null as none.
* Members that are not known are skipped, whatever their values.
-/

namespace Subgraph

/-- A place in the text of a query. -/
structure Location where
  /-- The line. -/
  line : Nat
  /-- The column. -/
  column : Nat
deriving DecidableEq

/-- An error that a service reports. -/
structure ResponseError where
  /-- What went wrong. -/
  message : String := ""
  /-- The places that it is about. -/
  locations : List Location := []
  /-- The path to the field that failed. -/
  path : Option (List Json) := none
  /-- Further data. -/
  extensions : List (String × Json) := []

/-- What a service answers. -/
structure Response where
  /-- The data. -/
  data : Option Json := none
  /-- The errors. -/
  errors : List ResponseError := []

/-! ## Writing -/

namespace Location

/-- The place as a JSON value. -/
def toJson (location : Location) : Json :=
  .obj [("line", .int location.line), ("column", .int location.column)]

end Location

namespace ResponseError

/-- The error as a JSON value. -/
def toJson (error : ResponseError) : Json :=
  .obj <|
    [("message", .str error.message)] ++
    (if error.locations.isEmpty then []
      else [("locations", .arr (error.locations.map Location.toJson))]) ++
    (match error.path with
      | some path => [("path", .arr path)]
      | none => []) ++
    (if error.extensions.isEmpty then [] else [("extensions", .obj error.extensions)])

/-- The error with a code, unless it has one. -/
def withCode (error : ResponseError) (code : String) : ResponseError :=
  if (Assoc.find? "code" error.extensions).isSome then error
  else { error with extensions := error.extensions ++ [("code", .str code)] }

end ResponseError

namespace Response

/-- The response as a JSON value. -/
def toJson (response : Response) : Json :=
  .obj <|
    (match response.data with
      | some data => [("data", data)]
      | none => []) ++
    (if response.errors.isEmpty then []
      else [("errors", .arr (response.errors.map ResponseError.toJson))])

/-- Whether a response reports an error. -/
def hasErrors (response : Response) : Bool := !response.errors.isEmpty

/-- A response that reports one error and has no data. -/
def ofError (error : ResponseError) : Response := { errors := [error] }

end Response

/-! ## Reading -/

namespace Location

/-- Reads a number of a line or a column, which is below 2^32. -/
def coordinate : Json → Except Json.Mismatch Nat
  | .int (.ofNat n) => if n < Nat.pow 2 32 then .ok n else .error (.wrongType (.int n) "u32")
  | value => .error (.wrongType value "u32")

/-- The members of a place. -/
def shape : Json.Shape := .record [("line", .any), ("column", .any)]

/-- Reads a place. -/
def ofJson (value : Json) : Except Json.Mismatch Location :=
  Json.record "Location" ⟨0, 0⟩ value
    [.required "line" (Json.each coordinate) fun r x => { r with line := x },
      .required "column" (Json.each coordinate) fun r x => { r with column := x }]

end Location

namespace ResponseError

/-- The members of an error. -/
def shape : Json.Shape :=
  .record [("message", .any), ("locations", .list Location.shape), ("path", .any),
    ("extensions", .any)]

/-- Reads an error. -/
def ofJson (value : Json) : Except Json.Mismatch ResponseError :=
  Json.record "Error" {} value
    [.defaulted "message" Json.text fun r x => { r with message := x },
      .defaulted "locations" (Json.items Location.ofJson) fun r x => { r with locations := x },
      .defaulted "path" (Json.nullable (Json.items .ok)) fun r x => { r with path := x },
      .defaulted "extensions" Json.object fun r x => { r with extensions := x }]

/-- The error with its data reduced to the last value of each member. -/
def withoutRepeats (error : ResponseError) : ResponseError :=
  { error with
    path := error.path.map Json.withoutRepeatsAll
    extensions := Json.withoutRepeatsIn [] error.extensions }

/-- Reads an error from a text. -/
def ofText? (text : String) : Option ResponseError := do
  let source ← Json.shaped? shape text
  let error ← (ofJson source).toOption
  return error.withoutRepeats

end ResponseError

namespace Response

/-- The members of a response. -/
def shape : Json.Shape := .record [("data", .any), ("errors", .list ResponseError.shape)]

/-- Reads a response. -/
def ofJson (value : Json) : Except Json.Mismatch Response :=
  Json.record "Response" {} value
    [.defaulted "data" (Json.nullable Json.plain) fun r x => { r with data := x },
      .defaulted "errors" (Json.nullable (Json.items ResponseError.ofJson)) fun r x =>
        { r with errors := x.getD [] }]

/-- The response with its data reduced to the last value of each member. -/
def withoutRepeats (response : Response) : Response :=
  { data := response.data.map Json.withoutRepeats
    errors := response.errors.map ResponseError.withoutRepeats }

/-- Reads a response from a text.  Members of the response, its errors and their places may not
come twice, those of its data may. -/
def ofText? (text : String) : Option Response := do
  let source ← Json.shaped? shape text
  let response ← (ofJson source).toOption
  return response.withoutRepeats

end Response

end Subgraph
