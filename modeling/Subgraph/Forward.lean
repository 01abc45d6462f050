import Subgraph.Http.Login
import Subgraph.Http.Status
import Subgraph.Message.Request
import Subgraph.Resolver.Error

/-!
# Forwarding requests

A request goes to the origin as one POST, and what comes back is read as a
response.

* The user name and the password of a URL go into a header field, unless the
  caller gives that field.
* A failed exchange becomes a response with one error.  So does an answer that
  is no response.
* A response counts whatever its status is.
* `Origin.forward` gives the data of a response without errors, and fails with
  the errors of any other.
-/

namespace Subgraph

namespace Origin

/-- The code of an error that stands for a failed exchange. -/
def httpErrorCode : String := "SUBREQUEST_HTTP_ERROR"

/-- The code of an error that stands for an answer that is no response. -/
def malformedCode : String := "SUBREQUEST_MALFORMED_RESPONSE"

/-- The response that stands for a failed exchange. -/
def failed (url : Url) (cause : String) : Response :=
  .ofError <| ResponseError.withCode
    { message := "HTTP fetch failed from '" ++ url.text ++ "': " ++ cause } httpErrorCode

/-- The message of the error that stands for an answer that is no response. -/
def malformedMessage (url : Url) : String := "response from '" ++ url.text ++ "' was malformed"

/-- The response that stands for an answer that is none. -/
def malformed (url : Url) : Response :=
  .ofError (ResponseError.withCode { message := malformedMessage url } malformedCode)

/-- The response that an answer holds. -/
def readAnswer (url : Url) (status : Nat) (body : String) : Response :=
  match Response.ofText? body with
  | some response => response
  | none => if Status.isSuccess status then malformed url else failed url (Status.text status)

/-- The header fields of a request.  The content type is always the one of its text. -/
def headersOf (url : Url) (headers : Headers) : Headers :=
  let given := headers.lowerCase.without "content-type"
  let login := if given.any fun field => field.1 = "authorization" then [] else url.authorization
  given ++ login ++ [("content-type", "application/json")]

/-- The POST of a request. -/
def postOf (url : Url) (headers : Headers) (request : Request) : Post where
  url := url.withoutLogin
  headers := headersOf url headers
  body := request.body

/-- Sends a request and reads the response. -/
def ask (url : Url) (headers : Headers) (request : Request) : Exchange Response := do
  match ← send (postOf url headers request) with
  | .ok (status, body) => return readAnswer url status body
  | .error cause => return failed url cause.message

/-- Sends a request and takes the data of the response. -/
def forward (url : Url) (headers : Headers) (request : Request) :
    Exchange (Except ResolverError Json) := do
  let response ← ask url headers request
  if response.hasErrors then return .error (.remote response.errors)
  else return .ok (response.data.getD .null)

end Origin

end Subgraph
