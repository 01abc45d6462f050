import Subgraph.Http.Url

/-!
# Origins

The origin is the service behind a URL, seen from the outside: the answers that
it has ready and the requests that it has got.

* Each request that reaches it takes the next answer.  Without one, the
  connection closes.
* No request reaches it while it does not listen.
* No request is made to a URL that is too long or whose host has a character
  that no request names.
-/

namespace Subgraph

/-- Header fields, in order. -/
abbrev Headers := List (String × String)

namespace Headers

/-- The fields without those of a name. -/
def without (name : String) (headers : Headers) : Headers :=
  headers.filter fun field => field.1 ≠ name

/-- The fields with their names in lower case. -/
def lowerCase (headers : Headers) : Headers :=
  headers.map fun field => (field.1.toLower, field.2)

/-- The fields in the order of their names.  Fields of one name keep their order. -/
def sorted (headers : Headers) : Headers := headers.mergeSort fun a b => decide (a.1 ≤ b.1)

end Headers

/-- A request as the origin gets it. -/
structure Post where
  /-- Where it went. -/
  url : Url
  /-- The header fields, names in lower case. -/
  headers : Headers
  /-- The text in it. -/
  body : String

/-- How the origin answers a request. -/
inductive Reply where
  | response (status : Nat) (body : String)
  | truncated
  | closed

/-- The origin, seen from the outside. -/
structure Origin where
  /-- Whether connections are taken, encrypted ones where a URL asks for them. -/
  isListening : Bool := true
  /-- The answers that are ready. -/
  replies : List Reply := []
  /-- The requests so far, oldest first. -/
  received : List Post := []

/-- Something done in exchange with the origin. -/
abbrev Exchange := StateM Origin

/-- Why no answer came back. -/
inductive ExchangeFailure where
  | notMade (url : Url)
  | notSent (url : Url)
  | incomplete

namespace ExchangeFailure

/-- The text of a failure. -/
def message : ExchangeFailure → String
  | notMade url => "builder error for url (" ++ url.text ++ ")"
  | notSent url => "error sending request for url (" ++ url.text ++ ")"
  | incomplete => "error decoding response body"

end ExchangeFailure

namespace Origin

/-- The length in bytes that the URL of a request may have. -/
def lengthLimit : Nat := 65534

/-- Whether a request to a URL can be made. -/
def isRequestable (url : Url) : Bool :=
  url.text.utf8ByteSize ≤ lengthLimit &&
    url.host.text.toList.all fun c => !(['"', '\x60', '\x7b', '\x7d'].contains c)

/-- Whether a post gets to the origin. -/
def receives (origin : Origin) (post : Post) : Bool :=
  isRequestable post.url && origin.isListening

/-- Sends a post and takes the status and the text of the answer. -/
def send (post : Post) : Exchange (Except ExchangeFailure (Nat × String)) := fun origin =>
  if !isRequestable post.url then (.error (.notMade post.url), origin)
  else if origin.isListening then
    let rest := { origin with
      replies := origin.replies.drop 1, received := origin.received ++ [post] }
    match origin.replies.head? with
    | some (.response status body) => (.ok (status, body), rest)
    | some .truncated => (.error .incomplete, rest)
    | some .closed | none => (.error (.notSent post.url), rest)
  else (.error (.notSent post.url), origin)

end Origin

end Subgraph
