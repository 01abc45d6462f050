import Subgraph.Http.Host

/-!
# URLs

The URLs of services that are reached over HTTP, with or without encryption.

* Controls and spaces around a URL, and tabs and line ends inside it, do not
  count.
* A backslash is a slash, and any number of slashes may follow the scheme.
* The port of the scheme is left out.
* In a path, a segment of one dot is dropped, and one of two dots takes the
  segment before it away.
* Each component percent-encodes its own set of characters.
-/

namespace Subgraph

/-- The scheme of a URL. -/
inductive Scheme where
  | http | https
deriving DecidableEq

namespace Scheme

/-- The name of a scheme. -/
def text : Scheme → String
  | http => "http"
  | https => "https"

/-- The port of a scheme. -/
def port : Scheme → Nat
  | http => 80
  | https => 443

/-- The scheme with a name, in any case. -/
def ofText? (name : String) : Option Scheme :=
  [http, https].find? fun scheme => scheme.text = name.toLower

end Scheme

/-- A URL of a service. -/
structure Url where
  /-- The scheme. -/
  scheme : Scheme
  /-- The user name, percent-encoded. -/
  username : String := ""
  /-- The password, percent-encoded. -/
  password : String := ""
  /-- The host. -/
  host : Host
  /-- The port, when it is not that of the scheme. -/
  port : Option Nat := none
  /-- The segments of the path, percent-encoded. -/
  segments : List String
  /-- What follows the question mark, percent-encoded. -/
  query : Option String := none
  /-- What follows the hash sign, percent-encoded. -/
  fragment : Option String := none
deriving DecidableEq

namespace Url

/-! ## Writing -/

/-- The user name and password, with the sign that ends them. -/
def credentials (url : Url) : String :=
  let password := if url.password.isEmpty then "" else ":" ++ url.password
  if url.username.isEmpty && url.password.isEmpty then "" else url.username ++ password ++ "@"

/-- A part that is there, after a sign. -/
def after (sign : String) : Option String → String
  | some part => sign ++ part
  | none => ""

/-- The text of a URL. -/
def text (url : Url) : String :=
  url.scheme.text ++ "://" ++ url.credentials ++ url.host.text ++
    after ":" (url.port.map toString) ++
    String.join (url.segments.map ("/" ++ ·)) ++ after "?" url.query ++ after "#" url.fragment

/-! ## The sets of the components -/

/-- The characters encoded in a fragment. -/
def fragmentSet : List Char := [' ', '"', '<', '>', '\x60']

/-- The characters encoded in a query. -/
def querySet : List Char := [' ', '"', '#', '<', '>', '\'']

/-- The characters encoded in a path. -/
def pathSet : List Char := [' ', '"', '#', '<', '>', '?', '\x60', '\x7b', '\x7d']

/-- The characters encoded in a user name or a password. -/
def credentialSet : List Char := pathSet ++ ['/', ':', ';', '=', '@', '[', '\\', ']', '^', '|']

/-- The text of a component, encoded. -/
def encoded (set : List Char) (cs : List Char) : String :=
  String.ofList (Text.percentEncoded set cs)

/-! ## Reading -/

/-- Whether a character around a URL does not count. -/
def isPadding (c : Char) : Bool := c.toNat ≤ 0x20

/-- The characters of a URL that count. -/
def significant (cs : List Char) : List Char :=
  (((cs.dropWhile isPadding).reverse.dropWhile isPadding).reverse).filter fun c =>
    c ≠ '\t' ∧ c ≠ '\n' ∧ c ≠ '\r'

/-- Whether a character is a slash of either kind. -/
def isSlash (c : Char) : Bool := c = '/' || c = '\\'

/-- The text before and after the last occurrence of a character. -/
def cutAtLast (mark : Char) (cs : List Char) : Option (List Char) × List Char :=
  let back := (cs.reverse.takeWhile (· ≠ mark)).reverse
  if back.length < cs.length then (some (cs.take (cs.length - back.length - 1)), back)
  else (none, cs)

/-- The host and the port of an authority. -/
def splitPort (cs : List Char) : List Char × Option (List Char) :=
  match cs with
  | '[' :: _ =>
      let (inside, rest) := Text.cut (· = ']') cs
      match rest with
      | none => (cs, none)
      | some rest =>
          let (more, port) := Text.cut (· = ':') rest
          (inside ++ [']'] ++ more, port)
  | cs => Text.cut (· = ':') cs

/-- The port with some digits, none when it is that of the scheme. -/
def port? (scheme : Scheme) (digits : List Char) : Option (Option Nat) :=
  if digits.isEmpty then some none
  else if digits.all Char.isDigit then
    let port := digits.foldl (fun n c => 10 * n + (c.toNat - '0'.toNat)) 0
    if port < Nat.pow 2 16 then some (if port = scheme.port then none else some port) else none
  else none

/-- A segment with its encoded dots written as dots. -/
def plainDots : List Char → List Char
  | '%' :: '2' :: 'e' :: rest => '.' :: plainDots rest
  | '%' :: '2' :: 'E' :: rest => '.' :: plainDots rest
  | c :: rest => c :: plainDots rest
  | [] => []

/-- The segments of a path, resolved.  The resolved ones come last first. -/
def resolve (done : List String) : List (List Char) → List String
  | [] => done.reverse
  | segment :: rest =>
      let done :=
        if plainDots segment = ['.'] then done
        else if plainDots segment = ['.', '.'] then done.drop 1
        else encoded pathSet segment :: done
      let isDots := plainDots segment = ['.'] ∨ plainDots segment = ['.', '.']
      if rest.isEmpty ∧ isDots then ("" :: done).reverse else resolve done rest

/-- The segments of the text that follows an authority. -/
def resolvedSegments (cs : List Char) : List String :=
  resolve [] (Text.split '/' ((cs.drop 1).map fun c => if isSlash c then '/' else c))

/-- Reads the scheme of a URL. -/
def readScheme (cs : List Char) : Option (Scheme × List Char) :=
  match Text.cut (· = ':') cs with
  | (name, some rest) => (Scheme.ofText? (String.ofList name)).map fun scheme => (scheme, rest)
  | _ => none

/-- Reads a URL. -/
def ofText? (source : String) : Option Url := do
  let (scheme, rest) ← readScheme (significant source.toList)
  let (rest, fragment) := Text.cut (· = '#') (rest.dropWhile isSlash)
  let (rest, query) := Text.cut (· = '?') rest
  let authority := rest.takeWhile fun c => !isSlash c
  let (login, address) := cutAtLast '@' authority
  let (username, password) := Text.cut (· = ':') (login.getD [])
  let (hostText, digits) := splitPort address
  let host ← if hostText.isEmpty then none else Host.ofChars? hostText
  let port ← port? scheme (digits.getD [])
  return {
    scheme, host, port
    username := encoded credentialSet username
    password := encoded credentialSet (password.getD [])
    segments := resolvedSegments (rest.dropWhile fun c => !isSlash c)
    query := query.map (encoded querySet)
    fragment := fragment.map (encoded fragmentSet) }

example : (ofText? " HTTP:\\\\Origin:0080/a/../b c?").map text =
    some "http://origin/b%20c?" := by decide +kernel
example : (ofText? "http://[0:0::1]").map text = some "http://[::1]/" := by decide +kernel
example : (ofText? "http://0x7f.1").map text = some "http://127.0.0.1/" := by decide +kernel
example : ofText? "http://host:65536/" = none := by decide +kernel
example : ofText? "http://a b/" = none := by decide +kernel

end Url

end Subgraph
