import Subgraph.Http.DomainName
import Subgraph.Text.Percent

/-!
# Hosts

The host of a URL is a domain name or an address.

* A domain name is in its form in ASCII.  What is percent-encoded in it counts
  as itself.
* A name whose last part is a number is an IPv4 address.  Its parts may be
  decimal, octal or hexadecimal, and the last one fills the bytes that are
  left.
* A name in brackets is an IPv6 address.  The longest run of zero pieces is
  written as two colons.
-/

namespace Subgraph

/-- The host of a URL. -/
inductive Host where
  | domain (name : String)
  | ipv4 (address : Nat)
  | ipv6 (pieces : List Nat)
deriving DecidableEq

namespace Host

/-! ## IPv4 addresses -/

/-- The number written by digits to a base. -/
def numberToBase? (base : Nat) (digits : List Char) : Option Nat :=
  digits.foldlM (fun n c => do
    let digit ← Text.hexDigit? c
    if digit < base then some (base * n + digit) else none) 0

/-- A part of an IPv4 address: hexadecimal after `0x`, octal after `0`, else decimal. -/
def ipv4Part? : List Char → Option Nat
  | [] => none
  | '0' :: 'x' :: digits => numberToBase? 16 digits
  | '0' :: 'X' :: digits => numberToBase? 16 digits
  | '0' :: digits => numberToBase? 8 digits
  | digits => numberToBase? 10 digits

/-- The parts of a name, without an empty one at its end. -/
def nameParts (cs : List Char) : List (List Char) :=
  let parts := Text.split '.' cs
  if 1 < parts.length ∧ parts.getLast? = some [] then parts.dropLast else parts

/-- Whether the last part of a name is a number. -/
def endsInNumber (cs : List Char) : Bool :=
  match (nameParts cs).getLast? with
  | some part => (!part.isEmpty && part.all Char.isDigit) || (ipv4Part? part).isSome
  | none => false

/-- The address of a name that ends in a number. -/
def ipv4? (cs : List Char) : Option Nat := do
  let parts ← (nameParts cs).mapM ipv4Part?
  let last ← parts.getLast?
  let front := parts.dropLast
  if front.length < 4 ∧ front.all (· < 256) ∧ last < Nat.pow 256 (4 - front.length) then
    some (front.foldl (fun n part => 256 * n + part) 0 * Nat.pow 256 (4 - front.length) +
      last)
  else none

/-- The four bytes of an address with dots between them. -/
def ipv4Text (address : Nat) : String :=
  ".".intercalate ([3, 2, 1, 0].map fun place => toString (address / Nat.pow 256 place % 256))

/-! ## IPv6 addresses -/

/-- A piece of an IPv6 address, of one to four digits. -/
def ipv6Piece? (cs : List Char) : Option Nat :=
  if 0 < cs.length ∧ cs.length ≤ 4 then Text.hexValue? cs else none

/-- A byte in decimal digits without leading zeros. -/
def decimalByte? (cs : List Char) : Option Nat :=
  match cs with
  | [] => none
  | '0' :: _ :: _ => none
  | cs => if cs.length ≤ 3 then (numberToBase? 10 cs).filter (· < 256) else none

/-- The two pieces of an IPv4 address at the end of an IPv6 address. -/
def embedded? (cs : List Char) : Option (List Nat) := do
  match ← (Text.split '.' cs).mapM decimalByte? with
  | [a, b, c, d] => some [256 * a + b, 256 * c + d]
  | _ => none

/-- Pieces with colons between them, perhaps with an IPv4 address at the end. -/
def ipv6Pieces? (mayEmbed : Bool) (cs : List Char) : Option (List Nat) :=
  if cs.isEmpty then some []
  else do
    let parts := Text.split ':' cs
    let last ← parts.getLast?
    let front ← parts.dropLast.mapM ipv6Piece?
    let back ← if mayEmbed && last.contains '.' then embedded? last
      else (ipv6Piece? last).map ([·])
    some (front ++ back)

/-- What stands before and after the first two colons. -/
def splitAtGap : List Char → Option (List Char × List Char)
  | ':' :: ':' :: rest => some ([], rest)
  | c :: rest => (splitAtGap rest).map fun (front, back) => (c :: front, back)
  | [] => none

/-- The eight pieces of an address. -/
def ipv6? (cs : List Char) : Option (List Nat) := do
  match splitAtGap cs with
  | some (front, back) => do
      let front ← ipv6Pieces? false front
      let back ← ipv6Pieces? true back
      if front.length + back.length < 8 then
        some (front ++ List.replicate (8 - front.length - back.length) 0 ++ back)
      else none
  | none => (← ipv6Pieces? true cs) |> fun pieces =>
      if pieces.length = 8 then some pieces else none

/-- How many zeros stand at the front. -/
def zeros (pieces : List Nat) : Nat := (pieces.takeWhile (· = 0)).length

/-- The longest run of zeros that stands at the front of some rest of a list. -/
def longestZeros : List Nat → Nat
  | [] => 0
  | piece :: rest => max (zeros (piece :: rest)) (longestZeros rest)

/-- Pieces with colons between them. -/
def piecesText (pieces : List Nat) : String :=
  ":".intercalate (pieces.map fun piece => String.ofList (Nat.toDigits 16 piece))

/-- What stands before the first run of so many zeros. -/
def beforeZeros (count : Nat) : List Nat → List Nat
  | [] => []
  | piece :: rest =>
      if zeros (piece :: rest) = count then [] else piece :: beforeZeros count rest

/-- The text of an address, with its first longest run of two or more zeros left out. -/
def ipv6Text (pieces : List Nat) : String :=
  let count := longestZeros pieces
  if count < 2 then piecesText pieces
  else
    let front := beforeZeros count pieces
    piecesText front ++ "::" ++ piecesText (pieces.drop (front.length + count))

/-! ## Hosts -/

/-- Reads the host of a URL. -/
def ofChars? (cs : List Char) : Option Host :=
  match cs with
  | '[' :: rest =>
      if rest.getLast? = some ']' then (ipv6? rest.dropLast).map ipv6 else none
  | cs => do
      let name ← DomainName.toAscii? (← Text.percentDecoded? cs)
      if name.isEmpty then none
      else if endsInNumber name then (ipv4? name).map ipv4
      else some (domain (String.ofList name))

/-- The text of a host. -/
def text : Host → String
  | domain name => name
  | ipv4 address => ipv4Text address
  | ipv6 pieces => "[" ++ ipv6Text pieces ++ "]"

end Host

end Subgraph
