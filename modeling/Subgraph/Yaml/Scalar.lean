import Subgraph.Json.Reader
import Subgraph.Yaml.Fault
import Subgraph.Yaml.Token

/-!
# Values of scalars

* A plain scalar without a tag is null, a truth value or a number when it is
  written like one, and otherwise a text.  Null and truth values are in lower
  case.
* A number that is not finite is null.
* A whole number is in range from -2^63 up to 2^64 - 1, and is refused outside
  of it as long as it has 128 bits.  Beyond them it is a double.
* A plain scalar with a tag for a truth value, a whole number, a number or null
  has to be written like one.  With any other tag it is a text.
* A scalar in quotes or on lines of its own is a text, whatever its tag.
-/

namespace Subgraph.Yaml

/-! ## Numbers -/

/-- Takes a sign from the front, and says whether it is a minus. -/
def readSign : List Char → Bool × List Char
  | '-' :: rest => (true, rest)
  | '+' :: rest => (false, rest)
  | cs => (false, cs)

/-- The number written by digits to a base, at least one. -/
def wholeTo? (base : Nat) (digits : List Char) : Option Nat :=
  if digits.isEmpty then none
  else digits.foldlM (fun n c => do
    let digit ← Text.hexDigit? c
    if digit < base then some (base * n + digit) else none) 0

/-- Whether a whole number is in range. -/
def isInRange (n : Int) : Bool := -(Int.pow 2 63) ≤ n && n < Int.pow 2 64

/-- The base of the digits behind a mark. -/
def baseOf? : Char → Option Nat
  | 'x' => some 16
  | 'o' => some 8
  | 'b' => some 2
  | _ => none

/-- A whole number to another base than ten, which is in range.  A plus may stand behind the mark
unless a minus stands in front. -/
def markedNumber? (negative : Bool) : List Char → Option Int
  | '0' :: mark :: digits => do
      let base ← baseOf? mark
      let digits := if negative then digits else (readSign digits).2
      let magnitude ← wholeTo? base digits
      let n : Int := if negative then -magnitude else magnitude
      if isInRange n then some n else none
  | _ => none

/-- A whole number in decimal digits without leading zeros. -/
def decimalNumber? (negative : Bool) (digits : List Char) : Option Int := do
  guard (Json.isIntegerPart digits)
  let magnitude ← wholeTo? 10 digits
  return if negative then -magnitude else magnitude

/-- Whether a whole number has 128 bits, with its sign or without one. -/
def isWide (n : Int) : Bool := -(Int.pow 2 127) ≤ n && n < Int.pow 2 128

/-- The double nearest to a decimal. -/
def double? (negative : Bool) (cs : List Char) : Option Json := do
  let (integer, rest) := Json.spanDigits cs
  let (fraction, rest) :=
    match rest with
    | '.' :: rest => Json.spanDigits rest
    | rest => ([], rest)
  guard !(integer ++ fraction).isEmpty
  let (exponent, rest) ← Json.readExponent rest
  guard rest.isEmpty
  let value ← Double.ofDecimal? negative (Json.digitsValue (integer ++ fraction))
    (exponent.getD 0 - fraction.length)
  return .double value

/-! ## Plain scalars -/

/-- The ways to write a number that is not finite. -/
def infiniteTexts : List String :=
  [".nan", ".NaN", ".NAN", ".inf", ".Inf", ".INF", "+.inf", "+.Inf", "+.INF", "-.inf", "-.Inf",
    "-.INF"]

/-- The ways to write null. -/
def nullTexts : List String := ["", "~", "null"]

/-- Whether digits have a zero in front, which makes them a text. -/
def hasLeadingZero (digits : List Char) : Bool :=
  digits.all Char.isDigit && !Json.isIntegerPart digits

/-- The value of a plain scalar that is written like a number. -/
def number? (text : List Char) : Option (Except Misfit Json) :=
  let (negative, digits) := readSign text
  match markedNumber? negative digits with
  | some n => some (.ok (.int n))
  | none =>
      match decimalNumber? negative digits with
      | some n =>
          if isInRange n then some (.ok (.int n))
          else if isWide n then some (.error .numberOutOfRange)
          else (double? negative digits).map .ok
      | none => if hasLeadingZero digits then none else (double? negative digits).map .ok

/-- The value of a plain scalar without a tag. -/
def plainValue (text : String) : Except Misfit Json :=
  if nullTexts.contains text || infiniteTexts.contains text then .ok .null
  else if text = "true" then .ok (.bool true)
  else if text = "false" then .ok (.bool false)
  else (number? text.toList).getD (.ok (.str text))

/-! ## Tagged scalars -/

/-- The value of a text that is tagged as a whole number. -/
def taggedInt? (text : String) : Option Json := do
  let (negative, digits) := readSign text.toList
  let magnitude ← wholeTo? 10 digits
  let n : Int := if negative then -magnitude else magnitude
  if -(Int.pow 2 63) ≤ n && n < Int.pow 2 63 then some (.int n) else none

/-- The words for a number that is not finite. -/
def infiniteWords : List String := ["inf", "infinity", "nan"]

/-- The value of a text that is tagged as a number. -/
def taggedFloat? (text : String) : Option Json :=
  let (negative, digits) := readSign text.toList
  if infiniteWords.contains (String.ofList (digits.map Char.toLower)) then some .null
  else double? negative digits

/-- The value of a plain scalar with a tag of the standard ones. -/
def standardValue (name text : String) : Except Misfit Json :=
  let orElse (value : Option Json) (expected : String) :=
    (value.map Except.ok).getD (.error (.taggedText text expected))
  if name = "bool" then
    orElse (if text = "true" then some (.bool true) else if text = "false" then some (.bool false)
      else none) "a boolean"
  else if name = "int" then orElse (taggedInt? text) "an integer"
  else if name = "float" then orElse (taggedFloat? text) "a float"
  else if name = "null" then orElse (if nullTexts.contains text then some .null else none) "null"
  else .ok (.str text)

/-- The value of a scalar. -/
def scalarValue (tag : Option Tag) (isPlain : Bool) (text : String) : Except Misfit Json :=
  if !isPlain then .ok (.str text)
  else
    match tag with
    | none => plainValue text
    | some tag => if tag.handle = "!!" then standardValue tag.name text else .ok (.str text)

example : (number? ['0', 'x', '1', 'F']).isSome = true := by decide +kernel
example : (number? ['0', '0', '7']).isSome = false := by decide +kernel
example : (plainValue "18446744073709551616").toBool = false := by decide +kernel

end Subgraph.Yaml
