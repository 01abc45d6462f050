import Subgraph.Json.Basic
import Subgraph.Text.CodePoint

/-!
# JSON values as they are written

A value as its text has it: numbers with all their digits, strings with their
escapes, and every member of an object.  What is written need not denote a
JSON value.

* An integer from -2^63 up to 2^64 - 1 stays an integer.  Any other number,
  and `-0`, is the nearest double.  A number beyond the doubles denotes nothing.
* A string with an escape of half a surrogate pair denotes nothing.
* Nothing is denoted by more than `limit` containers inside one another.

Who reads a record skips the members that it does not know.  A `Shape` says
which those are, and `Written.known?` leaves them out.  So they may be anything
that is written as a value should be.
-/

namespace Subgraph

namespace Json

/-- A number as it is written. -/
structure NumberText where
  /-- Whether it has a sign. -/
  negative : Bool
  /-- The digits before the point. -/
  integer : List Char
  /-- The digits after the point. -/
  fraction : List Char
  /-- The exponent. -/
  exponent : Option Int

/-- A value as it is written.  A string and the name of a member keep their escapes. -/
inductive Written where
  | null
  | bool (value : Bool)
  | number (text : NumberText)
  | str (raw : List Char)
  | arr (items : List Written)
  | obj (members : List (List Char × Written))

/-! ## Numbers and strings -/

/-- The number written by decimal digits. -/
def digitsValue (digits : List Char) : Nat :=
  digits.foldl (fun n c => 10 * n + (c.toNat - '0'.toNat)) 0

/-- The value of a number. -/
def NumberText.value? (number : NumberText) : Option Json :=
  let asDouble := (Double.ofDecimal? number.negative
    (digitsValue (number.integer ++ number.fraction))
    (number.exponent.getD 0 - number.fraction.length)).map Json.double
  if number.fraction.isEmpty ∧ number.exponent.isNone then
    let magnitude := digitsValue number.integer
    if number.negative then
      if 0 < magnitude ∧ magnitude ≤ Nat.pow 2 63 then some (.int (-magnitude)) else asDouble
    else if magnitude < Nat.pow 2 64 then some (.int magnitude) else asDouble
  else asDouble

/-- Reads an escape, after its backslash. -/
def readEscape : List Char → Option (Char × List Char)
  | 'u' :: rest => Text.readUnits rest
  | c :: rest => (Text.letterEscape? c).map fun c => (c, rest)
  | [] => none

/-- The characters that a string denotes. -/
def unescaped? (raw : List Char) : Option (List Char) :=
  match raw with
  | [] => some []
  | '\\' :: rest => do
      let (c, next) ← readEscape rest
      if next.length ≤ rest.length then
        let others ← unescaped? next
        some (c :: others)
      else none
  | c :: rest => (unescaped? rest).map (c :: ·)
termination_by raw.length

/-- The text that a string denotes. -/
def textOf? (raw : List Char) : Option String := (unescaped? raw).map String.ofList

/-! ## Values -/

namespace Written

mutual

/-- The value that is denoted, with so many containers allowed inside one another. -/
def value? (limit : Nat) : Written → Option Json
  | .null => some .null
  | .bool b => some (.bool b)
  | .number digits => digits.value?
  | .str raw => (textOf? raw).map .str
  | .arr items =>
      match limit with
      | 0 => none
      | inner + 1 => (values? inner items).map .arr
  | .obj members =>
      match limit with
      | 0 => none
      | inner + 1 => (memberValues? inner members).map .obj

/-- The values that the items of an array denote. -/
def values? (limit : Nat) : List Written → Option (List Json)
  | [] => some []
  | item :: rest => do
      let value ← item.value? limit
      let others ← values? limit rest
      return value :: others

/-- The members that those of an object denote. -/
def memberValues? (limit : Nat) : List (List Char × Written) → Option (List (String × Json))
  | [] => some []
  | (raw, member) :: rest => do
      let name ← textOf? raw
      let value ← member.value? limit
      let others ← memberValues? limit rest
      return (name, value) :: others

end

end Written

/-! ## Known members -/

/-- What is known about the form of a value. -/
inductive Shape where
  | any
  | list (item : Shape)
  | record (members : List (String × Shape))

namespace Shape

/-- The shape of the items of a list. -/
def item : Shape → Shape
  | .list item => item
  | _ => any

/-- The shape of a member, none when it is not known. -/
def member? (name : String) : Shape → Option Shape
  | .record members => Assoc.find? name members
  | _ => some any

/-- The shapes of the items of an array that stands for a record, as far as they are known. -/
def placed : Shape → List Shape
  | .record members => members.map Prod.snd
  | _ => []

end Shape

namespace Written

mutual

/-- What is written without the members that are not known.  Their names have to denote texts. -/
def known? (shape : Shape) : Written → Option Written
  | .arr items => (knownItems? shape.item shape.placed items).map .arr
  | .obj members => (knownMembers? shape members).map .obj
  | .null => some .null
  | .bool b => some (.bool b)
  | .number digits => some (.number digits)
  | .str raw => some (.str raw)

/-- The items of an array, the first of which have shapes of their own. -/
def knownItems? (shape : Shape) (placed : List Shape) : List Written → Option (List Written)
  | [] => some []
  | item :: rest => do
      let known ← item.known? (placed.head?.getD shape)
      let others ← knownItems? shape placed.tail rest
      return known :: others

/-- The known members of an object. -/
def knownMembers? (shape : Shape) :
    List (List Char × Written) → Option (List (List Char × Written))
  | [] => some []
  | (raw, member) :: rest => do
      let name ← textOf? raw
      let others ← knownMembers? shape rest
      match shape.member? name with
      | some inner => do
          let known ← member.known? inner
          return (raw, known) :: others
      | none => return others

end

end Written

example : ((Written.obj [(['a'], .str ['\\', 'u', 'd', '8', '0', '0'])]).known?
    (.record [("b", .any)]) >>= Written.value? 1).isSome = true := by decide +kernel
example : ((Written.obj [(['a'], .str ['\\', 'u', 'd', '8', '0', '0'])]).known?
    (.record [("a", .any)]) >>= Written.value? 1).isNone = true := by decide +kernel

end Json

end Subgraph
