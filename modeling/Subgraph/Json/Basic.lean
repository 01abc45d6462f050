import Subgraph.OrderedMap
import Subgraph.Decimal.Double

/-!
# JSON values

A JSON value with its object members in order.  Integers and doubles are
different values: an integer keeps all its digits.

A text may repeat a member.  `Json.withoutRepeats` is the reading of such a
text as plain data: the last value of a member counts, in the place of the
first.

Whether two values are the same is decidable.
-/

namespace Subgraph

/-- A JSON value. -/
inductive Json where
  | null
  | bool (value : Bool)
  | int (value : Int)
  | double (value : Double)
  | str (value : String)
  | arr (items : List Json)
  | obj (members : List (String × Json))
deriving Inhabited

namespace Json

/-- The value of an object's member. -/
def member? (name : String) : Json → Option Json
  | .obj members => Assoc.find? name members
  | _ => none

/-- The value of an object's member, null when there is none. -/
def member (name : String) (value : Json) : Json := (value.member? name).getD .null

mutual

/-- The value with every repeated member reduced to its last value in its first place. -/
def withoutRepeats : Json → Json
  | .arr items => .arr (withoutRepeatsAll items)
  | .obj members => .obj (withoutRepeatsIn [] members)
  | .null => .null
  | .bool b => .bool b
  | .int n => .int n
  | .double x => .double x
  | .str s => .str s

/-- The items of an array without repeated members. -/
def withoutRepeatsAll : List Json → List Json
  | [] => []
  | item :: rest => item.withoutRepeats :: withoutRepeatsAll rest

/-- Members set one after the other. -/
def withoutRepeatsIn (done : List (String × Json)) : List (String × Json) → List (String × Json)
  | [] => done
  | (name, value) :: rest => withoutRepeatsIn (Assoc.set name value.withoutRepeats done) rest

end

mutual

/-- How many containers stand inside one another in a value. -/
def depth : Json → Nat
  | .arr items => depthAll items + 1
  | .obj members => depthIn members + 1
  | .null | .bool _ | .int _ | .double _ | .str _ => 0

/-- The greatest depth of some values. -/
def depthAll : List Json → Nat
  | [] => 0
  | item :: rest => max item.depth (depthAll rest)

/-- The greatest depth of some members. -/
def depthIn : List (String × Json) → Nat
  | [] => 0
  | (_, value) :: rest => max value.depth (depthIn rest)

end

/-! ## Equality -/

mutual

/-- Whether two values are the same. -/
def same : Json → Json → Bool
  | .null, .null => true
  | .bool a, .bool b => a = b
  | .int m, .int n => m = n
  | .double x, .double y => x = y
  | .str s, .str t => s = t
  | .arr items, .arr others => sameAll items others
  | .obj members, .obj others => sameIn members others
  | _, _ => false

/-- Whether two lists of values are the same. -/
def sameAll : List Json → List Json → Bool
  | [], [] => true
  | item :: rest, other :: others => item.same other && sameAll rest others
  | _, _ => false

/-- Whether two lists of members are the same. -/
def sameIn : List (String × Json) → List (String × Json) → Bool
  | [], [] => true
  | (name, value) :: rest, (other, value') :: others =>
      name = other && value.same value' && sameIn rest others
  | _, _ => false

end

mutual

theorem same_iff (value other : Json) : value.same other = true ↔ value = other := by
  cases value <;> cases other <;> simp [same, sameAll_iff, sameIn_iff]

theorem sameAll_iff (items others : List Json) : sameAll items others = true ↔ items = others := by
  cases items <;> cases others <;> simp [sameAll, same_iff, sameAll_iff]

theorem sameIn_iff (members others : List (String × Json)) :
    sameIn members others = true ↔ members = others := by
  cases members <;> cases others <;> simp [sameIn, same_iff, sameIn_iff, Prod.ext_iff]

end

instance : DecidableEq Json := fun value other => decidable_of_iff _ (same_iff value other)

end Json

end Subgraph
