import Subgraph.Language.Name

/-!
# Values and types

The values that arguments and defaults have, and the references to types that
fields and arguments have.

A reference to a type is a name under list wrappers.  Each layer is nullable
or not, so a layer cannot be marked twice.
-/

namespace Subgraph

/-- A value as it is written in a document. -/
inductive Value where
  | null
  | boolean (value : Bool)
  | int (literal : IntLiteral)
  | float (literal : FloatLiteral)
  | string (text : String)
  | enumerated (name : Name)
  | variable (name : Name)
  | list (items : List Value)
  | object (fields : List (Name × Value))
deriving Inhabited

namespace Value

mutual

/-- Whether a value has no variable in it and no enumerated value with a literal's name. -/
def isConstant : Value → Bool
  | .enumerated name => name.text ≠ "true" && name.text ≠ "false" && name.text ≠ "null"
  | .variable _ => false
  | .list items => areConstant items
  | .object fields => haveConstants fields
  | .null | .boolean _ | .int _ | .float _ | .string _ => true

/-- Whether all of some values are constant. -/
def areConstant : List Value → Bool
  | [] => true
  | item :: rest => item.isConstant && areConstant rest

/-- Whether all values of some fields are constant. -/
def haveConstants : List (Name × Value) → Bool
  | [] => true
  | (_, value) :: rest => value.isConstant && haveConstants rest

end

end Value

/-- A reference to a type. -/
inductive TypeReference where
  | named (name : Name) (isNonNull : Bool)
  | list (item : TypeReference) (isNonNull : Bool)
deriving DecidableEq

namespace TypeReference

/-- The name under all wrappers. -/
def innermost : TypeReference → Name
  | named name _ => name
  | list item _ => item.innermost

/-- Whether the outermost wrapper, null or not, is a list. -/
def isList : TypeReference → Bool
  | named _ _ => false
  | list _ _ => true

/-- The reference with its outermost layer marked as non-null. -/
def nonNull : TypeReference → TypeReference
  | named name _ => named name true
  | list item _ => list item true

/-- The mark of a non-null layer. -/
def mark (isNonNull : Bool) : String := if isNonNull then "!" else ""

/-- The text of a reference. -/
def text : TypeReference → String
  | named name isNonNull => name.text ++ mark isNonNull
  | list item isNonNull => "[" ++ item.text ++ "]" ++ mark isNonNull

end TypeReference

end Subgraph
