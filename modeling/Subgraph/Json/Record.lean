import Subgraph.Json.Printer
import Subgraph.Text.Quoted

/-!
# Reading records from JSON

A record is a JSON object with known members.  `Json.record` reads one by
setting its members on a blank record.

* Members are read in the order of the object, and the first one that fails
  decides.  Unknown members are skipped.
* A known member that comes twice is refused.
* Then the first required member that did not come is refused.
* An array stands for a record too.  Its items are the members in the order of
  their declaration.  Only members with a default may be left out at the end,
  and no item may be left over.
* A record gives its readings only proper parts of itself, so a record may
  hold others of its kind.
-/

namespace Subgraph.Json

/-! ## Mismatches -/

/-- Why a value is not what is wanted. -/
inductive Mismatch where
  | wrongType (found : Json) (wanted : String)
  | notSingle
  | unknownVariant (found : String) (variants : List String)
  | missingMember (name : String)
  | repeatedMember (name : String)
  | tooShort (length : Nat) (record : String) (size : Nat)
  | tooLong (length : Nat)

/-- How a message shows a value that was found. -/
def found : Json → String
  | null => "null"
  | bool true => "boolean `true`"
  | bool false => "boolean `false`"
  | int n => "integer `" ++ intText n ++ "`"
  | double x => "floating point `" ++ doubleFormat.write x ++ "`"
  | str s => "string " ++ Text.quoted s
  | arr _ => "sequence"
  | obj _ => "map"

namespace Mismatch

/-- The text of a mismatch. -/
def message : Mismatch → String
  | wrongType value wanted => "invalid type: " ++ value.found ++ ", expected " ++ wanted
  | notSingle => "invalid value: map, expected map with a single key"
  | unknownVariant name variants =>
      "unknown variant `" ++ name ++ "`, expected one of " ++
        ", ".intercalate (variants.map fun variant => "`" ++ variant ++ "`")
  | missingMember name => "missing field `" ++ name ++ "`"
  | repeatedMember name => "duplicate field `" ++ name ++ "`"
  | tooShort length record size =>
      "invalid length " ++ toString length ++ ", expected struct " ++ record ++ " with " ++
        toString size ++ if size = 1 then " element" else " elements"
  | tooLong length =>
      "invalid length " ++ toString length ++ ", expected fewer elements in array"

end Mismatch

/-! ## Reading the parts of a value -/

/-- A reading of a proper part of a whole value. -/
abbrev PartReading (whole : Json) (α : Type) :=
  (part : Json) → sizeOf part < sizeOf whole → Except Mismatch α

variable {whole : Json} {α δ : Type}

/-- Reads a part in a way that needs nothing of the whole. -/
def each (read : Json → Except Mismatch α) : PartReading whole α := fun part _ => read part

/-- Takes a part as it is. -/
def plain : PartReading whole Json := fun part _ => .ok part

/-- Reads a text. -/
def text : PartReading whole String
  | .str s, _ => .ok s
  | value, _ => .error (.wrongType value "a string")

/-- Reads a truth value. -/
def flag : PartReading whole Bool
  | .bool b, _ => .ok b
  | value, _ => .error (.wrongType value "a boolean")

/-- Reads the members of an object. -/
def object : PartReading whole (List (String × Json))
  | .obj members, _ => .ok members
  | value, _ => .error (.wrongType value "a map")

/-- Reads the items of an array, the first failure deciding. -/
def items (read : Json → Except Mismatch α) : PartReading whole (List α)
  | .arr values, _ => values.mapM read
  | value, _ => .error (.wrongType value "a sequence")

/-- Reads null as nothing. -/
def nullable (read : PartReading whole α) : PartReading whole (Option α)
  | .null, _ => .ok none
  | part, within => (read part within).map some

/-! ## Members -/

/-- What it means that a member did not come. -/
inductive Absence where
  | refused | unset | defaulted
deriving DecidableEq

/-- A member of a record under construction. -/
structure Member (whole : Json) (δ : Type) where
  /-- The name. -/
  name : String
  /-- What it means that the member did not come. -/
  absence : Absence
  /-- Reads the member and sets it. -/
  set : (part : Json) → sizeOf part < sizeOf whole → δ → Except Mismatch δ

namespace Member

/-- A member that has to come. -/
def required (name : String) (read : PartReading whole α) (set : δ → α → δ) : Member whole δ :=
  ⟨name, .refused, fun part within draft => (read part within).map (set draft)⟩

/-- A member that may be null or left out. -/
def optional (name : String) (read : PartReading whole α) (set : δ → Option α → δ) :
    Member whole δ :=
  ⟨name, .unset, fun part within draft => (nullable read part within).map (set draft)⟩

/-- A member that may be left out. -/
def defaulted (name : String) (read : PartReading whole α) (set : δ → α → δ) : Member whole δ :=
  ⟨name, .defaulted, fun part within draft => (read part within).map (set draft)⟩

end Member

/-! ## Records -/

/-- Sets the members that an object gives, in its order. -/
def setNamed (members : List (Member whole δ)) :
    (given : List (String × Json)) → (∀ entry ∈ given, sizeOf entry.2 < sizeOf whole) →
      (seen : List String) → δ → Except Mismatch δ
  | [], _, _, draft => .ok draft
  | (name, value) :: rest, within, seen, draft =>
      have others := fun entry h => within entry (List.mem_cons_of_mem _ h)
      match members.find? fun member => member.name = name with
      | none => setNamed members rest others seen draft
      | some member =>
          if name ∈ seen then .error (.repeatedMember name)
          else
            match member.set value (within (name, value) List.mem_cons_self) draft with
            | .error mismatch => .error mismatch
            | .ok draft => setNamed members rest others (name :: seen) draft

/-- Sets the members that an array gives, in the order of their declaration. -/
def setPlaced (record : String) (size index : Nat) :
    (members : List (Member whole δ)) → (given : List Json) →
      (∀ value ∈ given, sizeOf value < sizeOf whole) → δ → Except Mismatch δ
  | [], [], _, draft => .ok draft
  | [], given, _, _ => .error (.tooLong (index + given.length))
  | member :: members, [], within, draft =>
      if member.absence = .defaulted then
        setPlaced record size (index + 1) members [] within draft
      else .error (.tooShort index record size)
  | member :: members, value :: rest, within, draft =>
      match member.set value (within value List.mem_cons_self) draft with
      | .error mismatch => .error mismatch
      | .ok draft =>
          setPlaced record size (index + 1) members rest
            (fun value h => within value (List.mem_cons_of_mem _ h)) draft

theorem sizeOf_snd_lt_of_mem {members : List (String × Json)} {entry : String × Json}
    (h : entry ∈ members) : sizeOf entry.2 < sizeOf (obj members) := by
  obtain ⟨name, value⟩ := entry
  have := List.sizeOf_lt_of_mem h
  simp only [Prod.mk.sizeOf_spec] at this
  simp only [obj.sizeOf_spec]
  omega

theorem sizeOf_lt_of_mem_items {items : List Json} {item : Json} (h : item ∈ items) :
    sizeOf item < sizeOf (arr items) := by
  have := List.sizeOf_lt_of_mem h
  simp only [arr.sizeOf_spec]
  omega

/-- Reads a record from a value, with the members of its kind. -/
def record (name : String) (blank : δ) :
    (value : Json) → List (Member value δ) → Except Mismatch δ
  | .obj given, members =>
      match setNamed members given (fun _ h => sizeOf_snd_lt_of_mem h) [] blank with
      | .error mismatch => .error mismatch
      | .ok draft =>
          match members.find? fun member =>
              member.absence = .refused && !given.any fun entry => entry.1 = member.name with
          | some member => .error (.missingMember member.name)
          | none => .ok draft
  | .arr given, members =>
      setPlaced name members.length 0 members given (fun _ h => sizeOf_lt_of_mem_items h) blank
  | value, _ => .error (.wrongType value ("struct " ++ name))

end Subgraph.Json
