import Subgraph.Schema.Basic

/-!
# Inferred keys

The key of an entity is a path of fields, from the entity down to one field
that identifies it.  It is found in three steps, and the first that finds a
field decides.

1. The first field whose named type is `ID`.
2. The first field, not a list, that is of scalar type, or of an object type
   that has a key itself.  The path then goes on with that key.
3. The first field.

An object type that the path has come through is not entered again.  A search
keeps the types that it may still enter, and each step takes one away.
-/

namespace Subgraph

namespace Key

/-- The text of a path: each field holds the next one in braces. -/
def text : List Name → String
  | [] => ""
  | [field] => field.text
  | field :: rest => field.text ++ " \x7b " ++ text rest ++ " \x7d"

/-- The first field whose named type is `ID`. -/
def idField? (fields : List FieldDefinition) : Option FieldDefinition :=
  fields.find? fun field => field.type.innermost = BuiltIn.id

/-- The types without the one of a name. -/
def without (name : Name) (types : List TypeDefinition) : List TypeDefinition :=
  types.filter fun type => type.name ≠ name

/-- Leaving out a type that is there leaves fewer types. -/
theorem length_without_lt {name : Name} {types : List TypeDefinition} {type : TypeDefinition}
    (found : types.find? (fun type => type.name = name) = some type) :
    (without name types).length < types.length := by
  have member := List.mem_of_find?_eq_some found
  have same := List.find?_some found
  simp only [decide_eq_true_eq] at same
  rw [without, List.length_filter_lt_length_iff_exists]
  exact ⟨type, member, by simp [same]⟩

/-- The path of a key through some fields, entering only the object types that are left. -/
def search (schema : Schema) (left : List TypeDefinition) (fields : List FieldDefinition) :
    Option (List Name) :=
  match fields with
  | [] => none
  | first :: _ =>
      match idField? fields with
      | some field => some [field.name]
      | none =>
          let step (field : FieldDefinition) : Option (List Name) :=
            match schema.find? field.type.innermost with
            | some { body := .scalar, .. } => some [field.name]
            | some { body := .object _ _, .. } =>
                match _found : left.find? fun type => type.name = field.type.innermost with
                | some { body := .object _ inner, .. } =>
                    (search schema (without field.type.innermost left) inner).map (field.name :: ·)
                | _ => none
            | _ => none
          some (((fields.filter fun field => !field.type.isList).findSome? step).getD [first.name])
termination_by left.length
decreasing_by exact length_without_lt ‹_›

/-- The path of the key of an object type. -/
def infer? (schema : Schema) (type : TypeDefinition) : Option (List Name) :=
  search schema (without type.name schema.types) (type.objectFields?.getD [])

example : text [⟨"author", by decide⟩, ⟨"id", by decide⟩] = "author \x7b id \x7d" := by decide

end Key

end Subgraph
