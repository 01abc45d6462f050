import Subgraph.Language.Document.Reader
import Subgraph.Proofs.Language.Spelling

/-!
# Reading written values

A constant value is read back from its tokens exactly when it is not nested
deeper than the reader goes.

* `Value.depth` counts how deep a value is nested.  Only a container with
  something in it is a level.
* `Value.value_append` is the reading of a value with anything behind it.
-/

namespace Subgraph

open Reading (listItems objectFields namedValue)

namespace Value

/-! ## Depth -/

mutual

/-- How deep a value is nested. -/
def depth : Value → Nat
  | .list items => depthAll items
  | .object fields => depthIn fields
  | .null | .boolean _ | .int _ | .float _ | .string _ | .enumerated _ | .variable _ => 0

/-- How deep the items of a list are nested, the list included. -/
def depthAll : List Value → Nat
  | [] => 0
  | item :: rest => max (item.depth + 1) (depthAll rest)

/-- How deep the fields of an object are nested, the object included. -/
def depthIn : List (Name × Value) → Nat
  | [] => 0
  | (_, value) :: rest => max (value.depth + 1) (depthIn rest)

end

/-- An empty list in some lists. -/
def nest : Nat → Value
  | 0 => .list []
  | n + 1 => .list [nest n]

@[simp] theorem isConstant_nest (n : Nat) : (nest n).isConstant = true := by
  induction n with
  | zero => rfl
  | succ n ih => simp only [nest, isConstant, areConstant, ih, Bool.and_self]

@[simp] theorem depth_nest (n : Nat) : (nest n).depth = n := by
  induction n with
  | zero => rfl
  | succ n ih => simp only [nest, depth, depthAll, ih, Nat.max_zero]

/-! ## Reading lists and objects step by step -/

/-- A value does not begin with a closing bracket. -/
theorem tokens_eq_cons (value : Value) : ∃ token others, value.tokens = token :: others ∧
    token ≠ .punctuator .closeBracket := by
  cases value with
  | boolean value => cases value <;> exact ⟨_, _, rfl, by decide⟩
  | _ => exact ⟨_, _, rfl, by simp⟩

theorem ne_nil_of_tokens {value : Value} {lexemes : List Lexeme}
    (same : lexemes.map Lexeme.token = value.tokens) : lexemes ≠ [] := by
  rintro rfl
  obtain ⟨_, _, begins, _⟩ := value.tokens_eq_cons
  cases same.trans begins

theorem value_closeBracket (constant : Bool) (levels : Nat) (comma : Bool) (rest : List Lexeme) :
    Reading.value constant levels (⟨.punctuator .closeBracket, comma⟩ :: rest) = none := by
  rw [Reading.value] <;> simp

/-- A value stands in front of the items that follow it. -/
theorem listItems_of_value {constant : Bool} {inner : Nat} {tokens after : List Lexeme}
    {item : Value} (read : Reading.value constant inner tokens = some (item, after))
    (shorter : after.length < tokens.length) :
    listItems constant (inner + 1) tokens =
      (listItems constant (inner + 1) after).map fun (items, last) => (item :: items, last) := by
  rw [listItems]
  · simp only [read, Option.bind_eq_bind, Option.bind_some, if_pos shorter]
    cases listItems constant (inner + 1) after <;> rfl
  · rintro comma rest rfl
    rw [value_closeBracket] at read
    cases read

theorem listItems_eq_none {constant : Bool} {levels : Nat} {tokens : List Lexeme}
    (noBracket : tokens.head?.map Lexeme.token ≠ some (.punctuator .closeBracket))
    (none : ∀ inner, levels = inner + 1 → Reading.value constant inner tokens = none) :
    listItems constant levels tokens = .none := by
  cases levels with
  | zero =>
      rw [listItems]
      rintro comma rest rfl
      exact noBracket rfl
  | succ inner =>
      rw [listItems]
      · simp only [none inner rfl, Option.bind_eq_bind, Option.bind_none]
      · rintro comma rest rfl
        exact noBracket rfl

/-- A field with its value stands in front of the fields that follow it. -/
theorem objectFields_of_value {constant : Bool} {inner : Nat} {tokens after : List Lexeme}
    {name : Name} {item : Value} (comma colonComma : Bool)
    (read : Reading.value constant inner tokens = some (item, after))
    (shorter : after.length ≤ tokens.length) :
    objectFields constant (inner + 1)
        (⟨.name name, comma⟩ :: ⟨.punctuator .colon, colonComma⟩ :: tokens) =
      (objectFields constant (inner + 1) after).map fun (fields, last) =>
        ((name, item) :: fields, last) := by
  rw [objectFields]
  simp only [read, Option.bind_eq_bind, Option.bind_some, if_pos shorter]
  cases objectFields constant (inner + 1) after <;> rfl

theorem objectFields_eq_none {constant : Bool} {levels : Nat} {tokens : List Lexeme}
    {name : Name} (comma colonComma : Bool)
    (none : ∀ inner, levels = inner + 1 → Reading.value constant inner tokens = none) :
    objectFields constant levels
        (⟨.name name, comma⟩ :: ⟨.punctuator .colon, colonComma⟩ :: tokens) = .none := by
  cases levels with
  | zero =>
      rw [objectFields]
      rintro _ _ same
      cases same
  | succ inner =>
      rw [objectFields]
      simp only [none inner rfl, Option.bind_eq_bind, Option.bind_none]

/-! ## Reading back -/

theorem namedValue_eq {name : Name} (constant : (Value.enumerated name).isConstant = true) :
    namedValue name = .enumerated name := by
  simp only [isConstant, Bool.and_eq_true, decide_eq_true_eq] at constant
  rw [namedValue, if_neg constant.2, if_neg constant.1.1, if_neg constant.1.2]

theorem length_lt_append {lexemes rest : List Lexeme} (nonempty : lexemes ≠ []) :
    rest.length < (lexemes ++ rest).length := by
  rw [List.length_append]
  have := List.length_pos_iff.2 nonempty
  omega

mutual

/-- A constant value is read back exactly when the reader goes as deep as it is nested. -/
theorem value_append : (value : Value) → (constant : Bool) → (levels : Nat) →
    {lexemes : List Lexeme} → (rest : List Lexeme) →
    lexemes.map Lexeme.token = value.tokens → value.isConstant = true →
    Reading.value constant levels (lexemes ++ rest) =
      if value.depth ≤ levels then some (value, rest) else none
  | .null, constant, levels, _, rest, same, _ => by
      obtain ⟨_, rfl⟩ := Lexeme.of_map_token_eq_singleton same
      rw [List.singleton_append, Reading.value]
      rfl
  | .boolean true, constant, levels, _, rest, same, _ => by
      obtain ⟨_, rfl⟩ := Lexeme.of_map_token_eq_singleton same
      rw [List.singleton_append, Reading.value]
      rfl
  | .boolean false, constant, levels, _, rest, same, _ => by
      obtain ⟨_, rfl⟩ := Lexeme.of_map_token_eq_singleton same
      rw [List.singleton_append, Reading.value]
      rfl
  | .int literal, constant, levels, _, rest, same, _ => by
      obtain ⟨_, rfl⟩ := Lexeme.of_map_token_eq_singleton same
      rw [List.singleton_append, Reading.value]
      rfl
  | .float literal, constant, levels, _, rest, same, _ => by
      obtain ⟨_, rfl⟩ := Lexeme.of_map_token_eq_singleton same
      rw [List.singleton_append, Reading.value]
      rfl
  | .string text, constant, levels, _, rest, same, _ => by
      obtain ⟨_, rfl⟩ := Lexeme.of_map_token_eq_singleton same
      rw [List.singleton_append, Reading.value]
      rfl
  | .enumerated name, constant, levels, _, rest, same, isConstant => by
      obtain ⟨_, rfl⟩ := Lexeme.of_map_token_eq_singleton same
      rw [List.singleton_append, Reading.value, namedValue_eq isConstant]
      rfl
  | .variable _, _, _, _, _, _, isConstant => absurd isConstant Bool.false_ne_true
  | .list items, constant, levels, _, rest, same, isConstant => by
      obtain ⟨_, _, rfl, behind⟩ := Lexeme.of_map_token_eq_cons same
      obtain ⟨_, _, rfl, inside, closes⟩ := List.map_eq_append_iff.1 behind
      obtain ⟨comma, rfl⟩ := Lexeme.of_map_token_eq_singleton closes
      rw [List.cons_append, List.append_assoc, List.singleton_append, Reading.value,
        listItems_append items constant levels comma rest inside isConstant, depth]
      split <;> rfl
  | .object fields, constant, levels, _, rest, same, isConstant => by
      obtain ⟨_, _, rfl, behind⟩ := Lexeme.of_map_token_eq_cons same
      obtain ⟨_, _, rfl, inside, closes⟩ := List.map_eq_append_iff.1 behind
      obtain ⟨comma, rfl⟩ := Lexeme.of_map_token_eq_singleton closes
      rw [List.cons_append, List.append_assoc, List.singleton_append, Reading.value,
        objectFields_append fields constant levels comma rest inside isConstant, depth]
      split <;> rfl

/-- The items of a list are read back up to its closing bracket. -/
theorem listItems_append : (items : List Value) → (constant : Bool) → (levels : Nat) →
    {lexemes : List Lexeme} → (comma : Bool) → (rest : List Lexeme) →
    lexemes.map Lexeme.token = tokensAll items → areConstant items = true →
    listItems constant levels (lexemes ++ ⟨.punctuator .closeBracket, comma⟩ :: rest) =
      if depthAll items ≤ levels then some (items, rest) else none
  | [], constant, levels, _, comma, rest, same, _ => by
      cases List.map_eq_nil_iff.1 same
      rw [List.nil_append, listItems, depthAll, if_pos (Nat.zero_le levels)]
  | item :: items, constant, levels, _, comma, rest, same, areConstant => by
      obtain ⟨front, back, rfl, first, others⟩ := List.map_eq_append_iff.1 same
      obtain ⟨isConstant, behind⟩ := Bool.and_eq_true_iff.1 areConstant
      obtain ⟨token, tokens, begins, noBracket⟩ := item.tokens_eq_cons
      rw [List.append_assoc, depthAll]
      by_cases fits : item.depth + 1 ≤ levels
      case pos =>
        obtain ⟨inner, rfl⟩ := Nat.exists_eq_add_one_of_ne_zero (by omega : levels ≠ 0)
        have read := value_append item constant inner
          (back ++ ⟨.punctuator .closeBracket, comma⟩ :: rest) first isConstant
        rw [if_pos (by omega)] at read
        rw [listItems_of_value read (length_lt_append (ne_nil_of_tokens first)),
          listItems_append items constant (inner + 1) comma rest others behind]
        by_cases all : depthAll items ≤ inner + 1
        · rw [if_pos all, if_pos (Nat.max_le.2 ⟨fits, all⟩)]
          rfl
        · rw [if_neg all, if_neg fun both => all (Nat.max_le.1 both).2]
          rfl
      case neg =>
        rw [if_neg fun both => fits (Nat.max_le.1 both).1]
        refine listItems_eq_none ?_ fun inner same => ?_
        · obtain ⟨_, _, rfl, _⟩ := Lexeme.of_map_token_eq_cons (first.trans begins)
          exact fun same => noBracket (Option.some.inj same)
        · rw [value_append item constant inner _ first isConstant, if_neg (by omega)]

/-- The fields of an object are read back up to its closing brace. -/
theorem objectFields_append : (fields : List (Name × Value)) → (constant : Bool) →
    (levels : Nat) → {lexemes : List Lexeme} → (comma : Bool) → (rest : List Lexeme) →
    lexemes.map Lexeme.token = tokensIn fields → haveConstants fields = true →
    objectFields constant levels (lexemes ++ ⟨.punctuator .closeBrace, comma⟩ :: rest) =
      if depthIn fields ≤ levels then some (fields, rest) else none
  | [], constant, levels, _, comma, rest, same, _ => by
      cases List.map_eq_nil_iff.1 same
      rw [List.nil_append, objectFields, depthIn, if_pos (Nat.zero_le levels)]
  | (name, item) :: fields, constant, levels, _, comma, rest, same, haveConstants => by
      obtain ⟨nameComma, _, rfl, afterName⟩ := Lexeme.of_map_token_eq_cons same
      obtain ⟨colonComma, _, rfl, afterColon⟩ := Lexeme.of_map_token_eq_cons afterName
      obtain ⟨front, back, rfl, first, others⟩ := List.map_eq_append_iff.1 afterColon
      obtain ⟨isConstant, behind⟩ := Bool.and_eq_true_iff.1 haveConstants
      rw [List.cons_append, List.cons_append, List.append_assoc, depthIn]
      by_cases fits : item.depth + 1 ≤ levels
      case pos =>
        obtain ⟨inner, rfl⟩ := Nat.exists_eq_add_one_of_ne_zero (by omega : levels ≠ 0)
        have read := value_append item constant inner
          (back ++ ⟨.punctuator .closeBrace, comma⟩ :: rest) first isConstant
        rw [if_pos (by omega)] at read
        rw [objectFields_of_value nameComma colonComma read
            (Nat.le_of_lt (length_lt_append (ne_nil_of_tokens first))),
          objectFields_append fields constant (inner + 1) comma rest others behind]
        by_cases all : depthIn fields ≤ inner + 1
        · rw [if_pos all, if_pos (Nat.max_le.2 ⟨fits, all⟩)]
          rfl
        · rw [if_neg all, if_neg fun both => all (Nat.max_le.1 both).2]
          rfl
      case neg =>
        rw [if_neg fun both => fits (Nat.max_le.1 both).1]
        refine objectFields_eq_none nameComma colonComma fun inner same => ?_
        rw [value_append item constant inner _ first isConstant, if_neg (by omega)]

end

end Value

end Subgraph
