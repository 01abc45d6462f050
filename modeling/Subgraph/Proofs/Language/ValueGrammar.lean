import Subgraph.Proofs.Language.Reading
import Subgraph.Proofs.Language.Value

/-!
# What values are read from

The grammar of a value that may have variables in it, as a relation between values
and tokens.  It says more than `Value.tokens` does: an object may have names in it
that stand for no field, and each reading of something inside takes one level.

* `Value.readFrom_of_value` is what a reading took, and `Value.value_of_readFrom`
  reads it again in front of anything.
* `Value.value_eq_some_iff` puts the two together.
-/

namespace Subgraph

open Lexeme (next)
open Reading (listItems objectFields namedValue)

namespace Value

mutual

/-- A value is read from some tokens, with some levels inside it. -/
inductive ReadFrom : Nat → Value → List Token → Prop where
  | int (levels : Nat) (literal : IntLiteral) : ReadFrom levels (.int literal) [.int literal]
  | float (levels : Nat) (literal : FloatLiteral) :
      ReadFrom levels (.float literal) [.float literal]
  | string (levels : Nat) (text : String) : ReadFrom levels (.string text) [.string text]
  | name (levels : Nat) (name : Name) : ReadFrom levels (namedValue name) [.name name]
  | variable (levels : Nat) (name : Name) :
      ReadFrom levels (.variable name) [.punctuator .dollar, .name name]
  | list {levels : Nat} {items : List Value} {tokens : List Token} :
      ItemsReadFrom levels items tokens →
        ReadFrom levels (.list items) (.punctuator .openBracket :: tokens)
  | object {levels : Nat} {fields : List (Name × Value)} {tokens : List Token} :
      FieldsReadFrom levels fields tokens →
        ReadFrom levels (.object fields) (.punctuator .openBrace :: tokens)

/-- The items of a list are read from some tokens, the last of which closes the list. -/
inductive ItemsReadFrom : Nat → List Value → List Token → Prop where
  | nil (levels : Nat) : ItemsReadFrom levels [] [.punctuator .closeBracket]
  | cons {inner : Nat} {item : Value} {items : List Value} {tokens others : List Token} :
      ReadFrom inner item tokens → ItemsReadFrom (inner + 1) items others →
        ItemsReadFrom (inner + 1) (item :: items) (tokens ++ others)

/-- The fields of an object are read from some tokens, the last of which closes the object. -/
inductive FieldsReadFrom : Nat → List (Name × Value) → List Token → Prop where
  | nil (levels : Nat) : FieldsReadFrom levels [] [.punctuator .closeBrace]
  | cons {inner : Nat} (name : Name) {item : Value} {fields : List (Name × Value)}
      {tokens others : List Token} :
      ReadFrom inner item tokens → FieldsReadFrom (inner + 1) fields others →
        FieldsReadFrom (inner + 1) ((name, item) :: fields)
          (.name name :: .punctuator .colon :: (tokens ++ others))
  | bare {inner : Nat} (name : Name) {fields : List (Name × Value)} {others : List Token} :
      FieldsReadFrom (inner + 1) fields others →
        FieldsReadFrom (inner + 1) fields (.name name :: others)

end

/-! ## What was read -/

/-- What a reading gives stands in a relation to the tokens in front of those that it leaves. -/
def Takes {α : Type} (reading : Reading α) (relation : α → List Token → Prop)
    (tokens : List Lexeme) : Prop :=
  ∀ {found : α} {rest : List Lexeme}, reading tokens = some (found, rest) →
    ∃ front : List Lexeme, tokens = front ++ rest ∧ relation found (front.map Lexeme.token)

section

variable {levels : Nat} {tokens : List Lexeme}

/-- A value, if what is inside of it is read from what stands there. -/
theorem value_takes
    (lists : ∀ rest : List Lexeme, rest.length < tokens.length →
      Takes (listItems false levels) (ItemsReadFrom levels) rest)
    (objects : ∀ rest : List Lexeme, rest.length < tokens.length →
      Takes (objectFields false levels) (FieldsReadFrom levels) rest) :
    Takes (Reading.value false levels) (ReadFrom levels) tokens := by
  intro found after read
  unfold Reading.value at read
  split at read
  case h_1 literal comma rest =>
      cases read
      exact ⟨[⟨.int literal, comma⟩], rfl, .int levels literal⟩
  case h_2 literal comma rest =>
      cases read
      exact ⟨[⟨.float literal, comma⟩], rfl, .float levels literal⟩
  case h_3 text comma rest =>
      cases read
      exact ⟨[⟨.string text, comma⟩], rfl, .string levels text⟩
  case h_4 name comma rest =>
      cases read
      exact ⟨[⟨.name name, comma⟩], rfl, .name levels name⟩
  case h_5 signComma name comma rest =>
      cases read
      exact ⟨[⟨.punctuator .dollar, signComma⟩, ⟨.name name, comma⟩], rfl, .variable levels name⟩
  case h_6 comma rest =>
      obtain ⟨⟨items, _⟩, inside, read⟩ := Option.map_eq_some_iff.1 read
      cases read
      obtain ⟨front, rfl, given⟩ := lists rest (Nat.lt_succ_self _) inside
      exact ⟨⟨.punctuator .openBracket, comma⟩ :: front, rfl, .list given⟩
  case h_7 comma rest =>
      obtain ⟨⟨fields, _⟩, inside, read⟩ := Option.map_eq_some_iff.1 read
      cases read
      obtain ⟨front, rfl, given⟩ := objects rest (Nat.lt_succ_self _) inside
      exact ⟨⟨.punctuator .openBrace, comma⟩ :: front, rfl, .object given⟩
  case h_8 => cases read

/-- Items, if the first one and the others are. -/
theorem listItems_takes
    (values : ∀ inner, Takes (Reading.value false inner) (ReadFrom inner) tokens)
    (lists : ∀ rest : List Lexeme, rest.length < tokens.length →
      Takes (listItems false levels) (ItemsReadFrom levels) rest) :
    Takes (listItems false levels) (ItemsReadFrom levels) tokens := by
  intro found after read
  unfold listItems at read
  split at read
  case h_1 comma rest =>
      cases read
      exact ⟨[⟨.punctuator .closeBracket, comma⟩], rfl, .nil _⟩
  case h_2 => cases read
  case h_3 inner _ =>
      obtain ⟨⟨item, middle⟩, one, read⟩ := Option.bind_eq_some_iff.1 read
      dsimp only at read
      split at read
      next shorter =>
          obtain ⟨⟨items, _⟩, two, read⟩ := Option.bind_eq_some_iff.1 read
          cases read
          obtain ⟨front, whole, first⟩ := values inner one
          obtain ⟨back, rfl, others⟩ := lists middle shorter two
          refine ⟨front ++ back, whole.trans (List.append_assoc ..).symm, ?_⟩
          rw [List.map_append]
          exact .cons first others
      next => cases read

/-- Fields, if the first value and the other fields are. -/
theorem objectFields_takes
    (values : ∀ inner, ∀ rest : List Lexeme, rest.length < tokens.length →
      Takes (Reading.value false inner) (ReadFrom inner) rest)
    (objects : ∀ rest : List Lexeme, rest.length < tokens.length →
      Takes (objectFields false levels) (FieldsReadFrom levels) rest) :
    Takes (objectFields false levels) (FieldsReadFrom levels) tokens := by
  intro found after read
  unfold objectFields at read
  split at read
  case h_1 comma rest =>
      cases read
      exact ⟨[⟨.punctuator .closeBrace, comma⟩], rfl, .nil _⟩
  case h_2 => cases read
  case h_3 name comma colonComma rest inner =>
      obtain ⟨⟨item, middle⟩, one, read⟩ := Option.bind_eq_some_iff.1 read
      dsimp only at read
      split at read
      next shorter =>
          obtain ⟨⟨fields, _⟩, two, read⟩ := Option.bind_eq_some_iff.1 read
          cases read
          obtain ⟨front, rfl, first⟩ := values inner rest (Nat.lt_add_of_pos_right Nat.two_pos) one
          obtain ⟨back, rfl, others⟩ := objects middle
            (Nat.lt_succ_of_le (Nat.le_succ_of_le shorter)) two
          refine ⟨⟨.name name, comma⟩ :: ⟨.punctuator .colon, colonComma⟩ :: (front ++ back),
            by simp, ?_⟩
          rw [List.map_cons, List.map_cons, List.map_append]
          exact .cons name first others
      next => cases read
  case h_4 name comma rest inner _ =>
      obtain ⟨front, rfl, others⟩ := objects rest (Nat.lt_succ_self _) read
      exact ⟨⟨.name name, comma⟩ :: front, rfl, .bare name others⟩
  case h_5 => cases read

end

/-- Values, lists and objects are read from what stands there, by induction on how many lexemes
there are. -/
theorem allTake (tokens : List Lexeme) (levels : Nat) :
    Takes (Reading.value false levels) (ReadFrom levels) tokens ∧
      Takes (listItems false levels) (ItemsReadFrom levels) tokens ∧
      Takes (objectFields false levels) (FieldsReadFrom levels) tokens := by
  induction size : tokens.length using Nat.strongRecOn generalizing tokens levels with
  | ind size ih =>
      have fewer (levels : Nat) (rest : List Lexeme) (shorter : rest.length < tokens.length) :=
        ih rest.length (size ▸ shorter) rest levels rfl
      have values (levels : Nat) : Takes (Reading.value false levels) (ReadFrom levels) tokens :=
        value_takes (fun rest shorter => (fewer levels rest shorter).2.1)
          fun rest shorter => (fewer levels rest shorter).2.2
      exact ⟨values levels,
        listItems_takes values fun rest shorter => (fewer levels rest shorter).2.1,
        objectFields_takes (fun inner rest shorter => (fewer inner rest shorter).1)
          fun rest shorter => (fewer levels rest shorter).2.2⟩

/-- What a value was read from. -/
theorem readFrom_of_value {levels : Nat} {tokens rest : List Lexeme} {value : Value}
    (read : Reading.value false levels tokens = some (value, rest)) :
    ∃ front : List Lexeme, tokens = front ++ rest ∧
      ReadFrom levels value (front.map Lexeme.token) :=
  (allTake tokens levels).1 read

/-! ## Reading it again -/

/-- A value is read from something. -/
theorem ReadFrom.ne_nil {levels : Nat} {value : Value} {tokens : List Token}
    (given : ReadFrom levels value tokens) : tokens ≠ [] := by
  cases given <;> simp

/-- No colon stands in front of the fields of an object. -/
theorem FieldsReadFrom.next_ne_colon {levels : Nat} {fields : List (Name × Value)}
    {lexemes : List Lexeme} (given : FieldsReadFrom levels fields (lexemes.map Lexeme.token))
    (rest : List Lexeme) : next (lexemes ++ rest) ≠ some (.punctuator .colon) := by
  generalize same : lexemes.map Lexeme.token = tokens at given
  cases given <;> (rw [Lexeme.next_append same]; simp)

mutual

/-- A value is read from its tokens, whatever stands behind them. -/
theorem value_of_readFrom : {levels : Nat} → {value : Value} → {tokens : List Token} →
    ReadFrom levels value tokens → {lexemes : List Lexeme} → (rest : List Lexeme) →
    lexemes.map Lexeme.token = tokens →
    Reading.value false levels (lexemes ++ rest) = some (value, rest)
  | _, _, _, .int _ _, _, rest, same => by
      obtain ⟨_, rfl⟩ := Lexeme.of_map_token_eq_singleton same
      rw [List.singleton_append, Reading.value]
  | _, _, _, .float _ _, _, rest, same => by
      obtain ⟨_, rfl⟩ := Lexeme.of_map_token_eq_singleton same
      rw [List.singleton_append, Reading.value]
  | _, _, _, .string _ _, _, rest, same => by
      obtain ⟨_, rfl⟩ := Lexeme.of_map_token_eq_singleton same
      rw [List.singleton_append, Reading.value]
  | _, _, _, .name _ _, _, rest, same => by
      obtain ⟨_, rfl⟩ := Lexeme.of_map_token_eq_singleton same
      rw [List.singleton_append, Reading.value]
  | _, _, _, .variable _ _, _, rest, same => by
      obtain ⟨_, _, rfl, behind⟩ := Lexeme.of_map_token_eq_cons same
      obtain ⟨_, rfl⟩ := Lexeme.of_map_token_eq_singleton behind
      rw [List.cons_append, List.singleton_append, Reading.value, if_neg Bool.false_ne_true]
  | _, _, _, .list items, _, rest, same => by
      obtain ⟨_, inside, rfl, behind⟩ := Lexeme.of_map_token_eq_cons same
      rw [List.cons_append, Reading.value, listItems_of_readFrom items rest behind]
      rfl
  | _, _, _, .object fields, _, rest, same => by
      obtain ⟨_, inside, rfl, behind⟩ := Lexeme.of_map_token_eq_cons same
      rw [List.cons_append, Reading.value, objectFields_of_readFrom fields rest behind]
      rfl

theorem listItems_of_readFrom : {levels : Nat} → {items : List Value} → {tokens : List Token} →
    ItemsReadFrom levels items tokens → {lexemes : List Lexeme} → (rest : List Lexeme) →
    lexemes.map Lexeme.token = tokens →
    listItems false levels (lexemes ++ rest) = some (items, rest)
  | _, _, _, .nil _, _, rest, same => by
      obtain ⟨_, rfl⟩ := Lexeme.of_map_token_eq_singleton same
      rw [List.singleton_append, listItems]
  | _, _, _, .cons first others, _, rest, same => by
      obtain ⟨front, back, rfl, begins, behind⟩ := List.map_eq_append_iff.1 same
      have nonempty : front ≠ [] := fun none =>
        first.ne_nil (begins.symm.trans (by rw [none, List.map_nil]))
      rw [List.append_assoc, listItems_of_value (value_of_readFrom first (back ++ rest) begins)
        (length_lt_append nonempty), listItems_of_readFrom others rest behind]
      rfl

theorem objectFields_of_readFrom : {levels : Nat} → {fields : List (Name × Value)} →
    {tokens : List Token} → FieldsReadFrom levels fields tokens → {lexemes : List Lexeme} →
    (rest : List Lexeme) → lexemes.map Lexeme.token = tokens →
    objectFields false levels (lexemes ++ rest) = some (fields, rest)
  | _, _, _, .nil _, _, rest, same => by
      obtain ⟨_, rfl⟩ := Lexeme.of_map_token_eq_singleton same
      rw [List.singleton_append, objectFields]
  | _, _, _, .cons name first others, _, rest, same => by
      obtain ⟨comma, _, rfl, afterName⟩ := Lexeme.of_map_token_eq_cons same
      obtain ⟨colonComma, _, rfl, afterColon⟩ := Lexeme.of_map_token_eq_cons afterName
      obtain ⟨front, back, rfl, begins, behind⟩ := List.map_eq_append_iff.1 afterColon
      rw [List.cons_append, List.cons_append, List.append_assoc,
        objectFields_of_value comma colonComma (value_of_readFrom first (back ++ rest) begins)
          (by simp), objectFields_of_readFrom others rest behind]
      rfl
  | _, _, _, .bare name others, _, rest, same => by
      obtain ⟨comma, lexemes, rfl, behind⟩ := Lexeme.of_map_token_eq_cons same
      rw [List.cons_append, objectFields]
      · exact objectFields_of_readFrom others rest behind
      · rintro colonComma tail same
        have noColon := FieldsReadFrom.next_ne_colon (behind ▸ others) rest
        rw [same] at noColon
        exact noColon rfl

end

/-- A value is read exactly from the tokens in front of what is left. -/
theorem value_eq_some_iff {levels : Nat} {tokens rest : List Lexeme} {value : Value} :
    Reading.value false levels tokens = some (value, rest) ↔
      ∃ front : List Lexeme, tokens = front ++ rest ∧
        ReadFrom levels value (front.map Lexeme.token) := by
  constructor
  · exact readFrom_of_value
  · rintro ⟨front, rfl, given⟩
    exact value_of_readFrom given rest rfl

end Value

end Subgraph
