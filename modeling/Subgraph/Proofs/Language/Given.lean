import Subgraph.Proofs.Language.Directive

/-!
# What readings give

Everything that a reading gives has been checked by it, so a definition that was
read can be written and read again.

* `Gives` says that what a reading gives has a property, and its lemmas go along
  the steps of a reading.
* `gives_constantDirectives` and `gives_typeReference` are about depths.
-/

namespace Subgraph

namespace Reading

variable {α β : Type}

/-- Everything that a reading gives has a property. -/
def Gives (reading : Reading α) (property : α → Prop) : Prop :=
  ∀ ⦃tokens rest : List Lexeme⦄ ⦃found : α⦄,
    reading tokens = some (found, rest) → property found

/-! ## Steps -/

namespace Gives

variable {reading : Reading α} {property : α → Prop}

theorem any (reading : Reading α) : Gives reading fun _ => True := by
  intro tokens rest found _
  trivial

protected theorem pure {found : α} (holds : property found) :
    Gives (pure found : Reading α) property := by
  intro tokens rest result read
  cases read
  exact holds

protected theorem failure : Gives (failure : Reading α) property := by
  intro tokens rest found read
  cases read

theorem weaken {weaker : α → Prop} (gives : Gives reading property)
    (less : ∀ found, property found → weaker found) : Gives reading weaker := by
  intro tokens rest found read
  exact less found (gives read)

protected theorem bind {second : α → Reading β} {later : β → Prop} (gives : Gives reading property)
    (each : ∀ found, property found → Gives (second found) later) :
    Gives (reading >>= second) later := by
  intro tokens rest result read
  obtain ⟨⟨found, after⟩, one, two⟩ := Option.bind_eq_some_iff.1 read
  exact each found (gives one) two

/-- What comes last decides. -/
theorem next (reading : Reading α) {second : α → Reading β} {later : β → Prop}
    (each : ∀ found, Gives (second found) later) : Gives (reading >>= second) later :=
  (any reading).bind fun found _ => each found

protected theorem ite {condition : Prop} [Decidable condition] {other : Reading α}
    (holds : Gives reading property) (fails : Gives other property) :
    Gives (if condition then reading else other) property := by
  by_cases is : condition
  · rwa [if_pos is]
  · rwa [if_neg is]

/-! ## Repetitions -/

theorem itemsUntil (closing : Punctuator) (gives : Gives reading property) :
    Gives (itemsUntil closing reading) fun items => ∀ item ∈ items, property item := by
  intro tokens rest found read
  induction size : tokens.length using Nat.strongRecOn generalizing tokens found with
  | ind size ih =>
      obtain ⟨first, after, one, ⟨_, _, rfl⟩ | ⟨_, shorter, others, two, rfl⟩⟩ :=
        of_itemsUntil read
      · intro item member
        rw [List.mem_singleton.1 member]
        exact gives one
      · intro item member
        rcases List.mem_cons.1 member with rfl | member
        · exact gives one
        · exact ih after.length (size ▸ shorter) two rfl item member

theorem optionalBetween (opening closing : Punctuator) (gives : Gives reading property) :
    Gives (optionalBetween opening closing reading) fun items => ∀ item ∈ items, property item := by
  refine next (isNext opening) fun begins => ?_
  cases begins with
  | true => exact next (expect opening) fun _ => gives.itemsUntil closing
  | false =>
      refine Gives.pure ?_
      simp

theorem afterSeparators (separator : Punctuator) (gives : Gives reading property) :
    Gives (afterSeparators separator reading) fun items => ∀ item ∈ items, property item := by
  intro tokens rest found read
  induction size : tokens.length using Nat.strongRecOn generalizing tokens found with
  | ind size ih =>
      rcases of_afterSeparators read with
        ⟨_, rfl, _⟩ | ⟨comma, behind, first, after, others, rfl, one, shorter, two, rfl⟩
      · simp
      · rw [List.length_cons] at size
        intro item member
        rcases List.mem_cons.1 member with rfl | member
        · exact gives one
        · exact ih after.length (by omega) two rfl item member

end Gives

/-! ## Values -/

theorem fitsIn_namedValue (levels : Nat) (name : Name) : (namedValue name).FitsIn levels := by
  unfold namedValue Value.FitsIn
  split
  next => simp [Value.isConstant, Value.depth]
  next noNull =>
      split
      next => simp [Value.isConstant, Value.depth]
      next noTrue =>
          split
          next => simp [Value.isConstant, Value.depth]
          next noFalse => simp [Value.isConstant, Value.depth, noNull, noTrue, noFalse]

/-- Constant items that are not nested too deep. -/
def ItemsFitIn (levels : Nat) (items : List Value) : Prop := (Value.list items).FitsIn levels

/-- Constant fields that are not nested too deep. -/
def FieldsFitIn (levels : Nat) (fields : List (Name × Value)) : Prop :=
  (Value.object fields).FitsIn levels

section

variable {levels inner : Nat} {tokens rest : List Lexeme}

theorem itemsFitIn_nil (levels : Nat) : ItemsFitIn levels [] := by
  simp [ItemsFitIn, Value.FitsIn, Value.isConstant, Value.areConstant, Value.depth, Value.depthAll]

theorem itemsFitIn_cons {item : Value} {items : List Value} (one : item.FitsIn inner)
    (others : ItemsFitIn (inner + 1) items) : ItemsFitIn (inner + 1) (item :: items) := by
  obtain ⟨constant, depth⟩ := one
  simp only [ItemsFitIn, Value.FitsIn, Value.isConstant, Value.depth] at others
  simp only [ItemsFitIn, Value.FitsIn, Value.isConstant, Value.areConstant, Value.depth,
    Value.depthAll, constant, others.1]
  exact ⟨rfl, Nat.max_le.2 ⟨Nat.succ_le_succ depth, others.2⟩⟩

theorem fieldsFitIn_nil (levels : Nat) : FieldsFitIn levels [] := by
  simp [FieldsFitIn, Value.FitsIn, Value.isConstant, Value.haveConstants, Value.depth,
    Value.depthIn]

theorem fieldsFitIn_cons {name : Name} {item : Value} {fields : List (Name × Value)}
    (one : item.FitsIn inner) (others : FieldsFitIn (inner + 1) fields) :
    FieldsFitIn (inner + 1) ((name, item) :: fields) := by
  obtain ⟨constant, depth⟩ := one
  simp only [FieldsFitIn, Value.FitsIn, Value.isConstant, Value.depth] at others
  simp only [FieldsFitIn, Value.FitsIn, Value.isConstant, Value.haveConstants, Value.depth,
    Value.depthIn, constant, others.1]
  exact ⟨rfl, Nat.max_le.2 ⟨Nat.succ_le_succ depth, others.2⟩⟩

/-- A value fits, if what is inside of it does. -/
theorem fitsIn_of_value {found : Value}
    (lists : ∀ {rest last : List Lexeme} {items : List Value}, rest.length < tokens.length →
      listItems true levels rest = some (items, last) → ItemsFitIn levels items)
    (objects : ∀ {rest last : List Lexeme} {fields : List (Name × Value)},
      rest.length < tokens.length →
      objectFields true levels rest = some (fields, last) → FieldsFitIn levels fields)
    (read : value true levels tokens = some (found, rest)) : found.FitsIn levels := by
  unfold value at read
  split at read
  case h_1 | h_2 | h_3 =>
      cases read
      simp [Value.FitsIn, Value.isConstant, Value.depth]
  case h_4 =>
      cases read
      exact fitsIn_namedValue levels _
  case h_5 => cases read
  case h_6 =>
      obtain ⟨⟨items, _⟩, inside, read⟩ := Option.map_eq_some_iff.1 read
      cases read
      exact lists (Nat.lt_succ_self _) inside
  case h_7 =>
      obtain ⟨⟨fields, _⟩, inside, read⟩ := Option.map_eq_some_iff.1 read
      cases read
      exact objects (Nat.lt_succ_self _) inside
  case h_8 => cases read

/-- Items fit, if the first one and the others do. -/
theorem itemsFitIn_of_listItems {found : List Value}
    (values : ∀ {inner : Nat} {last : List Lexeme} {item : Value},
      value true inner tokens = some (item, last) → item.FitsIn inner)
    (lists : ∀ {rest last : List Lexeme} {items : List Value}, rest.length < tokens.length →
      listItems true levels rest = some (items, last) → ItemsFitIn levels items)
    (read : listItems true levels tokens = some (found, rest)) : ItemsFitIn levels found := by
  unfold listItems at read
  split at read
  case h_1 =>
      cases read
      exact itemsFitIn_nil _
  case h_2 => cases read
  case h_3 inner _ =>
      obtain ⟨⟨item, after⟩, one, read⟩ := Option.bind_eq_some_iff.1 read
      dsimp only at read
      split at read
      next shorter =>
          obtain ⟨⟨items, _⟩, two, read⟩ := Option.bind_eq_some_iff.1 read
          cases read
          exact itemsFitIn_cons (values one) (lists shorter two)
      next => cases read

/-- Fields fit, if the first one and the others do. -/
theorem fieldsFitIn_of_objectFields {found : List (Name × Value)}
    (values : ∀ {inner : Nat} {rest last : List Lexeme} {item : Value},
      rest.length < tokens.length →
      value true inner rest = some (item, last) → item.FitsIn inner)
    (objects : ∀ {rest last : List Lexeme} {fields : List (Name × Value)},
      rest.length < tokens.length →
      objectFields true levels rest = some (fields, last) → FieldsFitIn levels fields)
    (read : objectFields true levels tokens = some (found, rest)) : FieldsFitIn levels found := by
  unfold objectFields at read
  split at read
  case h_1 =>
      cases read
      exact fieldsFitIn_nil _
  case h_2 => cases read
  case h_3 =>
      obtain ⟨⟨item, after⟩, one, read⟩ := Option.bind_eq_some_iff.1 read
      dsimp only at read
      split at read
      next shorter =>
          obtain ⟨⟨fields, _⟩, two, read⟩ := Option.bind_eq_some_iff.1 read
          cases read
          refine fieldsFitIn_cons (values ?_ one) (objects ?_ two)
          all_goals
            simp only [List.length_cons]
            omega
      next => cases read
  case h_4 => exact objects (Nat.lt_succ_self _) read
  case h_5 => cases read

end

/-- Values, lists and objects fit, by induction on how many lexemes there are. -/
theorem allFit (tokens : List Lexeme) (levels : Nat) :
    (∀ {rest : List Lexeme} {found : Value},
      value true levels tokens = some (found, rest) → found.FitsIn levels) ∧
    (∀ {rest : List Lexeme} {found : List Value},
      listItems true levels tokens = some (found, rest) → ItemsFitIn levels found) ∧
    (∀ {rest : List Lexeme} {found : List (Name × Value)},
      objectFields true levels tokens = some (found, rest) → FieldsFitIn levels found) := by
  induction size : tokens.length using Nat.strongRecOn generalizing tokens levels with
  | ind size ih =>
      have fewer (levels : Nat) {rest : List Lexeme} (shorter : rest.length < tokens.length) :=
        ih rest.length (size ▸ shorter) rest levels rfl
      have values {levels : Nat} {rest : List Lexeme} {found : Value}
          (read : value true levels tokens = some (found, rest)) : found.FitsIn levels :=
        fitsIn_of_value (fun shorter => (fewer levels shorter).2.1)
          (fun shorter => (fewer levels shorter).2.2) read
      exact ⟨values,
        itemsFitIn_of_listItems values fun shorter => (fewer levels shorter).2.1,
        fieldsFitIn_of_objectFields (fun shorter => (fewer _ shorter).1)
          fun shorter => (fewer levels shorter).2.2⟩

/-- A constant value that was read is no deeper than the reader goes. -/
theorem gives_value (levels : Nat) : Gives (value true levels) (Value.FitsIn levels) := by
  intro tokens rest found read
  exact (allFit tokens levels).1 read

/-! ## Directives -/

theorem gives_argument (levels : Nat) :
    Gives (argument true levels) fun given => ∀ argument ∈ given, argument.2.FitsIn levels := by
  refine Gives.next name fun found => Gives.next (takes .colon) fun hasValue => Gives.ite ?_ ?_
  · refine (gives_value levels).bind fun item fits => Gives.pure ?_
    simpa using fits
  · refine Gives.pure ?_
    simp

theorem gives_arguments (levels : Nat) :
    Gives (arguments true levels) fun given => ∀ argument ∈ given, argument.2.FitsIn levels := by
  refine ((gives_argument levels).optionalBetween .openParen .closeParen).bind
    fun read fits => Gives.pure ?_
  intro argument member
  obtain ⟨given, inside, same⟩ := List.mem_filterMap.1 member
  exact fits given inside argument same

theorem gives_directives (levels : Nat) :
    Gives (directives true levels) fun applied =>
      ∀ directive ∈ applied, directive.FitsIn levels := by
  refine Gives.afterSeparators .atSign (Gives.next name fun found => ?_)
  exact (gives_arguments levels).bind fun given fits => Gives.pure fits

end Reading

end Subgraph
