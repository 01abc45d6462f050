import Subgraph.Language.Reading
import Subgraph.Proofs.Language.Spelling

/-!
# Readings of spelled tokens

What the readings give on lexemes whose tokens are known.

* `Lexeme.next` is the token that a reading sees first.
* `itemsUntil_append` reads items that begin with names, up to a closing
  punctuator.
* `afterSeparators_append` and `separated_append` read items with separators in
  front of them and between them.
-/

namespace Subgraph

/-- The first token of a list of lexemes. -/
def Lexeme.next (lexemes : List Lexeme) : Option Token := lexemes.head?.map Lexeme.token

@[simp] theorem Lexeme.next_cons (lexeme : Lexeme) (rest : List Lexeme) :
    next (lexeme :: rest) = some lexeme.token :=
  rfl

/-- The first token of lexemes with known tokens in front. -/
theorem Lexeme.next_append {lexemes rest : List Lexeme} {token : Token} {tokens : List Token}
    (same : lexemes.map Lexeme.token = token :: tokens) : next (lexemes ++ rest) = some token := by
  obtain ⟨_, _, rfl, _⟩ := of_map_token_eq_cons same
  rfl

theorem Lexeme.of_next_eq {lexemes : List Lexeme} {token : Token}
    (begins : next lexemes = some token) :
    ∃ (afterComma : Bool) (rest : List Lexeme), lexemes = ⟨token, afterComma⟩ :: rest := by
  cases lexemes with
  | nil => cases begins
  | cons lexeme rest =>
      cases begins
      exact ⟨lexeme.afterComma, rest, rfl⟩

theorem Lexeme.length_lt_append {lexemes rest : List Lexeme} {token : Token}
    {tokens : List Token} (same : lexemes.map Lexeme.token = token :: tokens) :
    rest.length < (lexemes ++ rest).length := by
  obtain ⟨_, _, rfl, _⟩ := of_map_token_eq_cons same
  simp only [List.cons_append, List.length_cons, List.length_append]
  omega

namespace Reading

open Lexeme (next)

variable {α β : Type} {tokens rest : List Lexeme}

/-! ## Steps -/

theorem bind_apply (first : Reading α) (second : α → Reading β) (tokens : List Lexeme) :
    (first >>= second) tokens = (first tokens).bind fun (found, rest) => second found rest :=
  rfl

theorem bind_of_eq {first : Reading α} {found : α} (read : first tokens = some (found, rest))
    (second : α → Reading β) : (first >>= second) tokens = second found rest := by
  rw [bind_apply, read]
  rfl

@[simp] theorem pure_apply (found : α) (tokens : List Lexeme) :
    (pure found : Reading α) tokens = some (found, tokens) :=
  rfl

theorem expect_cons (mark : Punctuator) (comma : Bool) (rest : List Lexeme) :
    expect mark (⟨.punctuator mark, comma⟩ :: rest) = some ((), rest) :=
  if_pos rfl

theorem name_cons (found : Name) (comma : Bool) (rest : List Lexeme) :
    name (⟨.name found, comma⟩ :: rest) = some (found, rest) :=
  rfl

theorem takes_cons (mark : Punctuator) (comma : Bool) (rest : List Lexeme) :
    takes mark (⟨.punctuator mark, comma⟩ :: rest) = some (true, rest) :=
  if_pos rfl

theorem takes_of_next_ne {mark : Punctuator} (other : next tokens ≠ some (.punctuator mark)) :
    takes mark tokens = some (false, tokens) := by
  unfold takes
  split
  next => rw [if_neg fun same => other (by rw [same]; rfl)]
  next => rfl

theorem isNext_of_next_eq {mark : Punctuator} (begins : next tokens = some (.punctuator mark)) :
    isNext mark tokens = some (true, tokens) := by
  have same : tokens.head?.map Lexeme.token = some (.punctuator mark) := begins
  simp only [isNext, same, decide_true]

theorem isNext_of_next_ne {mark : Punctuator} (other : next tokens ≠ some (.punctuator mark)) :
    isNext mark tokens = some (false, tokens) := by
  have differs : tokens.head?.map Lexeme.token ≠ some (.punctuator mark) := other
  simp only [isNext, differs, decide_false]

/-- No string stands in front of a name. -/
theorem string?_of_name {found : Name} (begins : next tokens = some (.name found)) :
    string? tokens = some (none, tokens) := by
  unfold string?
  split
  next => cases begins
  next => rfl

/-! ## Items up to a punctuator -/

theorem optionalBetween_of_next_ne {opening closing : Punctuator} {item : Reading α}
    (other : next tokens ≠ some (.punctuator opening)) :
    optionalBetween opening closing item tokens = some ([], tokens) := by
  rw [optionalBetween, bind_of_eq (isNext_of_next_ne other)]
  rfl

theorem optionalBetween_cons {opening closing : Punctuator} {item : Reading α} (comma : Bool) :
    optionalBetween opening closing item (⟨.punctuator opening, comma⟩ :: rest) =
      itemsUntil closing item rest := by
  rw [optionalBetween, bind_of_eq (isNext_of_next_eq rfl), if_pos rfl, between,
    bind_of_eq (expect_cons opening comma rest)]

/-- The last item stands in front of the closing punctuator. -/
theorem itemsUntil_last {closing : Punctuator} {item : Reading α} {found : α} {comma : Bool}
    (read : item tokens = some (found, ⟨.punctuator closing, comma⟩ :: rest)) :
    itemsUntil closing item tokens = some ([found], rest) := by
  rw [itemsUntil, read]
  simp

/-- An item stands in front of the items that follow it. -/
theorem itemsUntil_of_item {closing : Punctuator} {item : Reading α} {found : α}
    (read : item tokens = some (found, rest)) (shorter : rest.length < tokens.length)
    (goesOn : next rest ≠ some (.punctuator closing)) :
    itemsUntil closing item tokens =
      (itemsUntil closing item rest).map fun (others, last) => (found :: others, last) := by
  rw [itemsUntil, read]
  simp only [Option.bind_eq_bind, Option.bind_some, if_pos shorter]
  split
  next mark _ after =>
      rw [if_neg fun same => goesOn (by rw [same]; rfl)]
      cases itemsUntil closing item _ <;> rfl
  next => cases itemsUntil closing item rest <;> rfl

/-- What items up to a closing punctuator were read from. -/
theorem of_itemsUntil {closing : Punctuator} {item : Reading α} {found : List α}
    (read : itemsUntil closing item tokens = some (found, rest)) :
    ∃ first after, item tokens = some (first, after) ∧
      ((∃ comma, after = ⟨.punctuator closing, comma⟩ :: rest ∧ found = [first]) ∨
        (next after ≠ some (.punctuator closing) ∧ after.length < tokens.length ∧
          ∃ others, itemsUntil closing item after = some (others, rest) ∧
            found = first :: others)) := by
  rw [itemsUntil] at read
  obtain ⟨⟨first, after⟩, one, read⟩ := Option.bind_eq_some_iff.1 read
  refine ⟨first, after, one, ?_⟩
  dsimp only at read
  split at read
  next mark comma behind =>
      split at read
      next is =>
          cases is
          cases read
          exact Or.inl ⟨comma, rfl, rfl⟩
      next other =>
          split at read
          next shorter =>
              obtain ⟨⟨others, _⟩, two, read⟩ := Option.bind_eq_some_iff.1 read
              cases read
              refine Or.inr ⟨?_, shorter, others, two, rfl⟩
              rw [Lexeme.next_cons]
              intro same
              cases same
              exact other rfl
          next => cases read
  next noMark =>
      split at read
      next shorter =>
          obtain ⟨⟨others, _⟩, two, read⟩ := Option.bind_eq_some_iff.1 read
          cases read
          refine Or.inr ⟨?_, shorter, others, two, rfl⟩
          intro same
          obtain ⟨comma, behind, rfl⟩ := Lexeme.of_next_eq same
          exact noMark _ _ _ rfl
      next => cases read

/-- Items that begin with names are read up to the closing punctuator, if each is read in front
of a name and of the punctuator. -/
theorem itemsUntil_append (closing : Punctuator) (item : Reading α) (spell : β → List Token)
    (result : β → α) (items : List β) (nonempty : items ≠ [])
    (begins : ∀ x ∈ items, ∃ found others, spell x = .name found :: others)
    (reads : ∀ x ∈ items, ∀ lexemes rest : List Lexeme, lexemes.map Lexeme.token = spell x →
      (next rest = some (.punctuator closing) ∨ ∃ found, next rest = some (.name found)) →
      item (lexemes ++ rest) = some (result x, rest))
    {lexemes : List Lexeme} (same : lexemes.map Lexeme.token = items.flatMap spell)
    (comma : Bool) (rest : List Lexeme) :
    itemsUntil closing item (lexemes ++ ⟨.punctuator closing, comma⟩ :: rest) =
      some (items.map result, rest) := by
  induction items generalizing lexemes with
  | nil => exact absurd rfl nonempty
  | cons x items ih =>
      rw [List.flatMap_cons] at same
      obtain ⟨front, back, rfl, first, others⟩ := List.map_eq_append_iff.1 same
      have read := reads x List.mem_cons_self front
      obtain ⟨found, tokens, starts⟩ := begins x List.mem_cons_self
      rw [List.append_assoc]
      cases items with
      | nil =>
          rw [List.map_eq_nil_iff.1 others, List.nil_append]
          exact itemsUntil_last (read _ first (Or.inl rfl))
      | cons y items =>
          obtain ⟨second, more, follows⟩ := begins y (List.mem_cons_of_mem _ List.mem_cons_self)
          rw [List.flatMap_cons, follows, List.cons_append] at others
          have goesOn : next (back ++ ⟨.punctuator closing, comma⟩ :: rest) =
              some (.name second) := Lexeme.next_append others
          rw [itemsUntil_of_item (read _ first (Or.inr ⟨second, goesOn⟩))
            (Lexeme.length_lt_append (first.trans starts))
            (by rw [goesOn]; simp)]
          rw [ih (List.cons_ne_nil _ _) (fun z member => begins z (List.mem_cons_of_mem _ member))
            (fun z member => reads z (List.mem_cons_of_mem _ member))]
          · rfl
          · rw [others, List.flatMap_cons, follows, List.cons_append]

/-! ## Items with separators -/

theorem afterSeparators_of_next_ne {separator : Punctuator} {item : Reading α}
    (other : next tokens ≠ some (.punctuator separator)) :
    afterSeparators separator item tokens = some ([], tokens) := by
  unfold afterSeparators
  split
  next => rw [if_neg fun same => other (by rw [same]; rfl)]
  next => rfl

theorem afterSeparators_of_item {separator : Punctuator} {item : Reading α} {found : α}
    (comma : Bool) (read : item tokens = some (found, rest))
    (shorter : rest.length ≤ tokens.length) :
    afterSeparators separator item (⟨.punctuator separator, comma⟩ :: tokens) =
      (afterSeparators separator item rest).map fun (others, last) => (found :: others, last) := by
  rw [afterSeparators, if_pos rfl, read]
  simp only [Option.bind_eq_bind, Option.bind_some, if_pos shorter]
  cases afterSeparators separator item rest <;> rfl

/-- What items with separators in front were read from. -/
theorem of_afterSeparators {separator : Punctuator} {item : Reading α} {found : List α}
    (read : afterSeparators separator item tokens = some (found, rest)) :
    (next tokens ≠ some (.punctuator separator) ∧ found = [] ∧ rest = tokens) ∨
      ∃ comma behind first after others,
        tokens = ⟨.punctuator separator, comma⟩ :: behind ∧ item behind = some (first, after) ∧
          after.length ≤ behind.length ∧
          afterSeparators separator item after = some (others, rest) ∧
          found = first :: others := by
  by_cases begins : next tokens = some (.punctuator separator)
  · obtain ⟨comma, behind, rfl⟩ := Lexeme.of_next_eq begins
    rw [afterSeparators, if_pos rfl] at read
    obtain ⟨⟨first, after⟩, one, read⟩ := Option.bind_eq_some_iff.1 read
    dsimp only at read
    split at read
    next shorter =>
        obtain ⟨⟨others, _⟩, two, read⟩ := Option.bind_eq_some_iff.1 read
        cases read
        exact Or.inr ⟨comma, behind, first, after, others, rfl, one, shorter, two, rfl⟩
    next => cases read
  · rw [afterSeparators_of_next_ne begins] at read
    cases read
    exact Or.inl ⟨begins, rfl, rfl⟩

/-- Items with separators in front are read before what follows them, if each is read in front of
a separator and of what comes behind the last. -/
theorem afterSeparators_append_of_eq (separator : Punctuator) (item : Reading α)
    (spell : β → List Token) (result : β → α) (items : List β) {tail : List Lexeme}
    (reads : ∀ x ∈ items, ∀ lexemes after : List Lexeme, lexemes.map Lexeme.token = spell x →
      (next after = some (.punctuator separator) ∨ next after = next tail) →
      item (lexemes ++ after) = some (result x, after))
    {others : List α} (behind : afterSeparators separator item tail = some (others, rest))
    {lexemes : List Lexeme} (same : lexemes.map Lexeme.token =
      items.flatMap fun x => .punctuator separator :: spell x) :
    afterSeparators separator item (lexemes ++ tail) = some (items.map result ++ others, rest) := by
  induction items generalizing lexemes with
  | nil =>
      rw [List.map_eq_nil_iff.1 same]
      exact behind
  | cons x items ih =>
      rw [List.flatMap_cons, List.cons_append] at same
      obtain ⟨comma, _, rfl, inside⟩ := Lexeme.of_map_token_eq_cons same
      obtain ⟨front, back, rfl, first, later⟩ := List.map_eq_append_iff.1 inside
      have follows : next (back ++ tail) = some (.punctuator separator) ∨
          next (back ++ tail) = next tail := by
        cases items with
        | nil => exact Or.inr (by rw [List.map_eq_nil_iff.1 later, List.nil_append])
        | cons y items => exact Or.inl (Lexeme.next_append later)
      have read := reads x List.mem_cons_self front (back ++ tail) first follows
      rw [List.cons_append, List.append_assoc, afterSeparators_of_item comma read]
      · rw [ih (fun z member => reads z (List.mem_cons_of_mem _ member)) later]
        rfl
      · simp only [List.length_append]
        omega

/-- Items with separators in front are read as long as there is one. -/
theorem afterSeparators_append (separator : Punctuator) (item : Reading α)
    (spell : β → List Token) (result : β → α) (items : List β) {rest : List Lexeme}
    (reads : ∀ x ∈ items, ∀ lexemes after : List Lexeme, lexemes.map Lexeme.token = spell x →
      (next after = some (.punctuator separator) ∨ next after = next rest) →
      item (lexemes ++ after) = some (result x, after))
    (stops : next rest ≠ some (.punctuator separator))
    {lexemes : List Lexeme} (same : lexemes.map Lexeme.token =
      items.flatMap fun x => .punctuator separator :: spell x) :
    afterSeparators separator item (lexemes ++ rest) = some (items.map result, rest) := by
  have read := afterSeparators_append_of_eq separator item spell result items reads
    (afterSeparators_of_next_ne stops) same
  rwa [List.append_nil] at read

/-- Items with separators between them are read, if each is read in front of a separator and of
what comes behind the last. -/
theorem separated_append (separator : Punctuator) (item : Reading α) (spell : β → List Token)
    (result : β → α) (first : β) (items : List β) {rest : List Lexeme}
    (begins : ∃ found others, spell first = .name found :: others)
    (reads : ∀ x ∈ first :: items, ∀ lexemes after : List Lexeme,
      lexemes.map Lexeme.token = spell x →
      (next after = some (.punctuator separator) ∨ next after = next rest) →
      item (lexemes ++ after) = some (result x, after))
    (stops : next rest ≠ some (.punctuator separator))
    {lexemes : List Lexeme} (same : lexemes.map Lexeme.token =
      spell first ++ items.flatMap fun x => .punctuator separator :: spell x) :
    separated separator item (lexemes ++ rest) = some ((first :: items).map result, rest) := by
  obtain ⟨front, back, rfl, spelled, others⟩ := List.map_eq_append_iff.1 same
  obtain ⟨found, tokens, starts⟩ := begins
  have follows : next (back ++ rest) = some (.punctuator separator) ∨
      next (back ++ rest) = next rest := by
    cases items with
    | nil => exact Or.inr (by rw [List.map_eq_nil_iff.1 others, List.nil_append])
    | cons y items => exact Or.inl (Lexeme.next_append others)
  have noMark : next (front ++ (back ++ rest)) ≠ some (.punctuator separator) := by
    rw [Lexeme.next_append (spelled.trans starts)]
    simp
  rw [separated, List.append_assoc, bind_of_eq (takes_of_next_ne noMark),
    bind_of_eq (reads first List.mem_cons_self front _ spelled follows),
    bind_of_eq (afterSeparators_append separator item spell result items
      (fun x member => reads x (List.mem_cons_of_mem _ member)) stops others)]
  rfl

end Reading

end Subgraph
