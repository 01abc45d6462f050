import Subgraph.Proofs.Language.Directive

/-!
# Readings do not look ahead

A reading that succeeds on all of its lexemes succeeds in front of more of them,
unless the next one is of a kind that it would go on with.  Nor does it matter
where commas stand.

* `IsLocal` says so of a reading, with the tokens that it stops at.
* `isLocal_directives` is the case of applied directives, and
  `directives_append_of_read` reads more of them behind.
-/

namespace Subgraph

namespace Reading

open Lexeme (next)

variable {α β : Type}

/-- What a reading takes from some lexemes, it also takes from lexemes with the same tokens and
with more lexemes behind, if it left some or stops at the first of those. -/
def GoesOn (reading : Reading α) (stops : Option Token → Prop) (tokens : List Lexeme) : Prop :=
  ∀ {after : List Lexeme} {found : α}, reading tokens = some (found, after) →
    after.length ≤ tokens.length ∧
      ∀ {others more : List Lexeme}, others.map Lexeme.token = tokens.map Lexeme.token →
        (after = [] → stops (next more)) →
        ∃ left : List Lexeme, left.map Lexeme.token = after.map Lexeme.token ∧
          reading (others ++ more) = some (found, left ++ more)

/-- A reading looks no further than at the next token, and stops at some of them. -/
structure IsLocal (reading : Reading α) (stops : Option Token → Prop) : Prop where
  goesOn : ∀ {tokens : List Lexeme}, GoesOn reading stops tokens

namespace IsLocal

variable {reading : Reading α} {stops : Option Token → Prop}

/-- A reading that takes all lexemes leaves exactly what stands behind them. -/
theorem append (isLocal : IsLocal reading stops) {tokens others more : List Lexeme} {found : α}
    (read : reading tokens = some (found, []))
    (same : others.map Lexeme.token = tokens.map Lexeme.token) (stop : stops (next more)) :
    reading (others ++ more) = some (found, more) := by
  obtain ⟨left, nothing, behind⟩ := (isLocal.goesOn read).2 same fun _ => stop
  rwa [List.map_eq_nil_iff.1 nothing] at behind

theorem weaken {fewer : Option Token → Prop} (isLocal : IsLocal reading stops)
    (less : ∀ token, fewer token → stops token) : IsLocal reading fewer := by
  constructor
  intro tokens after found read
  obtain ⟨shorter, goesOn⟩ := isLocal.goesOn read
  exact ⟨shorter, fun same stop => goesOn same fun none => less _ (stop none)⟩

protected theorem pure (found : α) : IsLocal (pure found : Reading α) fun _ => True := by
  constructor
  intro tokens after result read
  cases read
  exact ⟨Nat.le_refl _, fun {others more} same _ => ⟨others, same, rfl⟩⟩

protected theorem bind {second : α → Reading β} {later : Option Token → Prop}
    (isLocal : IsLocal reading stops) (each : ∀ found, IsLocal (second found) later) :
    IsLocal (reading >>= second) fun token => stops token ∧ later token := by
  constructor
  intro tokens after result read
  obtain ⟨⟨found, middle⟩, one, two⟩ := Option.bind_eq_some_iff.1 read
  have shorter := (isLocal.goesOn one).1
  have shortest := ((each found).goesOn two).1
  refine ⟨Nat.le_trans shortest shorter, fun {others more} same stop => ?_⟩
  have nothing (none : middle = []) : after = [] := by
    rw [none] at shortest
    exact List.length_eq_zero_iff.1 (Nat.le_zero.1 shortest)
  obtain ⟨between, same, first⟩ := (isLocal.goesOn one).2 same fun none => (stop (nothing none)).1
  obtain ⟨left, same, last⟩ := ((each found).goesOn two).2 same fun none => (stop none).2
  exact ⟨left, same, (bind_of_eq first second).trans last⟩

end IsLocal

/-! ## Single tokens -/

theorem isLocal_expect (mark : Punctuator) : IsLocal (expect mark) fun _ => True := by
  constructor
  intro tokens after found read
  unfold expect at read
  split at read
  next other comma rest =>
      split at read
      next is =>
          cases is
          cases read
          refine ⟨Nat.le_succ _, fun {others more} same _ => ?_⟩
          obtain ⟨_, left, rfl, behind⟩ := Lexeme.of_map_token_eq_cons same
          exact ⟨left, behind, expect_cons mark _ _⟩
      next => cases read
  next => cases read

theorem isLocal_name : IsLocal name fun _ => True := by
  constructor
  intro tokens after found read
  unfold name at read
  split at read
  next other comma rest =>
      cases read
      refine ⟨Nat.le_succ _, fun {others more} same _ => ?_⟩
      obtain ⟨_, left, rfl, behind⟩ := Lexeme.of_map_token_eq_cons same
      exact ⟨left, behind, rfl⟩
  next => cases read

theorem length_append_of_same {tokens others : List Lexeme} (more : List Lexeme)
    (same : others.map Lexeme.token = tokens.map Lexeme.token) :
    (others ++ more).length = tokens.length + more.length := by
  rw [List.length_append, ← List.length_map Lexeme.token, same, List.length_map]

/-- The same tokens with more behind them begin alike, unless there are none. -/
theorem next_append_of_same {tokens others : List Lexeme} (more : List Lexeme)
    (same : others.map Lexeme.token = tokens.map Lexeme.token) :
    next (others ++ more) = next tokens ∨ tokens = [] ∧ next (others ++ more) = next more := by
  cases tokens with
  | nil =>
      rw [List.map_eq_nil_iff.1 same]
      exact Or.inr ⟨rfl, rfl⟩
  | cons lexeme tokens => exact Or.inl (Lexeme.next_append same)

theorem next_append_ne {tokens others more : List Lexeme} {token : Token}
    (same : others.map Lexeme.token = tokens.map Lexeme.token)
    (other : next tokens ≠ some token) (stop : tokens = [] → next more ≠ some token) :
    next (others ++ more) ≠ some token := by
  rcases next_append_of_same more same with begins | ⟨none, begins⟩
  · rwa [begins]
  · rw [begins]
    exact stop none

theorem isLocal_takes (mark : Punctuator) :
    IsLocal (takes mark) fun token => token ≠ some (.punctuator mark) := by
  constructor
  intro tokens after found read
  by_cases begins : next tokens = some (.punctuator mark)
  · obtain ⟨comma, rest, rfl⟩ := Lexeme.of_next_eq begins
    rw [takes_cons] at read
    cases read
    refine ⟨Nat.le_succ _, fun {others more} same _ => ?_⟩
    obtain ⟨_, left, rfl, behind⟩ := Lexeme.of_map_token_eq_cons same
    exact ⟨left, behind, takes_cons mark _ _⟩
  · rw [takes_of_next_ne begins] at read
    cases read
    exact ⟨Nat.le_refl _, fun {others more} same stop =>
      ⟨others, same, takes_of_next_ne (next_append_ne same begins stop)⟩⟩

theorem isLocal_isNext (mark : Punctuator) :
    IsLocal (isNext mark) fun token => token ≠ some (.punctuator mark) := by
  constructor
  intro tokens after found read
  by_cases begins : next tokens = some (.punctuator mark)
  · rw [isNext_of_next_eq begins] at read
    cases read
    refine ⟨Nat.le_refl _, fun {others more} same stop => ⟨others, same, isNext_of_next_eq ?_⟩⟩
    rcases next_append_of_same more same with alike | ⟨rfl, _⟩
    · rw [alike, begins]
    · cases begins
  · rw [isNext_of_next_ne begins] at read
    cases read
    exact ⟨Nat.le_refl _, fun {others more} same stop =>
      ⟨others, same, isNext_of_next_ne (next_append_ne same begins stop)⟩⟩

/-! ## Repetitions -/

/-- Where there is nothing, there are no items. -/
theorem itemsUntil_nil (closing : Punctuator) {item : Reading α} {stops : Option Token → Prop}
    (isLocal : IsLocal item stops) : itemsUntil closing item [] = none := by
  cases read : itemsUntil closing item [] with
  | none => rfl
  | some result =>
      obtain ⟨first, after, one, ⟨comma, rfl, _⟩ | ⟨_, shorter, _⟩⟩ := of_itemsUntil read
      · exact absurd (isLocal.goesOn one).1 (Nat.not_succ_le_zero _)
      · exact absurd shorter (Nat.not_lt_zero _)

/-- Items up to a closing punctuator are read without a look at what comes behind. -/
theorem isLocal_itemsUntil (closing : Punctuator) {item : Reading α} {stops : Option Token → Prop}
    (isLocal : IsLocal item stops) : IsLocal (itemsUntil closing item) fun _ => True := by
  constructor
  intro tokens
  induction size : tokens.length using Nat.strongRecOn generalizing tokens with
  | ind size ih =>
      intro after found read
      obtain ⟨first, rest, one, ⟨comma, rfl, rfl⟩ | ⟨goesOn, shorter, others, two, rfl⟩⟩ :=
        of_itemsUntil read
      · have least := (isLocal.goesOn one).1
        rw [List.length_cons] at least
        refine ⟨by omega, fun {others more} same _ => ?_⟩
        obtain ⟨left, behind, back⟩ := (isLocal.goesOn one).2 same fun none => by cases none
        obtain ⟨_, left, rfl, last⟩ := Lexeme.of_map_token_eq_cons behind
        exact ⟨left, last, itemsUntil_last back⟩
      · have some : rest ≠ [] := by
          rintro rfl
          rw [itemsUntil_nil closing isLocal] at two
          cases two
        obtain ⟨least, later⟩ := ih rest.length (size ▸ shorter) rfl two
        refine ⟨by omega, fun {tokens' more} same _ => ?_⟩
        obtain ⟨left, behind, back⟩ := (isLocal.goesOn one).2 same fun none => absurd none some
        obtain ⟨last, remains, others⟩ := later behind fun _ => trivial
        refine ⟨last, remains, ?_⟩
        rw [itemsUntil_of_item back, others]
        · rfl
        · rw [length_append_of_same more behind, length_append_of_same more same]
          exact Nat.add_lt_add_right shorter _
        · exact next_append_ne behind goesOn fun none => absurd none some

theorem isLocal_between (opening closing : Punctuator) {item : Reading α}
    {stops : Option Token → Prop} (isLocal : IsLocal item stops) :
    IsLocal (between opening closing item) fun _ => True :=
  ((isLocal_expect opening).bind fun _ => isLocal_itemsUntil closing isLocal).weaken
    fun _ _ => ⟨trivial, trivial⟩

theorem isLocal_optionalBetween (opening closing : Punctuator) {item : Reading α}
    {stops : Option Token → Prop} (isLocal : IsLocal item stops) :
    IsLocal (optionalBetween opening closing item)
      fun token => token ≠ some (.punctuator opening) := by
  refine ((isLocal_isNext opening).bind fun begins => ?_).weaken fun _ stop => ⟨stop, trivial⟩
  cases begins with
  | false => exact IsLocal.pure []
  | true => exact isLocal_between opening closing isLocal

/-- Items with separators in front stop at what an item stops at and is no separator. -/
theorem isLocal_afterSeparators (separator : Punctuator) {item : Reading α}
    {stops : Option Token → Prop} (isLocal : IsLocal item stops) :
    IsLocal (afterSeparators separator item)
      fun token => token ≠ some (.punctuator separator) ∧ stops token := by
  constructor
  intro tokens
  induction size : tokens.length using Nat.strongRecOn generalizing tokens with
  | ind size ih =>
      intro after found read
      obtain ⟨other, rfl, rfl⟩ | ⟨comma, behind, first, rest, others, rfl, one, shorter, two, rfl⟩ :=
        of_afterSeparators read
      · exact ⟨Nat.le_refl _, fun {others more} same stop => ⟨others, same,
          afterSeparators_of_next_ne (next_append_ne same other fun none => (stop none).1)⟩⟩
      · rw [List.length_cons] at size
        obtain ⟨least, later⟩ := ih rest.length (by omega) rfl two
        refine ⟨by rw [List.length_cons]; omega, fun {tokens' more} same stop => ?_⟩
        have nothing (none : rest = []) : after = [] := by
          rw [none] at least
          exact List.length_eq_zero_iff.1 (Nat.le_zero.1 least)
        obtain ⟨_, tokens', rfl, inner⟩ := Lexeme.of_map_token_eq_cons same
        obtain ⟨left, remains, back⟩ :=
          (isLocal.goesOn one).2 inner fun none => (stop (nothing none)).2
        obtain ⟨last, ends, others⟩ := later remains stop
        refine ⟨last, ends, ?_⟩
        rw [List.cons_append, afterSeparators_of_item _ back, others]
        · rfl
        · rw [length_append_of_same more remains, length_append_of_same more inner]
          exact Nat.add_le_add_right shorter _

/-- Items that take all of some lexemes come before those that are read behind them. -/
theorem afterSeparators_append_of_read (separator : Punctuator) {item : Reading α}
    {stops : Option Token → Prop} (isLocal : IsLocal item stops) {tokens front tail rest : List Lexeme}
    {found others : List α} (read : afterSeparators separator item tokens = some (found, []))
    (same : front.map Lexeme.token = tokens.map Lexeme.token) (stop : stops (next tail))
    (behind : afterSeparators separator item tail = some (others, rest)) :
    afterSeparators separator item (front ++ tail) = some (found ++ others, rest) := by
  induction size : tokens.length using Nat.strongRecOn generalizing tokens front found with
  | ind size ih =>
      obtain ⟨_, rfl, rfl⟩ | ⟨comma, inside, first, after, later, rfl, one, shorter, two, rfl⟩ :=
        of_afterSeparators read
      · rw [List.map_eq_nil_iff.1 same]
        exact behind
      · obtain ⟨_, front, rfl, inner⟩ := Lexeme.of_map_token_eq_cons same
        obtain ⟨left, remains, back⟩ := (isLocal.goesOn one).2 inner fun _ => stop
        rw [List.length_cons] at size
        rw [List.cons_append, afterSeparators_of_item _ back,
          ih after.length (by omega) two remains rfl]
        · rfl
        · rw [length_append_of_same tail remains, length_append_of_same tail inner]
          exact Nat.add_le_add_right shorter _

/-! ## Values -/

variable {constant : Bool} {levels : Nat} {tokens : List Lexeme}

/-- A value, if what is inside of it goes on. -/
theorem value_goesOn
    (lists : ∀ rest : List Lexeme, rest.length < tokens.length →
      GoesOn (listItems constant levels) (fun _ => True) rest)
    (objects : ∀ rest : List Lexeme, rest.length < tokens.length →
      GoesOn (objectFields constant levels) (fun _ => True) rest) :
    GoesOn (value constant levels) (fun _ => True) tokens := by
  intro after found read
  unfold value at read
  split at read
  case h_1 | h_2 | h_3 | h_4 =>
      cases read
      refine ⟨Nat.le_succ _, fun {others more} same _ => ?_⟩
      obtain ⟨_, left, rfl, behind⟩ := Lexeme.of_map_token_eq_cons same
      exact ⟨left, behind, by rw [List.cons_append, value]⟩
  case h_5 name comma rest =>
      split at read
      next => cases read
      next allowed =>
          cases read
          refine ⟨Nat.le_add_right _ 2, fun {others more} same _ => ?_⟩
          obtain ⟨_, _, rfl, afterSign⟩ := Lexeme.of_map_token_eq_cons same
          obtain ⟨_, left, rfl, behind⟩ := Lexeme.of_map_token_eq_cons afterSign
          exact ⟨left, behind, by
            rw [List.cons_append, List.cons_append, value, if_neg allowed]⟩
  case h_6 comma rest =>
      obtain ⟨⟨items, _⟩, inside, read⟩ := Option.map_eq_some_iff.1 read
      cases read
      obtain ⟨least, later⟩ := lists rest (Nat.lt_succ_self _) inside
      refine ⟨Nat.le_succ_of_le least, fun {others more} same _ => ?_⟩
      obtain ⟨_, _, rfl, behind⟩ := Lexeme.of_map_token_eq_cons same
      obtain ⟨left, remains, back⟩ := later behind fun _ => trivial
      exact ⟨left, remains, by rw [List.cons_append, value, back]; rfl⟩
  case h_7 comma rest =>
      obtain ⟨⟨fields, _⟩, inside, read⟩ := Option.map_eq_some_iff.1 read
      cases read
      obtain ⟨least, later⟩ := objects rest (Nat.lt_succ_self _) inside
      refine ⟨Nat.le_succ_of_le least, fun {others more} same _ => ?_⟩
      obtain ⟨_, _, rfl, behind⟩ := Lexeme.of_map_token_eq_cons same
      obtain ⟨left, remains, back⟩ := later behind fun _ => trivial
      exact ⟨left, remains, by rw [List.cons_append, value, back]; rfl⟩
  case h_8 => cases read

/-- The items of a list, if the first one and the others go on. -/
theorem listItems_goesOn
    (values : ∀ inner, GoesOn (value constant inner) (fun _ => True) tokens)
    (lists : ∀ rest : List Lexeme, rest.length < tokens.length →
      GoesOn (listItems constant levels) (fun _ => True) rest) :
    GoesOn (listItems constant levels) (fun _ => True) tokens := by
  intro after found read
  unfold listItems at read
  split at read
  case h_1 comma rest =>
      cases read
      refine ⟨Nat.le_succ _, fun {others more} same _ => ?_⟩
      obtain ⟨_, left, rfl, behind⟩ := Lexeme.of_map_token_eq_cons same
      exact ⟨left, behind, by rw [List.cons_append, listItems]⟩
  case h_2 => cases read
  case h_3 inner noBracket =>
      obtain ⟨⟨item, rest⟩, one, read⟩ := Option.bind_eq_some_iff.1 read
      dsimp only at read
      split at read
      next shorter =>
          obtain ⟨⟨items, _⟩, two, read⟩ := Option.bind_eq_some_iff.1 read
          cases read
          obtain ⟨_, first⟩ := values inner one
          obtain ⟨least, later⟩ := lists rest shorter two
          refine ⟨Nat.le_trans least (Nat.le_of_lt shorter), fun {others more} same _ => ?_⟩
          obtain ⟨between, behind, back⟩ := first same fun _ => trivial
          obtain ⟨left, remains, items⟩ := later behind fun _ => trivial
          refine ⟨left, remains, ?_⟩
          rw [Value.listItems_of_value back, items]
          · rfl
          · rw [length_append_of_same more behind, length_append_of_same more same]
            exact Nat.add_lt_add_right shorter _
      next => cases read

/-- The fields of an object, if the first value and the other fields go on. -/
theorem objectFields_goesOn
    (values : ∀ inner, ∀ rest : List Lexeme, rest.length < tokens.length →
      GoesOn (value constant inner) (fun _ => True) rest)
    (objects : ∀ rest : List Lexeme, rest.length < tokens.length →
      GoesOn (objectFields constant levels) (fun _ => True) rest) :
    GoesOn (objectFields constant levels) (fun _ => True) tokens := by
  intro after found read
  unfold objectFields at read
  split at read
  case h_1 comma rest =>
      cases read
      refine ⟨Nat.le_succ _, fun {others more} same _ => ?_⟩
      obtain ⟨_, left, rfl, behind⟩ := Lexeme.of_map_token_eq_cons same
      exact ⟨left, behind, by rw [List.cons_append, objectFields]⟩
  case h_2 => cases read
  case h_3 name comma colonComma rest inner =>
      obtain ⟨⟨item, last⟩, one, read⟩ := Option.bind_eq_some_iff.1 read
      dsimp only at read
      split at read
      next shorter =>
          obtain ⟨⟨fields, _⟩, two, read⟩ := Option.bind_eq_some_iff.1 read
          cases read
          obtain ⟨_, first⟩ := values inner rest (Nat.lt_add_of_pos_right Nat.two_pos) one
          obtain ⟨least, later⟩ := objects last
            (Nat.lt_succ_of_le (Nat.le_succ_of_le shorter)) two
          refine ⟨Nat.le_trans least (Nat.le_add_right_of_le (Nat.le_succ_of_le shorter)),
            fun {others more} same _ => ?_⟩
          obtain ⟨_, _, rfl, afterName⟩ := Lexeme.of_map_token_eq_cons same
          obtain ⟨_, others, rfl, afterColon⟩ := Lexeme.of_map_token_eq_cons afterName
          obtain ⟨between, behind, back⟩ := first afterColon fun _ => trivial
          obtain ⟨left, remains, fields⟩ := later behind fun _ => trivial
          refine ⟨left, remains, ?_⟩
          rw [List.cons_append, List.cons_append, Value.objectFields_of_value _ _ back, fields]
          · rfl
          · rw [length_append_of_same more behind, length_append_of_same more afterColon]
            exact Nat.add_le_add_right shorter _
      next => cases read
  case h_4 name comma rest inner noColon =>
      obtain ⟨least, later⟩ := objects rest (Nat.lt_succ_self _) read
      refine ⟨Nat.le_succ_of_le least, fun {others more} same _ => ?_⟩
      obtain ⟨_, others, rfl, behind⟩ := Lexeme.of_map_token_eq_cons same
      obtain ⟨left, remains, back⟩ := later behind fun _ => trivial
      refine ⟨left, remains, ?_⟩
      rw [List.cons_append, objectFields]
      · exact back
      · -- A name at the very end is no field, so what stands behind cannot add its colon.
        have noColonNext : next (others ++ more) ≠ some (.punctuator .colon) := by
          refine next_append_ne behind (fun begins => ?_) fun none => ?_
          · obtain ⟨comma, tail, rfl⟩ := Lexeme.of_next_eq begins
            exact noColon comma tail rfl
          · rw [none, objectFields] at read
            · cases read
            all_goals simp
        rintro comma tail same
        rw [same] at noColonNext
        exact noColonNext rfl
  case h_5 => cases read

/-- Values, lists and objects go on, by induction on how many lexemes there are. -/
theorem allGoOn (constant : Bool) (tokens : List Lexeme) (levels : Nat) :
    GoesOn (value constant levels) (fun _ => True) tokens ∧
      GoesOn (listItems constant levels) (fun _ => True) tokens ∧
      GoesOn (objectFields constant levels) (fun _ => True) tokens := by
  induction size : tokens.length using Nat.strongRecOn generalizing tokens levels with
  | ind size ih =>
      have fewer (levels : Nat) {rest : List Lexeme} (shorter : rest.length < tokens.length) :=
        ih rest.length (size ▸ shorter) rest levels rfl
      have values (levels : Nat) : GoesOn (value constant levels) (fun _ => True) tokens :=
        value_goesOn (fun _ shorter => (fewer levels shorter).2.1)
          fun _ shorter => (fewer levels shorter).2.2
      exact ⟨values levels,
        listItems_goesOn values fun _ shorter => (fewer levels shorter).2.1,
        objectFields_goesOn (fun inner _ shorter => (fewer inner shorter).1)
          fun _ shorter => (fewer levels shorter).2.2⟩

theorem isLocal_value (constant : Bool) (levels : Nat) :
    IsLocal (value constant levels) fun _ => True :=
  ⟨fun {tokens} => (allGoOn constant tokens levels).1⟩

/-! ## Directives -/

theorem isLocal_argument (constant : Bool) (levels : Nat) :
    IsLocal (argument constant levels) fun token => token ≠ some (.punctuator .colon) := by
  refine (isLocal_name.bind fun _ => (isLocal_takes .colon).bind fun takes => ?_).weaken
    fun _ stop => ⟨trivial, stop, trivial⟩
  cases takes with
  | false => exact IsLocal.pure none
  | true =>
      exact ((isLocal_value constant levels).bind fun _ => IsLocal.pure _).weaken
        fun _ _ => ⟨trivial, trivial⟩

theorem isLocal_arguments (constant : Bool) (levels : Nat) :
    IsLocal (arguments constant levels) fun token => token ≠ some (.punctuator .openParen) :=
  ((isLocal_optionalBetween .openParen .closeParen (isLocal_argument constant levels)).bind
    fun _ => IsLocal.pure _).weaken fun _ stop => ⟨stop, trivial⟩

theorem isLocal_directive (constant : Bool) (levels : Nat) :
    IsLocal (directive constant levels) fun token => token ≠ some (.punctuator .openParen) :=
  (isLocal_name.bind fun _ => (isLocal_arguments constant levels).bind
    fun _ => IsLocal.pure _).weaken fun _ stop => ⟨trivial, stop, trivial⟩

/-- Applied directives stop at what is neither the sign of one nor begins arguments. -/
theorem isLocal_directives (constant : Bool) (levels : Nat) :
    IsLocal (directives constant levels) fun token =>
      token ≠ some (.punctuator .atSign) ∧ token ≠ some (.punctuator .openParen) :=
  isLocal_afterSeparators .atSign (isLocal_directive constant levels)

/-- Applied directives that take all of some lexemes come before those that are read behind. -/
theorem directives_append_of_read {constant : Bool} {levels : Nat}
    {tokens front tail rest : List Lexeme} {applied others : List Directive}
    (read : directives constant levels tokens = some (applied, []))
    (same : front.map Lexeme.token = tokens.map Lexeme.token)
    (noParen : next tail ≠ some (.punctuator .openParen))
    (behind : directives constant levels tail = some (others, rest)) :
    directives constant levels (front ++ tail) = some (applied ++ others, rest) :=
  afterSeparators_append_of_read .atSign (isLocal_directive constant levels) read same noParen
    behind

end Reading

end Subgraph
