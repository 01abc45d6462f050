import Subgraph.Introspection.Conversion
import Subgraph.Proofs.Language.Locality
import Subgraph.Proofs.Language.ValueGrammar

/-!
# Queries with one argument

Which lexemes a query of one field with one argument is read from.  Only the number
of definitions, of selections and of arguments with a value is looked at, so names
may stand behind the value, and directives and selections behind the field.

* `Reading.arguments_eq_single_iff` is about what stands between the parentheses,
  and `Reading.Closes` is what may stand behind them.
* `Document.onlyArgument?_definitions_iff` is about all of the query.
-/

namespace Subgraph

open Lexeme (next)

namespace Reading

variable {levels : Nat} {tokens rest : List Lexeme}

/-! ## Arguments without a value -/

/-- A name with no colon behind it is an argument that counts for nothing. -/
theorem argument_bare (found : Name) (comma : Bool)
    (noColon : next tokens ≠ some (.punctuator .colon)) :
    argument false levels (⟨.name found, comma⟩ :: tokens) = some (none, tokens) := by
  rw [argument, bind_of_eq (name_cons found comma tokens), bind_of_eq (takes_of_next_ne noColon),
    if_neg Bool.false_ne_true]
  rfl

/-- What an argument without a value was read from. -/
theorem of_argument_eq_none (read : argument false levels tokens = some (none, rest)) :
    ∃ (found : Name) (comma : Bool), tokens = ⟨.name found, comma⟩ :: rest := by
  obtain ⟨⟨found, behind⟩, named, later⟩ := Option.bind_eq_some_iff.1 read
  unfold name at named
  split at named
  next comma tail =>
      cases named
      by_cases colon : next behind = some (.punctuator .colon)
      · obtain ⟨colonComma, inside, rfl⟩ := Lexeme.of_next_eq colon
        dsimp only at later
        rw [bind_of_eq (takes_cons .colon colonComma inside), if_pos rfl] at later
        obtain ⟨_, _, same⟩ := Option.bind_eq_some_iff.1 later
        cases same
      · dsimp only at later
        rw [bind_of_eq (takes_of_next_ne colon), if_neg Bool.false_ne_true] at later
        cases later
        exact ⟨found, comma, rfl⟩
  next => cases named

/-- Lexemes that are names. -/
def AreNames (lexemes : List Lexeme) : Prop :=
  ∃ names : List Name, lexemes.map Lexeme.token = names.map Token.name

/-- Arguments none of which has a value are names, up to the closing parenthesis. -/
theorem of_itemsUntil_argument {found : List (Option (Name × Value))}
    (read : itemsUntil .closeParen (argument false levels) tokens = some (found, rest))
    (none : found.filterMap id = []) :
    ∃ (names : List Lexeme) (comma : Bool), AreNames names ∧ names ≠ [] ∧
      tokens = names ++ ⟨.punctuator .closeParen, comma⟩ :: rest := by
  induction size : tokens.length using Nat.strongRecOn generalizing tokens found with
  | ind size ih =>
      obtain ⟨first, after, one, ⟨comma, rfl, rfl⟩ | ⟨_, shorter, others, two, rfl⟩⟩ :=
        of_itemsUntil read
      · cases first with
        | some argument => cases none
        | none =>
            obtain ⟨found, nameComma, rfl⟩ := of_argument_eq_none one
            exact ⟨[⟨.name found, nameComma⟩], comma, ⟨[found], rfl⟩, List.cons_ne_nil _ _, rfl⟩
      · cases first with
        | some argument => cases none
        | none =>
            obtain ⟨found, nameComma, rfl⟩ := of_argument_eq_none one
            obtain ⟨names, comma, ⟨others, same⟩, _, rfl⟩ :=
              ih after.length (size ▸ shorter) two none rfl
            refine ⟨⟨.name found, nameComma⟩ :: names, comma, ⟨found :: others, ?_⟩,
              List.cons_ne_nil _ _, rfl⟩
            rw [List.map_cons, List.map_cons, same]

theorem itemsUntil_argument_of_names (levels : Nat) {names : List Lexeme}
    (areNames : AreNames names) (some : names ≠ []) (comma : Bool) (rest : List Lexeme) :
    ∃ found : List (Option (Name × Value)), found.filterMap id = [] ∧
      itemsUntil .closeParen (argument false levels)
        (names ++ ⟨.punctuator .closeParen, comma⟩ :: rest) = .some (found, rest) := by
  obtain ⟨others, same⟩ := areNames
  refine ⟨others.map fun _ => none, by simp, ?_⟩
  refine itemsUntil_append .closeParen (argument false levels) (fun name => [.name name])
    (fun _ => none) others ?_ (fun _ _ => ⟨_, _, rfl⟩) ?_ ?_ comma rest
  · rintro rfl
    exact some (List.map_eq_nil_iff.1 same)
  · intro name _ lexemes rest spelled follows
    obtain ⟨nameComma, rfl⟩ := Lexeme.of_map_token_eq_singleton spelled
    refine argument_bare name nameComma ?_
    rcases follows with closes | ⟨found, another⟩
    · simp [closes]
    · simp [another]
  · rw [same, List.map_eq_flatMap]

/-- The only argument with a value comes first, if the first one has a value. -/
theorem arguments_eq_single_iff {found name : Name} {value : Value}
    {parenComma nameComma colonComma : Bool} :
    arguments false levels
        (⟨.punctuator .openParen, parenComma⟩ :: ⟨.name found, nameComma⟩ ::
          ⟨.punctuator .colon, colonComma⟩ :: tokens) = some ([(name, value)], rest) ↔
      name = found ∧ ∃ (names : List Lexeme) (comma : Bool), AreNames names ∧
        Reading.value false levels tokens =
          some (value, names ++ ⟨.punctuator .closeParen, comma⟩ :: rest) := by
  have argument : argument false levels _ = _ := argument_cons found nameComma colonComma tokens
  rw [arguments, bind_apply, optionalBetween_cons]
  constructor
  · intro read
    obtain ⟨⟨items, _⟩, items, same⟩ := Option.bind_eq_some_iff.1 read
    obtain ⟨first, after, one, last⟩ := of_itemsUntil items
    rw [argument] at one
    obtain ⟨⟨item, _⟩, valued, one⟩ := Option.map_eq_some_iff.1 one
    cases one
    obtain ⟨comma, rfl, rfl⟩ | ⟨_, _, others, two, rfl⟩ := last
    · cases same
      exact ⟨rfl, [], comma, ⟨[], rfl⟩, valued⟩
    · have alone : (some (found, item) :: others).filterMap id = [(name, value)] ∧ _ :=
        Prod.mk.inj (Option.some.inj same)
      obtain ⟨given, rfl⟩ := alone
      obtain ⟨pair, none⟩ := List.cons.inj given
      cases pair
      obtain ⟨names, comma, areNames, _, rfl⟩ := of_itemsUntil_argument two none
      exact ⟨rfl, names, comma, areNames, valued⟩
  · rintro ⟨rfl, names, comma, areNames, read⟩
    rw [read, Option.map_some] at argument
    by_cases none : names = []
    · rw [none] at argument
      rw [itemsUntil_last argument]
      rfl
    · obtain ⟨others, nothing, items⟩ :=
        itemsUntil_argument_of_names levels areNames none comma rest
      rw [itemsUntil_of_item argument, items]
      · have alone : (some (name, value) :: others).filterMap id = [(name, value)] :=
          congrArg ((name, value) :: ·) nothing
        exact congrArg (fun given => some (given, rest)) alone
      · have least := ((isLocal_value false levels).goesOn read).1
        simp only [List.length_cons] at least ⊢
        omega
      · obtain ⟨found, same⟩ := areNames
        cases found with
        | nil => exact absurd (List.map_eq_nil_iff.1 same) none
        | cons found _ =>
            rw [Lexeme.next_append same]
            simp

/-! ## A field and what is behind its arguments -/

/-- Behind the arguments of a field there are directives, perhaps selections, and the last
brace. -/
def Closes (levels : Nat) (applied : List Directive) (inside : List Selection)
    (lexemes : List Lexeme) : Prop :=
  ∃ (behind : List Lexeme) (comma : Bool),
    directives false levels lexemes = some (applied, behind) ∧
      (behind = [⟨.punctuator .closeBrace, comma⟩] ∧ inside = [] ∨
        next behind = some (.punctuator .openBrace) ∧
          selectionSet levels behind = some (inside, [⟨.punctuator .closeBrace, comma⟩]))

/-- A field with arguments is read with what is behind them. -/
theorem selection_openParen (field : Name) (fieldComma parenComma : Bool) :
    selection levels (⟨.name field, fieldComma⟩ :: ⟨.punctuator .openParen, parenComma⟩ :: tokens) =
      (arguments false levels (⟨.punctuator .openParen, parenComma⟩ :: tokens)).bind
        fun (given, after) => (directives false levels after).bind fun (applied, behind) =>
          if next behind = some (.punctuator .openBrace) then
            (selectionSet levels behind).map fun (inside, last) =>
              (.field none field given applied inside, last)
          else some (.field none field given applied [], behind) := by
  rw [selection]
  · simp only [Option.bind_eq_bind, Option.bind_some]
    cases first : arguments false levels (⟨.punctuator .openParen, parenComma⟩ :: tokens) with
    | none => rfl
    | some read =>
        obtain ⟨given, after⟩ := read
        simp only [Option.bind_some]
        cases second : directives false levels after with
        | none => rfl
        | some read =>
            obtain ⟨applied, behind⟩ := read
            have less := ((isLocal_arguments false levels).goesOn first).1
            have least := ((isLocal_directives false levels).goesOn second).1
            simp only [Option.bind_some]
            rw [if_pos (Nat.le_trans least less)]
            split
            next comma inside =>
                rw [if_pos (Lexeme.next_cons _ _)]
                cases selectionSet levels (⟨.punctuator .openBrace, comma⟩ :: inside) <;> rfl
            next noBrace =>
                rw [if_neg fun begins => ?_]
                obtain ⟨comma, inside, rfl⟩ := Lexeme.of_next_eq begins
                exact noBrace comma inside rfl
  · rintro _ _ _ same
    cases same
  · rintro _ same
    cases same

theorem selections_ne_nil {found : List Selection}
    (read : selections levels tokens = some (found, rest)) : found ≠ [] := by
  rintro rfl
  rw [selections] at read
  obtain ⟨⟨first, after⟩, _, read⟩ := Option.bind_eq_some_iff.1 read
  dsimp only at read
  split at read
  next =>
      split at read
      next => cases read
      next =>
          obtain ⟨_, _, read⟩ := Option.bind_eq_some_iff.1 read
          cases read
  next => cases read

/-- The only selection stands in front of the closing brace. -/
theorem of_selections_single {found : Selection}
    (read : selections levels tokens = some ([found], rest)) :
    ∃ comma : Bool,
      selection levels tokens = some (found, ⟨.punctuator .closeBrace, comma⟩ :: rest) := by
  rw [selections] at read
  obtain ⟨⟨first, after⟩, one, read⟩ := Option.bind_eq_some_iff.1 read
  dsimp only at read
  split at read
  next =>
      split at read
      next =>
          cases read
          exact ⟨_, one⟩
      next =>
          obtain ⟨⟨others, _⟩, two, read⟩ := Option.bind_eq_some_iff.1 read
          cases read
          exact absurd rfl (selections_ne_nil two)
  next => cases read

theorem selections_single {found : Selection} {comma : Bool}
    (read : selection levels tokens = some (found, ⟨.punctuator .closeBrace, comma⟩ :: rest))
    (shorter : rest.length + 1 < tokens.length) :
    selections levels tokens = some ([found], rest) := by
  rw [selections, read]
  simp [shorter]

/-- Selections between braces are an operation. -/
theorem definition_openBrace (comma : Bool) (tokens : List Lexeme) :
    definition (⟨.punctuator .openBrace, comma⟩ :: tokens) =
      (selections 499 tokens).map fun (selected, rest) =>
        (.operation { selections := selected }, rest) := by
  have noString : string? (⟨.punctuator .openBrace, comma⟩ :: tokens) =
      some (none, ⟨.punctuator .openBrace, comma⟩ :: tokens) := rfl
  have inside : selectionSet nestingLimit
      (⟨.punctuator .openBrace, comma⟩ :: tokens) = selections 499 tokens := by
    rw [nestingLimit, selectionSet]
  rw [definition, bind_of_eq noString]
  dsimp only
  rw [bind_of_eq (isNext_of_next_eq rfl), if_pos rfl, bind_apply, inside]
  cases selections 499 tokens <;> rfl

theorem definitions_ne_nil : definitions tokens ≠ some [] := by
  intro read
  rw [definitions] at read
  obtain ⟨⟨first, after⟩, _, read⟩ := Option.bind_eq_some_iff.1 read
  dsimp only at read
  split at read
  next => cases read
  next =>
      split at read
      next =>
          obtain ⟨_, _, read⟩ := Option.bind_eq_some_iff.1 read
          cases read
      next => cases read

/-- The only definition takes all lexemes. -/
theorem of_definitions_single {found : Definition} (read : definitions tokens = some [found]) :
    definition tokens = some (found, []) := by
  rw [definitions] at read
  obtain ⟨⟨first, after⟩, one, read⟩ := Option.bind_eq_some_iff.1 read
  dsimp only at read
  split at read
  next none =>
      cases read
      rwa [List.isEmpty_iff.1 none] at one
  next =>
      split at read
      next =>
          obtain ⟨others, two, read⟩ := Option.bind_eq_some_iff.1 read
          cases read
          exact absurd two definitions_ne_nil
      next => cases read

end Reading

namespace Document

open Reading (Closes)

/-- The one argument of a document stands in the one field of its one operation. -/
theorem of_onlyArgument? {document : Document} {value : Value}
    (only : document.onlyArgument? = some value) :
    ∃ (operation : Operation) (key : Option Name) (field name : Name)
      (applied : List Directive) (inside : List Selection),
      document = [.operation operation] ∧
        operation.selections = [.field key field [(name, value)] applied inside] := by
  unfold onlyArgument? at only
  split at only
  next =>
      cases only
      exact ⟨_, _, _, _, _, _, rfl, rfl⟩
  next => cases only

/-- A field with arguments in braces is the one query of a document, and its one argument has a
value, exactly when that is the argument and the field is closed behind it. -/
theorem onlyArgument?_definitions_iff {field : Name} {braceComma fieldComma parenComma : Bool}
    {tokens : List Lexeme} {value : Value} :
    Reading.definitions
          (⟨.punctuator .openBrace, braceComma⟩ :: ⟨.name field, fieldComma⟩ ::
            ⟨.punctuator .openParen, parenComma⟩ :: tokens) >>= onlyArgument? = some value ↔
      ∃ (name : Name) (after : List Lexeme) (applied : List Directive) (inside : List Selection),
        Reading.arguments false 499 (⟨.punctuator .openParen, parenComma⟩ :: tokens) =
            some ([(name, value)], after) ∧
          Closes 499 applied inside after := by
  constructor
  · intro read
    obtain ⟨document, read, only⟩ := Option.bind_eq_some_iff.1 read
    obtain ⟨operation, key, _, name, applied, inside, rfl, selected⟩ := of_onlyArgument? only
    have whole := Reading.of_definitions_single read
    rw [Reading.definition_openBrace] at whole
    obtain ⟨⟨selections, _⟩, selects, same⟩ := Option.map_eq_some_iff.1 whole
    cases same
    cases selected
    obtain ⟨comma, selection⟩ := Reading.of_selections_single selects
    rw [Reading.selection_openParen] at selection
    obtain ⟨⟨given, after⟩, argued, selection⟩ := Option.bind_eq_some_iff.1 selection
    obtain ⟨⟨directives, behind⟩, directed, selection⟩ := Option.bind_eq_some_iff.1 selection
    dsimp only at selection
    refine ⟨name, after, applied, inside, ?_⟩
    split at selection
    next brace =>
        obtain ⟨⟨selected, _⟩, braced, same⟩ := Option.map_eq_some_iff.1 selection
        cases same
        exact ⟨argued, behind, comma, directed, Or.inr ⟨brace, braced⟩⟩
    next =>
        cases selection
        exact ⟨argued, _, comma, directed, Or.inl ⟨rfl, rfl⟩⟩
  · rintro ⟨name, after, applied, inside, argued, behind, comma, directed, closes⟩
    have selection : Reading.selection 499
        (⟨.name field, fieldComma⟩ :: ⟨.punctuator .openParen, parenComma⟩ :: tokens) =
        some (.field none field [(name, value)] applied inside,
          [⟨.punctuator .closeBrace, comma⟩]) := by
      rw [Reading.selection_openParen, argued, Option.bind_some]
      dsimp only
      rw [directed, Option.bind_some]
      dsimp only
      rcases closes with ⟨rfl, rfl⟩ | ⟨brace, braced⟩
      · rw [if_neg (by simp)]
      · rw [if_pos brace, braced]
        rfl
    have selections := Reading.selections_single selection (by simp)
    rw [Reading.definitions, Reading.definition_openBrace, selections]
    rfl

end Document

end Subgraph
