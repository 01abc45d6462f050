import Subgraph.Proofs.Federated.Fields
import Subgraph.Proofs.Language.Comment
import Subgraph.Proofs.Language.Locality

/-!
# Directives in options

Options give directives as a text, which stands in the federated schema as it
is, without the blanks around it.

* `Directive.listOf?` are the directives of a text without comments.
* `optionText_spells` and `lists_optionTokens` say what such a text becomes: the
  tokens of those directives, wherever they stand.
-/

namespace Subgraph

open Lexeme (next)

namespace Directive

/-- The directives that a text lists, if it has no comment and nothing else in it. -/
def listOf? (text : String) : Option (List Directive) :=
  let trimmed := (Text.trim text).toList
  if Token.isCommentFree trimmed then
    match (Token.lexemes? false trimmed).bind Reading.constantDirectives with
    | some (applied, []) => some applied
    | _ => none
  else none

/-- What a list of directives is read from. -/
theorem of_listOf? {text : String} {applied : List Directive}
    (read : listOf? text = some applied) :
    Token.isCommentFree (Text.trim text).toList = true ∧
      ∃ lexemes, Token.lexemes? false (Text.trim text).toList = some lexemes ∧
        Reading.constantDirectives lexemes = some (applied, []) := by
  unfold listOf? at read
  dsimp only at read
  split at read
  next free =>
      refine ⟨free, ?_⟩
      split at read
      next found same =>
          cases read
          exact Option.bind_eq_some_iff.1 same
      next => cases read
  next => cases read

example : (listOf? " @key(fields: \"id\") @shareable\n").map (·.map (·.name.text)) =
    some ["key", "shareable"] := by
  decide +kernel
example : (listOf? "@key # of the type").isNone = true := by decide +kernel

end Directive

/-- Whether a text in options, if there is one, lists directives. -/
def ListsDirectives (given : Option String) : Prop :=
  ∀ text ∈ given, (Directive.listOf? text).isSome = true

instance (given : Option String) : Decidable (ListsDirectives given) :=
  inferInstanceAs (Decidable (∀ text ∈ given, (Directive.listOf? text).isSome = true))

/-- The directives of a text in options. -/
def optionDirectives (given : Option String) : List Directive :=
  (given.bind Directive.listOf?).getD []

/-- The tokens of a text in options. -/
def optionTokens (given : Option String) : List Token :=
  ((Token.ofText? (optionText given)).getD []).map Lexeme.token

@[simp] theorem optionTokens_none : optionTokens none = [] := by
  rw [optionTokens, Token.ofText?, show (optionText none).toList = [] from rfl, Token.lexemes?_nil]
  rfl

/-- A text in options has the tokens of the text without the blanks around it. -/
theorem ofText?_optionText (text : String) :
    Token.ofText? (optionText (some text)) =
      Token.lexemes? false (Text.trim text).toList := by
  rw [Token.ofText?, optionText]
  split
  next none =>
      rw [String.isEmpty_iff.1 none]
  next =>
      rw [String.toList_append]
      exact Token.lexemes?_ignored (c := ' ') rfl false _

namespace Reading

variable {lexemes : List Lexeme} {applied : List Directive}

/-- Directives that are read up to the end can be read in front of anything else. -/
theorem lists_of_constantDirectives (read : constantDirectives lexemes = some (applied, [])) :
    Lists (lexemes.map Lexeme.token) applied where
  begins := by
    intro token member
    cases lexemes with
    | nil => cases member
    | cons lexeme behind =>
        cases member
        rcases of_afterSeparators read with ⟨_, _, none⟩ | ⟨_, _, _, _, _, same, _⟩
        · cases none
        · cases same
          rfl
  reads := by
    intro others rest same noSign noParen
    exact (isLocal_directives true nestingLimit).append read same ⟨noSign, noParen⟩

end Reading

section

variable {given : Option String}

/-- A text in options begins with a space, if it is there. -/
theorem ends_optionText (given : Option String) : Token.Ends (optionText given).toList := by
  cases given with
  | none => exact Token.ends_nil
  | some text =>
      rw [optionText]
      split
      next => exact Token.ends_nil
      next =>
          rw [String.toList_append]
          exact (Token.ends_cons _ _).2 (by decide)

/-- A text that lists directives is written as its tokens. -/
theorem optionText_spells (listed : ListsDirectives given) :
    Token.Spells (optionText given).toList (optionTokens given) := by
  cases given with
  | none =>
      rw [optionTokens_none]
      exact Token.Spells.nil
  | some text =>
      obtain ⟨applied, read⟩ := Option.isSome_iff_exists.1 (listed text rfl)
      obtain ⟨free, lexemes, lexed, _⟩ := Directive.of_listOf? read
      have spells := Token.Spells.of_isCommentFree free lexed
      rw [optionTokens, ofText?_optionText, lexed, Option.getD_some, optionText]
      split
      next none =>
          rwa [String.isEmpty_iff.1 none] at spells
      next =>
          rw [String.toList_append]
          exact Token.Spells.ignored rfl spells

/-- The tokens of a text that lists directives are read as those directives. -/
theorem lists_optionTokens (listed : ListsDirectives given) :
    Reading.Lists (optionTokens given) (optionDirectives given) := by
  cases given with
  | none =>
      rw [optionTokens_none]
      exact Reading.Lists.nil
  | some text =>
      obtain ⟨applied, read⟩ := Option.isSome_iff_exists.1 (listed text rfl)
      obtain ⟨_, lexemes, lexed, directed⟩ := Directive.of_listOf? read
      have found : optionDirectives (some text) = applied := by
        simp [optionDirectives, read]
      rw [optionTokens, ofText?_optionText, lexed, Option.getD_some, found]
      exact Reading.lists_of_constantDirectives directed

end

end Subgraph
