import Subgraph.Federated.Sdl
import Subgraph.Proofs.Language.Token

/-!
# Texts on one line

Names, numerals, strings, values, directives and the references to types are
written without a line feed, whatever is in them.  A line feed in a string is
escaped.

* `Text.IsOneLine` says so of a text, and is kept when texts are put together.
* `Value.isOneLine_text`, `TypeReference.isOneLine_text` and
  `Directive.isOneLine_text` are about what documents are made of.
* `FieldDeclaration.isOneLine_text` and `InputDeclaration.isOneLine_text` are
  about the fields of federated schemas.
-/

namespace Subgraph

namespace Text

/-- A text without a line feed. -/
def IsOneLine (text : String) : Prop := '\n' ∉ text.toList

instance (text : String) : Decidable (IsOneLine text) := inferInstanceAs (Decidable (¬ _))

@[simp] theorem isOneLine_append (first second : String) :
    IsOneLine (first ++ second) ↔ IsOneLine first ∧ IsOneLine second := by
  simp [IsOneLine]

theorem isOneLine_join {texts : List String} (each : ∀ text ∈ texts, IsOneLine text) :
    IsOneLine (String.join texts) := by
  rw [IsOneLine, String.toList_join, List.mem_flatMap]
  rintro ⟨text, member, inside⟩
  exact each text member inside

theorem isOneLine_intercalate {separator : String} (between : IsOneLine separator)
    {texts : List String} (each : ∀ text ∈ texts, IsOneLine text) :
    IsOneLine (separator.intercalate texts) := by
  induction texts with
  | nil => simp [IsOneLine]
  | cons text texts ih =>
      have others := ih fun other member => each other (List.mem_cons_of_mem _ member)
      cases texts with
      | nil => simpa using each text List.mem_cons_self
      | cons next texts =>
          rw [String.intercalate_cons_cons, isOneLine_append, isOneLine_append]
          exact ⟨⟨each text List.mem_cons_self, between⟩, others⟩

/-- Texts with commas between them, inside marks. -/
theorem isOneLine_enclosed {opening closing : String} (opens : IsOneLine opening)
    (closes : IsOneLine closing) {texts : List String} (each : ∀ text ∈ texts, IsOneLine text) :
    IsOneLine (opening ++ ", ".intercalate texts ++ closing) := by
  rw [isOneLine_append, isOneLine_append]
  exact ⟨⟨opens, isOneLine_intercalate (by decide) each⟩, closes⟩

end Text

open Text (IsOneLine isOneLine_append isOneLine_enclosed)

/-! ## Words -/

theorem Name.isOneLine_text (name : Name) : IsOneLine name.text := by
  intro inside
  have continues := List.all_eq_true.1 name.all_isContinue _ inside
  exact absurd continues (by decide)

theorem Token.not_mem_of_isRun {sign : Bool} {cs : List Char} (run : isRun sign cs = true) :
    '\n' ∉ cs := by
  induction cs generalizing sign with
  | nil => exact List.not_mem_nil
  | cons c cs ih =>
      obtain ⟨first, others⟩ := Bool.and_eq_true_iff.1 run
      refine List.not_mem_cons_of_ne_of_not_mem ?_ (ih others)
      rintro rfl
      revert first
      cases sign <;> decide

theorem IntLiteral.isOneLine_text (literal : IntLiteral) : IsOneLine literal.text :=
  Token.not_mem_of_isRun (Token.isRun_of_isInt literal.valid)

theorem FloatLiteral.isOneLine_text (literal : FloatLiteral) : IsOneLine literal.text :=
  Token.not_mem_of_isRun (Token.isRun_of_isFloat literal.valid)

/-- The digits of an escaped control are no line feeds. -/
theorem not_mem_fourUpperHexDigits : ∀ n < 0x20, '\n' ∉ fourUpperHexDigits n := by
  decide +kernel

theorem not_mem_quotedStringChar (c : Char) : '\n' ∉ quotedStringChar c := by
  unfold quotedStringChar
  split
  case h_8 noFeed _ _ =>
      split
      next control =>
          have digits := not_mem_fourUpperHexDigits c.toNat control
          simp [digits]
      next => simpa using Ne.symm noFeed
  all_goals decide

theorem isOneLine_quotedString (s : String) : IsOneLine (quotedString s) := by
  have inside : '\n' ∉ s.toList.flatMap quotedStringChar := by
    rw [List.mem_flatMap]
    rintro ⟨c, _, member⟩
    exact not_mem_quotedStringChar c member
  simp [IsOneLine, quotedString, inside]

/-! ## Values, references and directives -/

namespace Value

mutual

/-- A value is written on one line. -/
theorem isOneLine_text : (value : Value) → IsOneLine value.text
  | .null => by decide
  | .boolean true => by decide
  | .boolean false => by decide
  | .int literal => literal.isOneLine_text
  | .float literal => literal.isOneLine_text
  | .string s => isOneLine_quotedString s
  | .enumerated name => name.isOneLine_text
  | .variable name => (isOneLine_append _ _).2 ⟨by decide, name.isOneLine_text⟩
  | .list items => isOneLine_enclosed (by decide) (by decide) (isOneLine_textAll items)
  | .object fields => isOneLine_enclosed (by decide) (by decide) (isOneLine_textIn fields)

theorem isOneLine_textAll : (items : List Value) → ∀ text ∈ textAll items, IsOneLine text
  | [] => by simp [textAll]
  | item :: rest => by
      rw [textAll, List.forall_mem_cons]
      exact ⟨item.isOneLine_text, isOneLine_textAll rest⟩

theorem isOneLine_textIn : (fields : List (Name × Value)) →
    ∀ text ∈ textIn fields, IsOneLine text
  | [] => by simp [textIn]
  | (name, value) :: rest => by
      rw [textIn, List.forall_mem_cons, isOneLine_append, isOneLine_append]
      exact ⟨⟨⟨name.isOneLine_text, by decide⟩, value.isOneLine_text⟩, isOneLine_textIn rest⟩

end

end Value

namespace TypeReference

theorem isOneLine_mark (isNonNull : Bool) : IsOneLine (mark isNonNull) := by
  cases isNonNull <;> decide

/-- A reference is written on one line. -/
theorem isOneLine_text (reference : TypeReference) : IsOneLine reference.text := by
  induction reference with
  | named name isNonNull =>
      rw [text, isOneLine_append]
      exact ⟨name.isOneLine_text, isOneLine_mark isNonNull⟩
  | list item isNonNull ih =>
      rw [text, isOneLine_append, isOneLine_append, isOneLine_append]
      exact ⟨⟨⟨by decide, ih⟩, by decide⟩, isOneLine_mark isNonNull⟩

end TypeReference

/-- A directive is written on one line. -/
theorem Directive.isOneLine_text (directive : Directive) : IsOneLine directive.text := by
  rw [text, isOneLine_append, isOneLine_append]
  refine ⟨⟨by decide, directive.name.isOneLine_text⟩, ?_⟩
  split
  next => decide
  next =>
      exact isOneLine_enclosed (by decide) (by decide) (Value.isOneLine_textIn directive.arguments)

/-! ## Fields -/

theorem isOneLine_defaultText (defaultValue : Option Value) :
    IsOneLine (defaultText defaultValue) := by
  cases defaultValue with
  | none => decide
  | some value => exact (isOneLine_append _ _).2 ⟨by decide, value.isOneLine_text⟩

/-- An argument or an input field is written on one line. -/
theorem InputDeclaration.isOneLine_text (input : InputDeclaration) : IsOneLine input.text := by
  rw [text, isOneLine_append, isOneLine_append, isOneLine_append]
  exact ⟨⟨⟨input.name.isOneLine_text, by decide⟩, input.type.isOneLine_text⟩,
    isOneLine_defaultText input.defaultValue⟩

/-- A field is written on one line. -/
theorem FieldDeclaration.isOneLine_text (field : FieldDeclaration) : IsOneLine field.text := by
  rw [text, isOneLine_append, isOneLine_append, isOneLine_append]
  refine ⟨⟨⟨field.name.isOneLine_text, ?_⟩, by decide⟩, field.type.isOneLine_text⟩
  split
  next => decide
  next =>
      exact isOneLine_enclosed (by decide) (by decide)
        (List.forall_mem_map.2 fun input _ => input.isOneLine_text)

end Subgraph
