import Subgraph.Proofs.Federated.Declaration
import Subgraph.Proofs.Federated.LineWriter

/-!
# The text of a federated schema

The lines of a declaration make one text, and the whole text has that of each
declaration with line feeds between them.

* `Declaration.intercalate_lines` is the text of a declaration.
* `Sdl.render_eq_intercalate` and `Sdl.render_toList` are the whole text.
* `Declaration.spells` says that the text behind the word of a declaration is
  written as its tokens.
-/

namespace Subgraph

open Token (Spells ends_cons ends_nil)

/-! ## Texts of declarations -/

/-- Lines between braces, two spaces deep. -/
def bracedText {α : Type} (line : α → String) (items : List α) : String :=
  " \x7b" ++ String.join (items.map fun item => "\n  " ++ line item) ++ "\n\x7d"

/-- Lines between braces stand behind the line that opens them. -/
theorem intercalate_bracedLines {α : Type} (header : String) (line : α → String)
    (items : List α) :
    "\n".intercalate (bracedLines header (items.map line)) = header ++ bracedText line items := by
  have deep (text : String) : "\n" ++ ("  " ++ text) = "\n  " ++ text :=
    String.append_assoc.symm
  rw [bracedLines, Text.intercalate_cons, bracedText]
  simp [String.append_assoc, Function.comp_def, deep]

namespace DeclarationBody

/-- The text of a body. -/
def text (options : TypeOptions) : DeclarationBody → String
  | object fields => bracedText (fun field => field.text ++ options.fieldText field.name) fields
  | input fields => bracedText (fun field => field.text ++ options.fieldText field.name) fields
  | scalar => ""
  | enum values => bracedText Name.text values
  | union members =>
      " =" ++
        if members.isEmpty then "" else "\n" ++ " | ".intercalate (members.map Name.text)

end DeclarationBody

namespace Declaration

/-- The text behind the word of a declaration. -/
def textBehind (declaration : Declaration) (options : TypeOptions) : String :=
  " " ++ (declaration.name.text ++
    (String.join (declaration.directives.map fun directive => " " ++ directive.text) ++
      (optionText options.directives ++ declaration.body.text options)))

/-- The text of a declaration. -/
def text (declaration : Declaration) (options : TypeOptions) : String :=
  (if options.extend = some true then "extend " else "") ++
    (declaration.body.keyword ++ declaration.textBehind options)

theorem header_append (declaration : Declaration) (options : TypeOptions) :
    declaration.header options ++ declaration.body.text options = declaration.text options := by
  simp only [header, text, textBehind, String.append_assoc]

/-- The text of a declaration has its lines, with line feeds between them. -/
theorem intercalate_lines (declaration : Declaration) (options : TypeOptions) :
    "\n".intercalate (declaration.lines options) = declaration.text options := by
  rw [← header_append, lines]
  cases body : declaration.body with
  | object fields => exact intercalate_bracedLines _ _ fields
  | input fields => exact intercalate_bracedLines _ _ fields
  | scalar => simp [DeclarationBody.text]
  | enum values => exact intercalate_bracedLines _ _ values
  | union members =>
      rw [Text.intercalate_cons, DeclarationBody.text, String.append_assoc]
      cases members <;> simp

end Declaration

/-! ## The whole text -/

namespace Sdl

/-- The text of declarations has that of each, with line feeds between them. -/
theorem render_eq_intercalate (declarations : List Declaration)
    (types : OrderedMap String TypeOptions) :
    render declarations types =
      "\n".intercalate (declarations.map fun declaration =>
        declaration.text (optionsOf types declaration)) := by
  rw [render_eq_text, written_eq, lines,
    Text.intercalate_flatMap fun declaration => declaration.lines_ne_nil _]
  simp only [Declaration.intercalate_lines]

/-- With one more line feed in front, there is one in front of each declaration. -/
theorem render_toList (types : OrderedMap String TypeOptions) {declarations : List Declaration}
    (nonempty : declarations ≠ []) :
    '\n' :: (render declarations types).toList =
      declarations.flatMap fun declaration =>
        '\n' :: (declaration.text (optionsOf types declaration)).toList := by
  cases declarations with
  | nil => exact absurd rfl nonempty
  | cons declaration declarations =>
      rw [render_eq_intercalate, List.map_cons, Text.intercalate_cons]
      simp [String.toList_join, List.flatMap_map]

end Sdl

/-! ## Tokens of declarations -/

namespace Directive

/-- Directives with a space in front of each are written as their tokens. -/
theorem spellsAll (directives : List Directive) :
    Spells (String.join (directives.map fun directive => " " ++ directive.text)).toList
        (directives.flatMap tokens) ∧
      Token.Ends
        (String.join (directives.map fun directive => " " ++ directive.text)).toList := by
  induction directives with
  | nil => exact ⟨Spells.nil, ends_nil⟩
  | cons directive directives ih =>
      obtain ⟨spells, ends⟩ := ih
      rw [List.map_cons, String.join_cons, String.toList_append, String.toList_append]
      exact ⟨Spells.ignored rfl (directive.spells.append spells ends),
        (ends_cons _ _).2 (by decide)⟩

end Directive

/-- Lines are written as the tokens of their items, with those of the braces. -/
theorem spells_bracedText {α : Type} {line : α → String} {spell : α → List Token}
    (items : List α) (each : ∀ item, Spells (line item).toList (spell item)) :
    Spells (bracedText line items).toList (bracedTokens (items.flatMap spell)) := by
  have lines : Spells
      ((String.join (items.map fun item => "\n  " ++ line item)).toList ++ "\n\x7d".toList)
      (items.flatMap spell ++ [.punctuator .closeBrace]) ∧
      Token.Ends
        ((String.join (items.map fun item => "\n  " ++ line item)).toList ++ "\n\x7d".toList) := by
    induction items with
    | nil =>
        exact ⟨Spells.ignored rfl (Spells.punctuator rfl Spells.nil),
          (ends_cons _ _).2 (by decide)⟩
    | cons item items ih =>
        obtain ⟨spells, ends⟩ := ih
        rw [List.map_cons, String.join_cons, String.toList_append, String.toList_append,
          List.flatMap_cons, List.append_assoc, List.append_assoc, List.append_assoc]
        exact ⟨Spells.ignored rfl (Spells.ignored rfl (Spells.ignored rfl
          ((each item).append spells ends))), (ends_cons _ _).2 (by decide)⟩
  rw [bracedText, String.toList_append, String.toList_append, List.append_assoc]
  exact Spells.ignored rfl (Spells.punctuator rfl lines.1)

theorem ends_bracedText {α : Type} (line : α → String) (items : List α) :
    Token.Ends (bracedText line items).toList := by
  rw [bracedText, String.toList_append, String.toList_append, List.append_assoc]
  exact (ends_cons _ _).2 (by decide)

/-- Names with pipes between them are written as their tokens. -/
theorem spells_members (members : List Name) :
    Spells (" | ".intercalate (members.map Name.text)).toList (memberTokens members) := by
  induction members with
  | nil => exact Spells.nil
  | cons first members ih =>
      cases members with
      | nil => exact first.spells
      | cons second members =>
          rw [List.map_cons, List.map_cons, String.intercalate_cons_cons, String.toList_append,
            String.toList_append, List.append_assoc]
          exact first.spells.append
            (Spells.ignored rfl (Spells.punctuator rfl (Spells.ignored rfl ih)))
            ((ends_cons _ _).2 (by decide))

namespace DeclarationBody

/-- A body is written as its tokens, behind something that it ends. -/
theorem spells {body : DeclarationBody} {options : TypeOptions} (hasMembers : body.HasMembers)
    (listed : options.IsListed) :
    Spells (body.text options).toList (body.tokens options) ∧
      Token.Ends (body.text options).toList := by
  cases body with
  | object fields =>
      refine ⟨spells_bracedText fields fun field => ?_, ends_bracedText _ fields⟩
      rw [String.toList_append]
      exact field.spells.append (optionText_spells (listed.givenTo field.name))
        (ends_optionText _)
  | input fields =>
      refine ⟨spells_bracedText fields fun field => ?_, ends_bracedText _ fields⟩
      rw [String.toList_append]
      exact field.spells.append (optionText_spells (listed.givenTo field.name))
        (ends_optionText _)
  | scalar => exact ⟨Spells.nil, ends_nil⟩
  | enum values => exact ⟨spells_bracedText values Name.spells, ends_bracedText _ values⟩
  | union members =>
      have some : members.isEmpty = false := by
        cases members with
        | nil => exact absurd rfl hasMembers
        | cons => rfl
      rw [text, some, if_neg (by simp), String.toList_append, String.toList_append]
      exact ⟨Spells.ignored rfl (Spells.punctuator rfl (Spells.ignored rfl
        (spells_members members))), (ends_cons _ _).2 (by decide)⟩

end DeclarationBody

namespace Declaration

/-- What stands behind the word of a declaration is written as its tokens. -/
theorem spells {declaration : Declaration} {options : TypeOptions}
    (hasMembers : declaration.body.HasMembers) (listed : options.IsListed) :
    Spells (declaration.textBehind options).toList (declaration.tokens options) := by
  obtain ⟨directed, endsDirected⟩ := Directive.spellsAll declaration.directives
  obtain ⟨inside, endsInside⟩ := DeclarationBody.spells hasMembers listed
  have given := (optionText_spells listed.type).append inside endsInside
  have endsGiven := (ends_optionText options.directives).append endsInside
  rw [textBehind, tokens, directiveTokens, List.append_assoc]
  simp only [String.toList_append]
  exact Spells.ignored rfl (declaration.name.spells.append
    (directed.append given endsGiven) (endsDirected.append endsGiven))

end Declaration

end Subgraph
