import Mathlib.Data.List.Basic
import Subgraph.Proofs.Federated.Declaration
import Subgraph.Proofs.Federated.LineWriter
import Subgraph.Proofs.Language.OneLine

/-!
# The lines of a federated schema

Where the lines of a federated text begin and end, and when they are the lines
that a reader of the text sees.

* `DeclarationBody.columns` are the columns at which the lines of a declaration
  begin, and `Declaration.map_column_lines` says so.
* No line begins or ends with a line feed (`Declaration.isTight_lines`), so the
  text does not either.
* `Sdl.written_lines` says that writing declarations comes to putting their lines
  together, which tells the writer after any of them, both ends of the text, and
  the text of declarations behind others.
* `Sdl.splitOn_render_iff` says that the text falls into the same lines at its
  line feeds, unless directives of the options have a line feed inside.
-/

namespace Subgraph

/-! ## Columns and ends -/

namespace Text

/-- The column at which a line begins: the number of spaces in front. -/
def column (line : String) : Nat := (line.toList.takeWhile (· = ' ')).length

/-- A text that begins as a name does. -/
def BeginsName (text : String) : Prop := ∃ c ∈ text.toList.head?, Name.isStart c = true

/-- A text with a line feed at neither end. -/
def IsTight (text : String) : Prop :=
  text.toList.head? ≠ some '\n' ∧ text.toList.getLast? ≠ some '\n'

theorem BeginsName.append {text : String} (begins : BeginsName text) (rest : String) :
    BeginsName (text ++ rest) := by
  obtain ⟨c, first, start⟩ := begins
  refine ⟨c, ?_, start⟩
  rw [String.toList_append, List.head?_append, Option.mem_def.1 first]
  rfl

theorem BeginsName.ne_empty {text : String} (begins : BeginsName text) : text ≠ "" := by
  rintro rfl
  obtain ⟨_, none, _⟩ := begins
  cases none

/-- A text that begins as a name does stands where the spaces in front of it end. -/
theorem BeginsName.column_append {text : String} (begins : BeginsName text) (spaces : Nat) :
    column (String.ofList (List.replicate spaces ' ') ++ text) = spaces := by
  obtain ⟨c, first, start⟩ := begins
  obtain ⟨rest, same⟩ := List.head?_eq_some_iff.1 first
  have noSpace : c ≠ ' ' := by
    rintro rfl
    exact absurd start (by decide)
  rw [column, String.toList_append, String.toList_ofList, same,
    List.takeWhile_append_of_pos (by simp), List.takeWhile_cons_of_neg (by simpa using noSpace)]
  simp

theorem BeginsName.column_eq_zero {text : String} (begins : BeginsName text) :
    column text = 0 := by
  have zero := begins.column_append 0
  rwa [List.replicate_zero, String.ofList_nil, String.empty_append] at zero

theorem IsOneLine.isTight {text : String} (oneLine : IsOneLine text) : IsTight text :=
  ⟨fun first => oneLine (List.mem_of_head? first), fun last => oneLine (List.mem_of_getLast? last)⟩

theorem IsTight.append {first second : String} (one : IsTight first) (other : IsTight second) :
    IsTight (first ++ second) := by
  rw [IsTight, String.toList_append, List.head?_append, List.getLast?_append, ne_eq,
    Option.or_eq_some_iff, ne_eq, Option.or_eq_some_iff]
  exact ⟨fun begins => begins.elim one.1 fun behind => other.1 behind.2,
    fun ends => ends.elim other.2 fun before => one.2 before.2⟩

/-- What is trimmed does not end with a line feed. -/
theorem getLast?_trim_ne (text : String) : (trim text).toList.getLast? ≠ some '\n' := by
  rw [trim, String.toList_ofList, List.getLast?_reverse, trimLeft]
  intro first
  have noBlank := List.head?_dropWhile_not isBlank (trimLeft text.toList).reverse
  rw [first] at noBlank
  exact absurd noBlank (by decide)

/-- Lines that are not empty keep their ends when they are put together. -/
theorem isTight_intercalate {lines : List String}
    (each : ∀ line ∈ lines, line ≠ "" ∧ IsTight line) : IsTight ("\n".intercalate lines) := by
  -- An empty line at an end would leave the line feed beside it there.
  constructor
  · cases lines with
    | nil => decide
    | cons first rest =>
        obtain ⟨nonempty, tight⟩ := each first List.mem_cons_self
        rw [intercalate_cons, String.toList_append,
          List.head?_append_of_ne_nil _ (by simpa using nonempty)]
        exact tight.1
  · rcases List.eq_nil_or_concat lines with rfl | ⟨front, last, rfl⟩
    · decide
    · obtain ⟨nonempty, tight⟩ := each last (by simp)
      rw [List.concat_eq_append, intercalate_concat, String.toList_append,
        List.getLast?_append_of_ne_nil _ (by simpa using nonempty)]
      exact tight.2

/-- What is split at line feeds has none inside. -/
theorem not_mem_of_mem_splitOn {cs line : List Char} (member : line ∈ cs.splitOn '\n') :
    '\n' ∉ line := by
  induction cs generalizing line with
  | nil =>
      rw [List.splitOn_nil, List.mem_singleton] at member
      rw [member]
      exact List.not_mem_nil
  | cons c cs ih =>
      rw [List.splitOn_cons_eq_if_modifyHead] at member
      split at member
      next =>
          rcases List.mem_cons.1 member with rfl | behind
          · exact List.not_mem_nil
          · exact ih behind
      next other =>
          obtain ⟨first, rest, split⟩ := List.exists_cons_of_ne_nil (List.splitOn_ne_nil '\n' cs)
          rw [split, List.modifyHead_cons] at member
          rcases List.mem_cons.1 member with rfl | behind
          · refine List.not_mem_cons_of_ne_of_not_mem ?_ (ih (split ▸ List.mem_cons_self))
            exact fun same => other (beq_iff_eq.2 same.symm)
          · exact ih (split ▸ List.mem_cons_of_mem _ behind)

end Text

open Text (IsOneLine IsTight BeginsName column isOneLine_append)

theorem isTight_optionText (given : Option String) : IsTight (optionText given) := by
  cases given with
  | none => exact IsOneLine.isTight (by decide)
  | some text =>
      rw [optionText]
      split
      next => exact IsOneLine.isTight (by decide)
      next nonempty =>
          rw [IsTight, String.toList_append,
            List.getLast?_append_of_ne_nil _ (by simpa using nonempty)]
          exact ⟨by simp, Text.getLast?_trim_ne text⟩

/-! ## Headers, fields and braces -/

theorem Name.beginsName_text (name : Name) : BeginsName name.text := by
  have valid := name.valid
  rw [BeginsName]
  generalize name.text.toList = cs at valid
  cases cs with
  | nil => cases valid
  | cons c rest => exact ⟨c, rfl, (Bool.and_eq_true_iff.1 valid).1⟩

theorem FieldDeclaration.beginsName_text (field : FieldDeclaration) : BeginsName field.text :=
  ((field.name.beginsName_text.append _).append _).append _

theorem InputDeclaration.beginsName_text (input : InputDeclaration) : BeginsName input.text :=
  ((input.name.beginsName_text.append _).append _).append _

namespace Declaration

variable (declaration : Declaration) (options : TypeOptions)

/-- What a header has in front of the directives of the options. -/
def headerFront : String :=
  (if options.extend = some true then "extend " else "") ++
    declaration.body.keyword ++ " " ++ declaration.name.text ++
    String.join (declaration.directives.map fun directive => " " ++ directive.text)

theorem header_eq :
    declaration.header options =
      declaration.headerFront options ++ optionText options.directives :=
  rfl

theorem beginsName_header : BeginsName (declaration.header options) := by
  refine BeginsName.append (BeginsName.append (BeginsName.append (BeginsName.append ?_ _) _) _) _
  split
  next => exact BeginsName.append ⟨'e', rfl, by decide⟩ _
  next =>
      rw [String.empty_append]
      exact declaration.body.word.beginsName_text

theorem isOneLine_headerFront : IsOneLine (declaration.headerFront options) := by
  have directed : IsOneLine
      (String.join (declaration.directives.map fun directive => " " ++ directive.text)) := by
    refine Text.isOneLine_join fun text member => ?_
    obtain ⟨directive, _, rfl⟩ := List.mem_map.1 member
    exact (isOneLine_append _ _).2 ⟨by decide, directive.isOneLine_text⟩
  rw [headerFront, isOneLine_append, isOneLine_append, isOneLine_append, isOneLine_append]
  refine ⟨⟨⟨⟨?_, declaration.body.word.isOneLine_text⟩, by decide⟩,
    declaration.name.isOneLine_text⟩, directed⟩
  split <;> decide

theorem isTight_header : IsTight (declaration.header options) :=
  (declaration.isOneLine_headerFront options).isTight.append
    (isTight_optionText options.directives)

theorem isOneLine_header_iff :
    IsOneLine (declaration.header options) ↔ IsOneLine (optionText options.directives) := by
  rw [header_eq, isOneLine_append, and_iff_right (declaration.isOneLine_headerFront options)]

end Declaration

section

variable {α : Type} {header : String} {text : α → String}

theorem map_column_bracedLines (begins : BeginsName header) (each : ∀ item, BeginsName (text item))
    (items : List α) :
    (bracedLines header (items.map text)).map column =
      0 :: (List.replicate items.length 2 ++ [0]) := by
  have deep : (items.map text).map (column ∘ ("  " ++ ·)) = List.replicate items.length 2 := by
    rw [List.map_map, ← List.map_const]
    exact List.map_congr_left fun item _ => (each item).column_append 2
  rw [bracedLines, List.map_cons, (begins.append _).column_eq_zero, List.map_append, List.map_map,
    deep]
  rfl

theorem forall_mem_bracedLines {holds : String → Prop} (items : List α) :
    (∀ line ∈ bracedLines header (items.map text), holds line) ↔
      holds (header ++ " \x7b") ∧ (∀ item ∈ items, holds ("  " ++ text item)) ∧ holds "\x7d" := by
  simp [bracedLines, or_imp, forall_and]

theorem isTight_bracedLines (tight : IsTight header) (each : ∀ item, IsTight (text item))
    (items : List α) :
    ∀ line ∈ bracedLines header (items.map text), line ≠ "" ∧ IsTight line := by
  rw [forall_mem_bracedLines]
  refine ⟨⟨by simp, tight.append (IsOneLine.isTight (by decide))⟩, fun item _ => ?_, by decide,
    IsOneLine.isTight (by decide)⟩
  exact ⟨by simp, (IsOneLine.isTight (by decide)).append (each item)⟩

theorem isOneLine_bracedLines_iff (items : List α) :
    (∀ line ∈ bracedLines header (items.map text), IsOneLine line) ↔
      IsOneLine header ∧ ∀ item ∈ items, IsOneLine (text item) := by
  have opens : IsOneLine " \x7b" := by decide
  have deep : IsOneLine "  " := by decide
  have closes : IsOneLine "\x7d" := by decide
  simp only [forall_mem_bracedLines, isOneLine_append, opens, deep, closes, true_and, and_true]

end

theorem beginsName_members (member : Name) (members : List Name) :
    BeginsName (" | ".intercalate ((member :: members).map Name.text)) := by
  cases members with
  | nil =>
      rw [List.map_singleton, String.intercalate_singleton]
      exact member.beginsName_text
  | cons next members =>
      rw [List.map_cons, List.map_cons, String.intercalate_cons_cons]
      exact (member.beginsName_text.append _).append _

theorem isOneLine_members (members : List Name) :
    IsOneLine (" | ".intercalate (members.map Name.text)) :=
  Text.isOneLine_intercalate (by decide)
    (List.forall_mem_map.2 fun member _ => member.isOneLine_text)

/-! ## Lines of declarations -/

namespace DeclarationBody

/-- The columns at which the lines of a declaration begin. -/
def columns : DeclarationBody → List Nat
  | object fields => 0 :: (List.replicate fields.length 2 ++ [0])
  | input fields => 0 :: (List.replicate fields.length 2 ++ [0])
  | scalar => [0]
  | enum values => 0 :: (List.replicate values.length 2 ++ [0])
  | union members => if members.isEmpty then [0] else [0, 0]

/-- The names of the fields that get directives of the options. -/
def fieldNames : DeclarationBody → List Name
  | object fields => fields.map (·.name)
  | input fields => fields.map (·.name)
  | scalar => []
  | enum _ => []
  | union _ => []

end DeclarationBody

namespace Declaration

variable (declaration : Declaration) (options : TypeOptions)

/-- The header stands at the left, each field or value two spaces deep, the closing brace and the
members of a union at the left again. -/
theorem map_column_lines :
    (declaration.lines options).map column = declaration.body.columns := by
  -- Each line begins with a letter or an underscore behind its spaces, which ends their count.
  have begins := declaration.beginsName_header options
  rw [lines]
  cases declaration.body with
  | object fields =>
      exact map_column_bracedLines begins (fun field => field.beginsName_text.append _) fields
  | input fields =>
      exact map_column_bracedLines begins (fun field => field.beginsName_text.append _) fields
  | scalar => exact congrArg ([·]) begins.column_eq_zero
  | enum values => exact map_column_bracedLines begins Name.beginsName_text values
  | union members =>
      rw [List.map_cons, (begins.append _).column_eq_zero]
      cases members with
      | nil => rfl
      | cons member members =>
          exact congrArg ([0, ·]) (beginsName_members member members).column_eq_zero

/-- No line is empty, and none has a line feed at an end. -/
theorem isTight_lines :
    ∀ line ∈ declaration.lines options, line ≠ "" ∧ IsTight line := by
  have tight := declaration.isTight_header options
  rw [lines]
  cases declaration.body with
  | object fields =>
      exact isTight_bracedLines tight (fun field =>
        field.isOneLine_text.isTight.append (isTight_optionText _)) fields
  | input fields =>
      exact isTight_bracedLines tight (fun field =>
        field.isOneLine_text.isTight.append (isTight_optionText _)) fields
  | scalar =>
      rw [List.forall_mem_singleton]
      exact ⟨(declaration.beginsName_header options).ne_empty, tight⟩
  | enum values => exact isTight_bracedLines tight (fun value => value.isOneLine_text.isTight) values
  | union members =>
      rw [List.forall_mem_cons]
      refine ⟨⟨by simp, tight.append (IsOneLine.isTight (by decide))⟩, ?_⟩
      cases members with
      | nil => exact List.forall_mem_nil _
      | cons member members =>
          have begins := beginsName_members member members
          exact List.forall_mem_singleton.2
            ⟨begins.ne_empty, (isOneLine_members (member :: members)).isTight⟩

/-- Whether the directives that options give to a declaration and to its fields have no line feed
inside. -/
def IsGivenOneLine : Prop :=
  IsOneLine (optionText options.directives) ∧
    ∀ name ∈ declaration.body.fieldNames, IsOneLine (options.fieldText name)

/-- Nothing but directives of the options puts a line feed into a line. -/
theorem isOneLine_lines_iff :
    (∀ line ∈ declaration.lines options, IsOneLine line) ↔
      declaration.IsGivenOneLine options := by
  have header := declaration.isOneLine_header_iff options
  rw [IsGivenOneLine, ← header, lines]
  cases declaration.body with
  | object fields =>
      rw [isOneLine_bracedLines_iff, DeclarationBody.fieldNames, List.forall_mem_map]
      simp only [isOneLine_append, FieldDeclaration.isOneLine_text, true_and]
  | input fields =>
      rw [isOneLine_bracedLines_iff, DeclarationBody.fieldNames, List.forall_mem_map]
      simp only [isOneLine_append, InputDeclaration.isOneLine_text, true_and]
  | scalar => simp [DeclarationBody.fieldNames]
  | enum values =>
      rw [isOneLine_bracedLines_iff]
      simp [DeclarationBody.fieldNames, Name.isOneLine_text]
  | union members =>
      have assigned : IsOneLine " =" := by decide
      have together := isOneLine_members members
      rw [List.forall_mem_cons, isOneLine_append, and_iff_left assigned]
      split <;> simp [DeclarationBody.fieldNames, together]

end Declaration

/-! ## The whole text -/

namespace Sdl

variable {declarations : List Declaration} {types : OrderedMap String TypeOptions}

theorem isTight_render (declarations : List Declaration)
    (types : OrderedMap String TypeOptions) : IsTight (render declarations types) := by
  rw [render_eq_text, written_eq]
  refine Text.isTight_intercalate fun line member => ?_
  obtain ⟨declaration, _, inside⟩ := List.mem_flatMap.1 member
  exact declaration.isTight_lines _ line inside

/-- The lines of declarations behind others stand behind those of the others. -/
theorem lines_append (first second : List Declaration) (types : OrderedMap String TypeOptions) :
    lines (first ++ second) types = lines first types ++ lines second types :=
  List.flatMap_append

theorem lines_ne_nil (nonempty : declarations ≠ []) : lines declarations types ≠ [] := by
  intro none
  have same := isEmpty_lines declarations types
  rw [none] at same
  exact nonempty (List.isEmpty_iff.1 same.symm)

/-- Writing declarations comes to putting their lines together: after any number of declarations
the writer has their lines with line feeds between them, and is back at the left.  Each line begins
at the column of its kind, no line feed stands at either end of the text, the text of no
declarations is empty, and declarations behind others have their text behind a line feed. -/
theorem written_lines (types : OrderedMap String TypeOptions) :
    (∀ declarations,
      render declarations types = (written declarations types).text ∧
      written declarations types =
        { text := "\n".intercalate (lines declarations types)
          hasBegun := !declarations.isEmpty
          depth := 0 }) ∧
    (∀ (declaration : Declaration) (options : TypeOptions),
      (declaration.lines options).map column = declaration.body.columns) ∧
    (∀ declarations,
      (render declarations types).toList.head? ≠ some '\n' ∧
      (render declarations types).toList.getLast? ≠ some '\n') ∧
    render [] types = "" ∧
    ∀ first second : List Declaration, first ≠ [] → second ≠ [] →
      render (first ++ second) types = render first types ++ "\n" ++ render second types := by
  refine ⟨fun declarations => ⟨render_eq_text _ _, written_eq declarations types⟩,
    Declaration.map_column_lines, fun declarations => isTight_render declarations types, rfl, ?_⟩
  intro first second someFirst someSecond
  simp only [render_eq_text, written_eq]
  rw [lines_append, String.intercalate_append_of_ne_nil (lines_ne_nil someFirst)
    (lines_ne_nil someSecond)]

/-- An object with one field. -/
def greeter : Declaration where
  name := OperationKind.query.defaultRoot
  body := .object [{ name := ⟨"motto", by decide⟩, type := .named BuiltIn.string false }]

/-- A union without members. -/
def verdict : Declaration where
  name := ⟨"Verdict", by decide⟩
  body := .union []

/-- Options that extend the object and give a directive to its field. -/
def greeterTypes : OrderedMap String TypeOptions := ⟨[
  ("Query", {
    extend := some true
    fields := ⟨[("motto", { directives := some " @shareable\n" })], by decide⟩ })], by decide⟩

theorem written_lines_greeter :
    [greeter] ≠ [] ∧ [verdict] ≠ [] ∧
      render ([greeter] ++ [verdict]) greeterTypes =
        "extend type Query \x7b\n  motto: String @shareable\n\x7d" ++ "\n" ++ "union Verdict =" := by
  have some (declaration : Declaration) : [declaration] ≠ [] := List.cons_ne_nil _ _
  obtain ⟨_, _, _, _, append⟩ := written_lines greeterTypes
  refine ⟨some _, some _, (append [greeter] [verdict] (some _) (some _)).trans ?_⟩
  decide

/-- The text falls into its lines at its line feeds exactly where no directives of the options have
a line feed inside. -/
theorem splitOn_render_iff (nonempty : declarations ≠ []) :
    (render declarations types).toList.splitOn '\n' =
        (lines declarations types).map String.toList ↔
      ∀ declaration ∈ declarations, declaration.IsGivenOneLine (optionsOf types declaration) := by
  have each : (∀ line ∈ lines declarations types, IsOneLine line) ↔
      ∀ declaration ∈ declarations, declaration.IsGivenOneLine (optionsOf types declaration) := by
    simp only [lines, List.forall_mem_flatMap, Declaration.isOneLine_lines_iff]
  rw [← each]
  constructor
  · intro same line member
    have split : line.toList ∈ (render declarations types).toList.splitOn '\n' := by
      rw [same]
      exact List.mem_map_of_mem member
    exact Text.not_mem_of_mem_splitOn split
  · intro oneLine
    rw [render_eq_text, written_eq, String.toList_intercalate]
    exact List.splitOn_intercalate '\n' (List.forall_mem_map.2 oneLine)
      (List.map_eq_nil_iff.not.2 (lines_ne_nil nonempty))

end Sdl

end Subgraph
