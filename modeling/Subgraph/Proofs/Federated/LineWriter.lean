import Subgraph.Federated.Sdl

/-!
# What a line writer holds

A line writer hides two things behind its text: whether a line has begun, and
how deep the next one is.  Both are told by a list of lines and a depth, so the
lines of declarations can be said without a writer.

* `LineWriter.Holds` relates a writer to the lines that it has written, with one
  lemma for each operation.
* `Declaration.lines` are the lines of a declaration, and
  `Declaration.holds_write` adds them.
* `Sdl.written_eq` is the writer after some declarations.
-/

namespace Subgraph

/-! ## Lines put together -/

namespace Text

theorem intercalate_cons (first : String) (rest : List String) :
    "\n".intercalate (first :: rest) =
      first ++ String.join (rest.map fun text => "\n" ++ text) := by
  induction rest generalizing first with
  | nil => simp
  | cons second rest ih =>
      rw [String.intercalate_cons_cons, ih, List.map_cons, String.join_cons, String.append_assoc,
        String.append_assoc]

theorem intercalate_concat (texts : List String) (last : String) :
    "\n".intercalate (texts ++ [last]) =
      "\n".intercalate texts ++ (if texts.isEmpty then "" else "\n") ++ last := by
  cases texts with
  | nil => simp
  | cons text texts =>
      rw [String.intercalate_append_of_ne_nil (List.cons_ne_nil _ _) (List.cons_ne_nil _ _),
        String.intercalate_singleton]
      rfl

/-- Lines of parts are put together part by part. -/
theorem intercalate_flatMap {α : Type} {lines : α → List String} (some : ∀ x, lines x ≠ [])
    (parts : List α) :
    "\n".intercalate (parts.flatMap lines) =
      "\n".intercalate (parts.map fun part => "\n".intercalate (lines part)) := by
  induction parts with
  | nil => rfl
  | cons part parts ih =>
      cases parts with
      | nil => simp
      | cons next parts =>
          have others : (next :: parts).flatMap lines ≠ [] := by simp [some next]
          rw [List.flatMap_cons, String.intercalate_append_of_ne_nil (some part) others, ih,
            List.map_cons, List.map_cons, List.map_cons, String.intercalate_cons_cons]

end Text

/-! ## Operations of a writer -/

namespace LineWriter

/-- What a writer holds: lines, and the depth of the next one.  It has begun as soon as there is a
line. -/
structure Holds (writer : LineWriter) (lines : List String) (depth : Nat) : Prop where
  text : writer.text = "\n".intercalate lines
  hasBegun : writer.hasBegun = !lines.isEmpty
  depth : writer.depth = depth

namespace Holds

variable {writer : LineWriter} {lines : List String} {last : String} {depth : Nat}

theorem start : Holds {} [] 0 where
  text := rfl
  hasBegun := rfl
  depth := rfl

/-- A writer is nothing but what it holds. -/
theorem eq (holds : writer.Holds lines depth) :
    writer = ⟨"\n".intercalate lines, !lines.isEmpty, depth⟩ := by
  rw [← holds.text, ← holds.hasBegun, ← holds.depth]

theorem newLine (holds : writer.Holds lines depth) :
    writer.newLine.Holds (lines ++ [indentation depth]) depth where
  text := by
    rw [Text.intercalate_concat, LineWriter.newLine, holds.text, holds.hasBegun, holds.depth]
    cases lines <;> rfl
  hasBegun := by simp [LineWriter.newLine]
  depth := holds.depth

/-- Writing goes on with the last line. -/
theorem write (holds : writer.Holds (lines ++ [last]) depth) (text : String) :
    (writer.write text).Holds (lines ++ [last ++ text]) depth where
  text := by
    rw [LineWriter.write, holds.text, Text.intercalate_concat, Text.intercalate_concat,
      String.append_assoc]
  hasBegun := by
    rw [LineWriter.write, holds.hasBegun]
    cases lines <;> rfl
  depth := holds.depth

theorem indent (holds : writer.Holds lines depth) : writer.indent.Holds lines (depth + 1) where
  text := holds.text
  hasBegun := holds.hasBegun
  depth := congrArg (· + 1) holds.depth

theorem dedent (holds : writer.Holds lines (depth + 1)) :
    writer.dedent.Holds (lines ++ [indentation depth]) depth := by
  have back : Holds { writer with depth := writer.depth - 1 } lines depth :=
    ⟨holds.text, holds.hasBegun, congrArg (· - 1) holds.depth⟩
  exact back.newLine

/-- A line that is begun and written. -/
theorem line (holds : writer.Holds lines depth) (text : String) :
    (writer.newLine.write text).Holds (lines ++ [indentation depth ++ text]) depth :=
  holds.newLine.write text

/-- A line that is not deep has no spaces in front. -/
theorem outerLine (holds : writer.Holds lines 0) (text : String) :
    (writer.newLine.write text).Holds (lines ++ [text]) 0 := by
  have noSpaces : indentation 0 ++ text = text := String.empty_append
  have begun := holds.line text
  rwa [noSpaces] at begun

theorem foldl {α : Type} (holds : writer.Holds lines depth) (items : List α)
    (text : α → String) :
    (items.foldl (fun writer item => writer.newLine.write (text item)) writer).Holds
      (lines ++ items.map fun item => indentation depth ++ text item) depth := by
  induction items generalizing writer lines with
  | nil => rwa [List.map_nil, List.append_nil]
  | cons item items ih =>
      have others := ih (holds.line (text item))
      rwa [List.append_assoc] at others

/-- A block goes one level deeper for its items, and comes back for the line that it begins. -/
theorem block {α : Type} (holds : writer.Holds lines depth) (items : List α)
    (text : α → String) :
    (writer.block items text).Holds
      (lines ++ (items.map fun item => indentation (depth + 1) ++ text item) ++
        [indentation depth]) depth :=
  (holds.indent.foldl items text).dedent

end Holds

end LineWriter

/-! ## Lines of declarations -/

/-- A line that opens braces, a line for each item two spaces deep, and a line that closes them. -/
def bracedLines (header : String) (items : List String) : List String :=
  (header ++ " \x7b") :: (items.map ("  " ++ ·) ++ ["\x7d"])

/-- A block between braces, behind a line that is not deep. -/
theorem LineWriter.Holds.braces {writer : LineWriter} {lines : List String} {header : String}
    {α : Type} (holds : writer.Holds (lines ++ [header]) 0) (items : List α)
    (text : α → String) :
    (((writer.write " \x7b").block items text).write "\x7d").Holds
      (lines ++ bracedLines header (items.map text)) 0 := by
  have closed := ((holds.write " \x7b").block items text).write "\x7d"
  rw [List.append_assoc, List.append_assoc] at closed
  rw [bracedLines, List.map_map]
  exact closed

namespace Declaration

/-- The lines of a declaration.  The members of a union, if there are any, have one line together
that is not deep. -/
def lines (declaration : Declaration) (options : TypeOptions) : List String :=
  match declaration.body with
  | .object fields =>
      bracedLines (declaration.header options) (fields.map fun field =>
        field.text ++ options.fieldText field.name)
  | .input fields =>
      bracedLines (declaration.header options) (fields.map fun field =>
        field.text ++ options.fieldText field.name)
  | .enum values => bracedLines (declaration.header options) (values.map Name.text)
  | .union members =>
      (declaration.header options ++ " =") ::
        if members.isEmpty then [] else [" | ".intercalate (members.map Name.text)]
  | .scalar => [declaration.header options]

theorem lines_ne_nil (declaration : Declaration) (options : TypeOptions) :
    declaration.lines options ≠ [] := by
  rw [lines]
  split <;> exact List.cons_ne_nil _ _

/-- A declaration adds its lines and leaves the depth where it was. -/
theorem holds_write (declaration : Declaration) (options : TypeOptions) {writer : LineWriter}
    {lines : List String} (holds : writer.Holds lines 0) :
    (declaration.write options writer).Holds (lines ++ declaration.lines options) 0 := by
  have begun := holds.outerLine (declaration.header options)
  rw [write, Declaration.lines]
  cases declaration.body with
  | object fields => exact begun.braces fields _
  | input fields => exact begun.braces fields _
  | scalar => exact begun
  | enum values => exact begun.braces values _
  | union members =>
      have assigned := begun.write " ="
      cases members with
      | nil => exact assigned
      | cons member members =>
          have together := assigned.outerLine (" | ".intercalate ((member :: members).map Name.text))
          rwa [List.append_assoc] at together

end Declaration

/-! ## The whole text -/

namespace Sdl

/-- The options of the type that a declaration is about. -/
def optionsOf (types : OrderedMap String TypeOptions) (declaration : Declaration) : TypeOptions :=
  (types.find? declaration.name.text).getD {}

/-- The lines of declarations under the options of their types. -/
def lines (declarations : List Declaration) (types : OrderedMap String TypeOptions) :
    List String :=
  declarations.flatMap fun declaration => declaration.lines (optionsOf types declaration)

/-- The writer after some declarations. -/
def written (declarations : List Declaration) (types : OrderedMap String TypeOptions) :
    LineWriter :=
  declarations.foldl (fun writer declaration =>
    declaration.write (optionsOf types declaration) writer) {}

theorem render_eq_text (declarations : List Declaration)
    (types : OrderedMap String TypeOptions) :
    render declarations types = (written declarations types).text :=
  rfl

theorem isEmpty_lines (declarations : List Declaration)
    (types : OrderedMap String TypeOptions) :
    (lines declarations types).isEmpty = declarations.isEmpty := by
  cases declarations with
  | nil => rfl
  | cons declaration declarations => simp [lines, declaration.lines_ne_nil]

theorem holds_foldl (types : OrderedMap String TypeOptions) (declarations : List Declaration)
    {writer : LineWriter} {before : List String} (holds : writer.Holds before 0) :
    (declarations.foldl (fun writer declaration =>
      declaration.write (optionsOf types declaration) writer) writer).Holds
      (before ++ lines declarations types) 0 := by
  -- What is kept from one declaration to the next is that the writer is back at the left.
  induction declarations generalizing writer before with
  | nil => rwa [lines, List.flatMap_nil, List.append_nil]
  | cons declaration declarations ih =>
      have others := ih (declaration.holds_write (optionsOf types declaration) holds)
      rwa [List.append_assoc] at others

/-- After any number of declarations a writer has their lines with line feeds between them, has
begun if there was one, and is not deep. -/
theorem written_eq (declarations : List Declaration) (types : OrderedMap String TypeOptions) :
    written declarations types =
      { text := "\n".intercalate (lines declarations types)
        hasBegun := !declarations.isEmpty
        depth := 0 } := by
  have holds := holds_foldl types declarations LineWriter.Holds.start
  rw [List.nil_append] at holds
  rw [written, holds.eq, isEmpty_lines]

end Sdl

end Subgraph
