/-!
# Writing lines

A writer that knows how deep it is and whether it has begun.

* Every line but the first is preceded by a line feed, so no line feed is
  written after the last line.
* A line begins with two spaces for each level of depth.
-/

namespace Subgraph

/-- A text under construction. -/
structure LineWriter where
  /-- The text so far. -/
  text : String := ""
  /-- Whether a line has begun. -/
  hasBegun : Bool := false
  /-- The depth of the next line. -/
  depth : Nat := 0
deriving DecidableEq

namespace LineWriter

/-- Adds to the line. -/
def write (writer : LineWriter) (text : String) : LineWriter :=
  { writer with text := writer.text ++ text }

/-- The spaces in front of a line. -/
def indentation (depth : Nat) : String := String.ofList (List.replicate (2 * depth) ' ')

/-- Begins a line. -/
def newLine (writer : LineWriter) : LineWriter :=
  { writer with
    text := writer.text ++ (if writer.hasBegun then "\n" else "") ++ indentation writer.depth
    hasBegun := true }

/-- Goes one level deeper. -/
def indent (writer : LineWriter) : LineWriter := { writer with depth := writer.depth + 1 }

/-- Goes back one level and begins a line. -/
def dedent (writer : LineWriter) : LineWriter := newLine { writer with depth := writer.depth - 1 }

/-- Writes each item on a line of its own, one level deeper, and begins a line after them. -/
def block {α : Type} (writer : LineWriter) (items : List α) (line : α → String) : LineWriter :=
  (items.foldl (fun writer item => writer.newLine.write (line item)) writer.indent).dedent

example : ((({} : LineWriter).newLine.write "a").block ["b", "c"] id).text = "a\n  b\n  c\n" := by
  decide

end LineWriter

end Subgraph
