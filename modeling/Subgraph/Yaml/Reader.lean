import Subgraph.Json.Printer
import Subgraph.Yaml.Node.Reader
import Subgraph.Yaml.Scalar

/-!
# Reading configuration files

A configuration file is one document, and its value is plain data.

* Keys are texts, however they are written.  A list or a mapping is no key.  Of
  a repeated key the last value counts, in the place of the first.
* A reference has the value of its node, which may be around it.  What makes
  such a value end is that no more than `nestingLimit` containers may be inside
  one another.
* There are at most `repetitionLimit` references for each beginning and end of a
  node, counted each time one is followed.

`ofText` reads a whole file.
-/

namespace Subgraph.Yaml

/-- How many containers may be inside one another. -/
def nestingLimit : Nat := 128

/-- How many references may be followed for each beginning and end of a node. -/
def repetitionLimit : Nat := 100

/-- What references stand for. -/
structure References where
  /-- The nodes with an anchor, by its number. -/
  nodes : List (Nat × Node)
  /-- How many references may be followed. -/
  limit : Nat

/-- A computation that counts the references that it follows. -/
abbrev Following (α : Type) := StateT Nat (Except Fault) α

/-- The node that a node stands for. -/
def Node.followed (references : References) : Node → Following Node
  | .reference mark anchor => do
      let count := (← get) + 1
      set count
      if references.limit < count then throw .repeatedTooOften
      else return (Assoc.find? anchor references.nodes).getD (.missing mark)
  | node => return node

/-- The text of a key, given whether it is the first one of its mapping. -/
def Node.keyText (references : References) (isFirst : Bool) (way : Way) (node : Node) :
    Following String := do
  let expected := if isFirst then "a string key" else "a string"
  match ← node.followed references with
  | .scalar _ _ _ _ text => return text
  | .list mark _ _ => throw (.misfit (.containerAsKey "sequence" expected) way mark)
  | .mapping mark _ _ => throw (.misfit (.containerAsKey "map" expected) way mark)
  | .reference _ _ => return ""

/-- The way to the value of a key.  A reference does not show its text. -/
def Node.wayTo (way : Way) : Node → Way
  | .scalar _ _ _ _ text => way.key text
  | _ => way.key "?"

/-- The value of a node, with some containers allowed inside it. -/
def Node.value (references : References) : Nat → Way → Node → Following Json
  | depth, way, node => do
      match ← node.followed references, depth with
      | .scalar mark _ tag isPlain text, _ =>
          match scalarValue tag isPlain text with
          | .ok value => return value
          | .error misfit => throw (.misfit misfit way mark)
      | .list _ _ items, inner + 1 => do
          let values ← items.zipIdx.mapM fun (item, index) =>
            Node.value references inner (way.item index) item
          return .arr values
      | .mapping _ _ entries, inner + 1 => do
          let members ← entries.zipIdx.mapM fun ((key, item), index) => do
            let text ← key.keyText references (index = 0) way
            let value ← Node.value references inner (key.wayTo way) item
            return (text, value)
          return .obj members
      | .reference _ _, _ => return .null
      | _, 0 => throw .nestedTooDeep

/-- The value of a text. -/
def ofText (text : String) : Except Fault Json := do
  match ← Node.documents text with
  | [] => .error .noDocument
  | document :: others =>
      let references := ⟨document.anchored,
        repetitionLimit * Node.sizeAll (document :: others)⟩
      let (value, _) ← (document.value references nestingLimit none).run 0
      if others.isEmpty then return value.withoutRepeats else .error .severalDocuments

/-! ## Tests -/

/-- What the value of a text is, or the message that refuses it. -/
def report (text : String) : String :=
  match ofText text with
  | .ok value => value.compress
  | .error fault => fault.message

example : report "# a comment\nauto: true\ntype:\n  A:\n" =
    "\x7b\"auto\":true,\"type\":\x7b\"A\":null\x7d\x7d" := by decide +kernel
example : report "? a\n: &x [b, 'c']\nd: *x\na: e\n...\n" =
    "\x7b\"a\":\"e\",\"d\":[\"b\",\"c\"]\x7d" := by decide +kernel
example : report "&x [*x]" = "recursion limit exceeded" := by decide +kernel
example : report "# a comment" = "EOF while parsing a value" := by decide +kernel
example : report "auto: [true\n" =
    "while parsing a flow sequence, expected ',' or ']' at line 2 column 1" := by decide +kernel
example : report "a:\n  [b]: c" =
    "a: invalid type: sequence, expected a string key at line 2 column 3" := by decide +kernel
example : report "a: !!bool b" =
    "a: invalid value: string \"b\", expected a boolean at line 1 column 11" := by decide +kernel

end Subgraph.Yaml
