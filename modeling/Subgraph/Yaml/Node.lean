import Subgraph.Yaml.Fault
import Subgraph.Yaml.Token

/-!
# Nodes of configuration files

A document is a tree of nodes: scalars, lists, mappings, and references to nodes
that have an anchor.  Anchors are numbered, since a name may be given anew.

* `Node.anchored` are the nodes with an anchor, by its number.
* `Node.size` counts a list or a mapping twice, where it begins and where it
  ends, and any other node once.
-/

namespace Subgraph.Yaml

/-- A node. -/
inductive Node where
  | reference (mark : Mark) (anchor : Nat)
  | scalar (mark : Mark) (anchor : Option Nat) (tag : Option Tag) (isPlain : Bool) (text : String)
  | list (mark : Mark) (anchor : Option Nat) (items : List Node)
  | mapping (mark : Mark) (anchor : Option Nat) (entries : List (Node × Node))

namespace Node

/-- The scalar that stands where nothing is written. -/
def missing (mark : Mark) : Node := .scalar mark none none true "~"

mutual

/-- How many beginnings and ends of nodes there are. -/
def size : Node → Nat
  | .reference _ _ => 1
  | .scalar _ _ _ _ _ => 1
  | .list _ _ items => sizeAll items + 2
  | .mapping _ _ entries => sizeIn entries + 2

/-- The size of some nodes. -/
def sizeAll : List Node → Nat
  | [] => 0
  | node :: rest => node.size + sizeAll rest

/-- The size of some entries. -/
def sizeIn : List (Node × Node) → Nat
  | [] => 0
  | (key, value) :: rest => key.size + value.size + sizeIn rest

end

/-- A node under its anchor. -/
def under (anchor : Option Nat) (node : Node) : List (Nat × Node) :=
  (anchor.map fun number => (number, node)).toList

mutual

/-- The nodes with an anchor. -/
def anchored : Node → List (Nat × Node)
  | .reference _ _ => []
  | .scalar mark anchor tag isPlain text => under anchor (.scalar mark anchor tag isPlain text)
  | .list mark anchor items => under anchor (.list mark anchor items) ++ anchoredAll items
  | .mapping mark anchor entries =>
      under anchor (.mapping mark anchor entries) ++ anchoredIn entries

/-- The nodes with an anchor in some nodes. -/
def anchoredAll : List Node → List (Nat × Node)
  | [] => []
  | node :: rest => node.anchored ++ anchoredAll rest

/-- The nodes with an anchor in some entries. -/
def anchoredIn : List (Node × Node) → List (Nat × Node)
  | [] => []
  | (key, value) :: rest => key.anchored ++ value.anchored ++ anchoredIn rest

end

end Node

end Subgraph.Yaml
