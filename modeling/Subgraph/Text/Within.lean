/-!
# Texts inside texts

`Text.isWithin needle text` says whether a text holds another one somewhere.
The statement is `isWithin_iff`: it does exactly when it is the other text
with something, or nothing, on both sides.
-/

namespace Subgraph.Text

/-- Whether characters hold other characters in one run. -/
def holds (needle : List Char) : List Char → Bool
  | [] => needle.isEmpty
  | c :: rest => needle.isPrefixOf (c :: rest) || holds needle rest

/-- Whether a text holds another text. -/
def isWithin (needle text : String) : Bool := holds needle.toList text.toList

theorem holds_iff {needle cs : List Char} : holds needle cs = true ↔ needle <:+: cs := by
  induction cs with
  | nil => simp [holds]
  | cons c rest ih => simp [holds, ih, List.infix_cons_iff]

/-- A text holds another one exactly when that one stands between two parts of it. -/
theorem isWithin_iff {needle text : String} :
    isWithin needle text = true ↔ needle.toList <:+: text.toList := holds_iff

example : isWithin "@key" "@shareable @keyed" = true := by decide
example : isWithin "@key" "@ke y" = false := by decide

end Subgraph.Text
