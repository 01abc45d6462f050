import Subgraph.Http.DomainName.Table
import Subgraph.Text.Direction
import Subgraph.Text.Joining
import Subgraph.Text.Punycode

/-!
# Domain names

A domain name is a list of labels with dots between them.  `toAscii?` gives the
form in which it is looked up.

* Characters that others stand for are replaced, some are left out, and some
  refused.  Then the name is brought into its normal form.
* A label in ASCII that begins with `xn--` stands for another one, written in
  Punycode.  That one has to be beyond ASCII, normal, and of characters that
  stand for themselves.
* A label does not begin with a mark, and characters that ask for joining or
  forbid it stand only where they matter.
* When something goes from right to left in a name, each of its labels has to
  look the same wherever it stands.
* A label beyond ASCII is written in Punycode, and no label is too long for that.
-/

namespace Subgraph.DomainName

open Text (CodePointTable)

/-- Whether a character is in ASCII. -/
def isAscii (c : Char) : Bool := c.toNat < 0x80

/-! ## Characters -/

/-- The characters that no domain name has, controls apart. -/
def forbidden : List Char :=
  [' ', '#', '/', ':', '<', '>', '?', '@', '[', '\\', ']', '^', '|', '%', '\x7f']

/-- Whether a character in ASCII may stand in a name. -/
def isAllowed (c : Char) : Bool := 0x20 ≤ c.toNat && !forbidden.contains c

/-- What a character becomes. -/
def mapped? (c : Char) : Option (List Char) :=
  if isAscii c then some [c.toLower]
  else if disallowed.has c.toNat then none
  else if ignored.has c.toNat then some []
  else
    match mappings.image? c.toNat with
    | some image => some (image.map Char.ofNat)
    | none => some [c]

/-- Whether a character stands for itself. -/
def standsForItself (c : Char) : Bool := mapped? c = some [c]

/-! ## Labels -/

/-- How long the form of a label in Punycode may be. -/
def encodedLimit : Nat := 2000

/-- How long a label that is written in Punycode may be. -/
def labelLimit : Nat := 1000

/-- Whether a label may stand in a name. -/
def isLabel (label : List Char) : Bool :=
  label.all isAscii ||
    (!label.head?.any (fun c => combiningMarks.has c.toNat) && Text.Joining.isJoinable label)

/-- The label that another one is the form of. -/
def decoded? (encoded : List Char) : Option (List Char) := do
  guard (encoded.all isAscii && encoded.length ≤ encodedLimit)
  let label ← Text.Punycode.decode? encoded
  guard (!label.all isAscii && label.all standsForItself)
  guard (Text.Normalization.normalized label = label)
  return label

/-- The label that is meant by one as it is written. -/
def meant? : List Char → Option (List Char)
  | 'x' :: 'n' :: '-' :: '-' :: rest => decoded? rest
  | label => some label

/-- A label in ASCII. -/
def asciiLabel? (label : List Char) : Option (List Char) :=
  if label.all isAscii then some label
  else if label.length ≤ labelLimit then
    some (['x', 'n', '-', '-'] ++ Text.Punycode.encode label)
  else none

/-! ## Names -/

/-- Whether labels look the same wherever they stand, as far as it matters. -/
def areOrderly (labels : List (List Char)) : Bool :=
  let goesLeft := fun c => !isAscii c && (Text.Direction.ofChar c).isRightward
  !labels.any (fun label => label.any goesLeft) || labels.all Text.Direction.isOrderly

/-- A name in ASCII. -/
def toAscii? (name : List Char) : Option (List Char) := do
  let characters ← name.mapM mapped?
  let labels := Text.split '.' (Text.Normalization.normalized characters.flatten)
  let meant ← labels.mapM meant?
  guard (meant.all isLabel && areOrderly meant)
  let written ← meant.mapM asciiLabel?
  let ascii := ['.'].intercalate written
  if ascii.all isAllowed then some ascii else none

example : toAscii? "Origin.example".toList = some "origin.example".toList := by decide +kernel
example : toAscii? "a b".toList = none := by decide +kernel

end Subgraph.DomainName
