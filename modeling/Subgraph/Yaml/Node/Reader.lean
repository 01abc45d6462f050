import Subgraph.OrderedMap
import Subgraph.Yaml.Layout
import Subgraph.Yaml.Node

/-!
# Reading nodes

The grammar of configuration files, over their tokens.

* A node may have an anchor and a tag, in either order, and then need not have a
  content.
* An item, a key or a value that is left out is a missing scalar.
* The items of a list that is a key or a value on lines may stand at the column
  of the key.
* A key inside square brackets makes a mapping with one entry.
* Only the first document of a text need not begin with its mark.
* The name of an anchor stands for the last node before that has it, in the same
  document.

A reading takes tokens from the front of a list.  It stops where a token does
not fit, and where the list ends.
-/

namespace Subgraph.Yaml

/-- Why a reading stops: a fault, or none where the tokens end. -/
abbrev Stop := Option Fault

/-- Stops for a flaw at some place. -/
def stop {α : Type} (flaw : Flaw) (mark : Mark) : Except Stop α := .error (some (.flaw flaw mark))

/-- The anchors so far. -/
structure Anchors where
  /-- The numbers of those of the document, by their names. -/
  numbers : List (String × Nat) := []
  /-- How many there are in the text. -/
  count : Nat := 0

/-- One more anchor. -/
def Anchors.add (anchors : Anchors) (name : String) : Anchors :=
  { numbers := Assoc.set name anchors.count anchors.numbers, count := anchors.count + 1 }

/-- What is read, with the anchors and the tokens behind it. -/
abbrev Read (α : Type) := α × Anchors × List Token

/-- What an anchor and a tag say of a node. -/
structure Properties where
  /-- The number of its anchor. -/
  anchor : Option Nat := none
  /-- Its tag. -/
  tag : Option Tag := none

/-- Where a node stands. -/
inductive Position where
  /-- A key or a value on lines, where a list may stand at the column of the key. -/
  | entry
  /-- An item or a document on lines. -/
  | line
  /-- Between brackets. -/
  | brackets
deriving DecidableEq

namespace Node

/-- Whether a token says that an item at the column of a key is left out. -/
def isNoItemAtKey : Lexeme → Bool
  | .item | .key | .value | .blockEnd => true
  | _ => false

/-- Whether a token says that an item on lines is left out. -/
def isNoItem : Lexeme → Bool
  | .item | .blockEnd => true
  | _ => false

/-- Whether a token says that a key or a value on lines is left out. -/
def isNoEntry : Lexeme → Bool
  | .key | .value | .blockEnd => true
  | _ => false

/-- Whether a token says that the key of an entry in braces is left out. -/
def isNoBraceKey : Lexeme → Bool
  | .value | .comma | .closeBrace => true
  | _ => false

/-- Whether a token says that the value of an entry in braces is left out. -/
def isNoBraceValue : Lexeme → Bool
  | .comma | .closeBrace => true
  | _ => false

/-- Whether a token says that the value of an entry in square brackets is left out. -/
def isNoBracketValue : Lexeme → Bool
  | .comma | .closeBracket => true
  | _ => false

/-- Whether a token says that a document is left out. -/
def isNoDocument : Lexeme → Bool
  | .directive | .documentStart | .documentEnd | .textEnd => true
  | _ => false

/-- Reads a reference, after its token. -/
def readReference (mark : Mark) (name : String) (anchors : Anchors) (rest : List Token) :
    Except Stop (Read Node) :=
  match Assoc.find? name anchors.numbers with
  | some anchor => .ok (.reference mark anchor, anchors, rest)
  | none => stop .unknownAnchor mark

mutual

/-- Reads a node. -/
def readNode (position : Position) (anchors : Anchors) (tokens : List Token) :
    Except Stop (Read Node) :=
  match tokens with
  | ⟨mark, .reference name⟩ :: rest => readReference mark name anchors rest
  | ⟨_, .anchor name⟩ :: ⟨_, .tag tag⟩ :: rest =>
      readContent position ⟨anchors.count, tag⟩ (anchors.add name) rest
  | ⟨_, .tag tag⟩ :: ⟨_, .anchor name⟩ :: rest =>
      readContent position ⟨anchors.count, tag⟩ (anchors.add name) rest
  | ⟨_, .anchor name⟩ :: rest =>
      readContent position { anchor := anchors.count } (anchors.add name) rest
  | ⟨_, .tag tag⟩ :: rest => readContent position { tag } anchors rest
  | tokens => readContent position {} anchors tokens
termination_by 5 * tokens.length + 1
decreasing_by all_goals first | omega | (simp only [List.length_cons] at *; omega)

/-- Reads the content of a node. -/
def readContent (position : Position) (properties : Properties) (anchors : Anchors)
    (tokens : List Token) : Except Stop (Read Node) :=
  match tokens with
  | [] => .error none
  | ⟨mark, .scalar isPlain text⟩ :: rest =>
      .ok (.scalar mark properties.anchor properties.tag isPlain text, anchors, rest)
  | ⟨mark, .openBracket⟩ :: rest => do
      let (items, last) ← readBracketItems anchors rest
      return (.list mark properties.anchor items, last)
  | ⟨mark, .openBrace⟩ :: rest => do
      let (entries, last) ← readBraceEntries anchors rest
      return (.mapping mark properties.anchor entries, last)
  | ⟨mark, lexeme⟩ :: rest =>
      if lexeme = .item && position = .entry then do
        let (items, last) ← readItemsAtKey anchors (⟨mark, lexeme⟩ :: rest)
        return (.list mark properties.anchor items, last)
      else if lexeme = .listStart && position ≠ .brackets then do
        let (items, last) ← readLineItems anchors rest
        return (.list mark properties.anchor items, last)
      else if lexeme = .mappingStart && position ≠ .brackets then do
        let (entries, last) ← readLineEntries anchors rest
        return (.mapping mark properties.anchor entries, last)
      else if properties.anchor.isSome || properties.tag.isSome then
        let node := .scalar mark properties.anchor properties.tag true ""
        .ok (node, anchors, ⟨mark, lexeme⟩ :: rest)
      else stop .contentExpected mark
termination_by 5 * tokens.length
decreasing_by all_goals first | omega | (simp only [List.length_cons] at *; omega)

/-- Reads a node, unless the next token says that it is left out. -/
def readOptional (isNone : Lexeme → Bool) (position : Position) (anchors : Anchors)
    (tokens : List Token) : Except Stop (Read Node) :=
  match tokens with
  | [] => .error none
  | token :: rest =>
      if isNone token.lexeme then .ok (missing token.mark, anchors, token :: rest)
      else readNode position anchors (token :: rest)
termination_by 5 * tokens.length + 2
decreasing_by all_goals omega

/-- Reads the items of a list at the column of a key. -/
def readItemsAtKey (anchors : Anchors) (tokens : List Token) : Except Stop (Read (List Node)) :=
  match tokens with
  | [] => .error none
  | ⟨mark, lexeme⟩ :: rest =>
      if lexeme = .item then do
        let (item, anchors, next) ← readOptional isNoItemAtKey .line anchors rest
        if next.length ≤ rest.length then
          let (items, last) ← readItemsAtKey anchors next
          return (item :: items, last)
        else .error none
      else .ok ([], anchors, ⟨mark, lexeme⟩ :: rest)
termination_by 5 * tokens.length - 1
decreasing_by all_goals first | omega | (simp only [List.length_cons] at *; omega)

/-- Reads the items of a list on lines and its end. -/
def readLineItems (anchors : Anchors) (tokens : List Token) : Except Stop (Read (List Node)) :=
  match tokens with
  | [] => .error none
  | ⟨_, .blockEnd⟩ :: rest => .ok ([], anchors, rest)
  | ⟨_, .item⟩ :: rest => do
      let (item, anchors, next) ← readOptional isNoItem .line anchors rest
      if next.length ≤ rest.length then
        let (items, last) ← readLineItems anchors next
        return (item :: items, last)
      else .error none
  | ⟨mark, _⟩ :: _ => stop .listItem mark
termination_by 5 * tokens.length
decreasing_by all_goals first | omega | (simp only [List.length_cons] at *; omega)

/-- Reads a value with its mark, unless the next token says that it is left out. -/
def readValue (isNone : Lexeme → Bool) (position : Position) (anchors : Anchors)
    (tokens : List Token) : Except Stop (Read Node) :=
  match tokens with
  | [] => .error none
  | ⟨_, .value⟩ :: rest => readOptional isNone position anchors rest
  | token :: rest => .ok (missing token.mark, anchors, token :: rest)
termination_by 5 * tokens.length
decreasing_by all_goals first | omega | (simp only [List.length_cons] at *; omega)

/-- Reads the entries of a mapping on lines and its end. -/
def readLineEntries (anchors : Anchors) (tokens : List Token) :
    Except Stop (Read (List (Node × Node))) :=
  match tokens with
  | [] => .error none
  | ⟨_, .blockEnd⟩ :: rest => .ok ([], anchors, rest)
  | ⟨_, .key⟩ :: rest => do
      let (key, anchors, middle) ← readOptional isNoEntry .entry anchors rest
      if middle.length ≤ rest.length then
        let (value, anchors, next) ← readValue isNoEntry .entry anchors middle
        if next.length ≤ rest.length then
          let (entries, last) ← readLineEntries anchors next
          return ((key, value) :: entries, last)
        else .error none
      else .error none
  | ⟨mark, .value⟩ :: rest => do
      let (value, anchors, next) ← readOptional isNoEntry .entry anchors rest
      if next.length ≤ rest.length then
        let (entries, last) ← readLineEntries anchors next
        return ((missing mark, value) :: entries, last)
      else .error none
  | ⟨mark, _⟩ :: _ => stop .mappingKey mark
termination_by 5 * tokens.length
decreasing_by all_goals first | omega | (simp only [List.length_cons] at *; omega)

/-- Reads an entry of a mapping in braces. -/
def readBraceEntry (anchors : Anchors) (tokens : List Token) : Except Stop (Read (Node × Node)) :=
  match tokens with
  | ⟨_, .key⟩ :: rest => do
      let (key, anchors, middle) ← readOptional isNoBraceKey .brackets anchors rest
      if middle.length ≤ rest.length then
        let (value, last) ← readValue isNoBraceValue .brackets anchors middle
        return ((key, value), last)
      else .error none
  | ⟨mark, .value⟩ :: rest => do
      let (value, last) ← readOptional isNoBraceValue .brackets anchors rest
      return ((missing mark, value), last)
  | tokens => do
      let (key, anchors, last) ← readNode .brackets anchors tokens
      match last with
      | [] => .error none
      | token :: rest => return ((key, missing token.mark), anchors, token :: rest)
termination_by 5 * tokens.length + 2
decreasing_by all_goals first | omega | (simp only [List.length_cons] at *; omega)

/-- Reads the entries of a mapping in braces and its closing brace. -/
def readBraceEntries (anchors : Anchors) (tokens : List Token) :
    Except Stop (Read (List (Node × Node))) :=
  match tokens with
  | ⟨_, .closeBrace⟩ :: rest => .ok ([], anchors, rest)
  | tokens => do
      let (entry, anchors, after) ← readBraceEntry anchors tokens
      match after with
      | [] => .error none
      | ⟨_, .closeBrace⟩ :: last => return ([entry], anchors, last)
      | ⟨_, .comma⟩ :: next =>
          if next.length < tokens.length then
            let (entries, last) ← readBraceEntries anchors next
            return (entry :: entries, last)
          else .error none
      | ⟨mark, _⟩ :: _ => stop .bracesSeparator mark
termination_by 5 * tokens.length + 3
decreasing_by all_goals omega

/-- Reads the entry of a mapping in square brackets, behind the mark of its key.  A comma or a
bracket in the place of the key is skipped. -/
def readBracketEntry (anchors : Anchors) (tokens : List Token) :
    Except Stop (Read (Node × Node)) := do
  let (key, anchors, middle) ←
    match tokens with
    | [] => .error none
    | token :: rest =>
        if token.lexeme = .value || isNoBracketValue token.lexeme then
          .ok (missing token.mark, anchors, rest)
        else readNode .brackets anchors (token :: rest)
  if middle.length ≤ tokens.length then
    let (value, last) ← readValue isNoBracketValue .brackets anchors middle
    return ((key, value), last)
  else .error none
termination_by 5 * tokens.length + 2
decreasing_by all_goals omega

/-- Reads an item of a list in square brackets. -/
def readBracketItem (anchors : Anchors) (tokens : List Token) : Except Stop (Read Node) :=
  match tokens with
  | ⟨mark, .key⟩ :: rest => do
      let (entry, last) ← readBracketEntry anchors rest
      return (.mapping mark none [entry], last)
  | tokens => readNode .brackets anchors tokens
termination_by 5 * tokens.length + 2
decreasing_by all_goals first | omega | (simp only [List.length_cons] at *; omega)

/-- Reads the items of a list in square brackets and its closing bracket. -/
def readBracketItems (anchors : Anchors) (tokens : List Token) : Except Stop (Read (List Node)) :=
  match tokens with
  | ⟨_, .closeBracket⟩ :: rest => .ok ([], anchors, rest)
  | tokens => do
      let (item, anchors, after) ← readBracketItem anchors tokens
      match after with
      | [] => .error none
      | ⟨_, .closeBracket⟩ :: last => return ([item], anchors, last)
      | ⟨_, .comma⟩ :: next =>
          if next.length < tokens.length then
            let (items, last) ← readBracketItems anchors next
            return (item :: items, last)
          else .error none
      | ⟨mark, _⟩ :: _ => stop .bracketsSeparator mark
termination_by 5 * tokens.length + 3
decreasing_by all_goals omega

end

/-! ## Documents -/

/-- Reads a document with its mark, and the directives before it. -/
def readMarked (anchors : Anchors) : List Token → Except Stop (Read Node)
  | [] => .error none
  | ⟨_, .directive⟩ :: rest => readMarked anchors rest
  | ⟨_, .documentStart⟩ :: rest => readOptional isNoDocument .line anchors rest
  | ⟨mark, _⟩ :: _ => stop .documentStart mark

/-- Reads the documents of a text, the first of which may have no mark. -/
def readDocuments (isFirst : Bool) (anchors : Anchors) (tokens : List Token) :
    Except Stop (List Node) :=
  match tokens with
  | [] => .error none
  | ⟨_, .textEnd⟩ :: _ => .ok []
  | ⟨mark, lexeme⟩ :: rest =>
      if lexeme = .documentEnd && !isFirst then readDocuments false anchors rest
      else do
        let (document, anchors, after) ←
          if isFirst && lexeme ≠ .documentStart && lexeme ≠ .directive then
            readNode .line { count := anchors.count } (⟨mark, lexeme⟩ :: rest)
          else readMarked { count := anchors.count } (⟨mark, lexeme⟩ :: rest)
        if after.length ≤ rest.length then
          let others ← readDocuments false anchors after
          return document :: others
        else .error none
termination_by tokens.length

/-- The documents of a text. -/
def documents (text : String) : Except Fault (List Node) :=
  let (tokens, fault) := Layout.tokens text.toList
  (readDocuments true {} tokens).mapError fun stop => stop.getD fault

end Node

end Subgraph.Yaml
