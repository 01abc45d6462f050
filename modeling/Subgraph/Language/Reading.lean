import Subgraph.Language.Token

/-!
# Reading from lexeme lists

A reading takes lexemes from the front of a list and gives what it read with
the lexemes that are left, or nothing when they do not fit.  Most readings do
not look at commas.

A repeated reading has to use up a lexeme each time.  That is what bounds the
repetition, so it needs no limit of its own.
-/

namespace Subgraph

/-- A reading of something from the front of a lexeme list. -/
abbrev Reading (α : Type) := StateT (List Lexeme) Option α

namespace Reading

/-- Takes one given punctuator. -/
def expect (mark : Punctuator) : Reading Unit
  | ⟨.punctuator found, _⟩ :: rest => if found = mark then some ((), rest) else none
  | _ => none

/-- Whether the next token is a given punctuator. -/
def isNext (mark : Punctuator) : Reading Bool := fun tokens =>
  some (tokens.head?.map Lexeme.token = some (.punctuator mark), tokens)

/-- Fails when a comma is next. -/
def noComma : Reading Unit := fun tokens =>
  if tokens.head?.any Lexeme.afterComma then none else some ((), tokens)

/-- Takes a given punctuator if it is next, and says whether it was. -/
def takes (mark : Punctuator) : Reading Bool
  | ⟨.punctuator found, comma⟩ :: rest =>
      if found = mark then some (true, rest)
      else some (false, ⟨.punctuator found, comma⟩ :: rest)
  | tokens => some (false, tokens)

/-- Takes a name. -/
def name : Reading Name
  | ⟨.name name, _⟩ :: rest => some (name, rest)
  | _ => none

/-- Takes a given word. -/
def word (text : String) : Reading Unit
  | ⟨.name found, _⟩ :: rest => if found.text = text then some ((), rest) else none
  | _ => none

/-- Takes a given word if it is next, and says whether it was. -/
def takesWord (text : String) : Reading Bool
  | ⟨.name found, comma⟩ :: rest =>
      if found.text = text then some (true, rest) else some (false, ⟨.name found, comma⟩ :: rest)
  | tokens => some (false, tokens)

/-- Takes a name if one is next. -/
def name? : Reading (Option Name)
  | ⟨.name name, _⟩ :: rest => some (some name, rest)
  | tokens => some (none, tokens)

/-- Takes a string if one is next. -/
def string? : Reading (Option String)
  | ⟨.string text, _⟩ :: rest => some (some text, rest)
  | tokens => some (none, tokens)

/-- Reads at least one item, up to and with a closing punctuator. -/
def itemsUntil (closing : Punctuator) (item : Reading α) (tokens : List Lexeme) :
    Option (List α × List Lexeme) := do
  let (first, rest) ← item tokens
  match rest with
  | ⟨.punctuator mark, _⟩ :: after =>
      if mark = closing then some ([first], after)
      else if rest.length < tokens.length then
        let (others, last) ← itemsUntil closing item rest
        some (first :: others, last)
      else none
  | _ =>
      if rest.length < tokens.length then
        let (others, last) ← itemsUntil closing item rest
        some (first :: others, last)
      else none
termination_by tokens.length

/-- Reads at least one item between two punctuators. -/
def between (opening closing : Punctuator) (item : Reading α) : Reading (List α) := do
  expect opening
  itemsUntil closing item

/-- Reads items between two punctuators, or nothing when the opening one is not next. -/
def optionalBetween (opening closing : Punctuator) (item : Reading α) : Reading (List α) := do
  if ← isNext opening then between opening closing item else return []

/-- Reads items after a separator, as long as there is one. -/
def afterSeparators (separator : Punctuator) (item : Reading α) (tokens : List Lexeme) :
    Option (List α × List Lexeme) :=
  match tokens with
  | ⟨.punctuator mark, comma⟩ :: rest =>
      if mark = separator then do
        let (first, after) ← item rest
        if after.length ≤ rest.length then
          let (others, last) ← afterSeparators separator item after
          some (first :: others, last)
        else none
      else some ([], ⟨.punctuator mark, comma⟩ :: rest)
  | tokens => some ([], tokens)
termination_by tokens.length

/-- Reads at least one item, with a separator between items and perhaps one in front. -/
def separated (separator : Punctuator) (item : Reading α) : Reading (List α) := do
  let _ ← takes separator
  let first ← item
  let others ← afterSeparators separator item
  return first :: others

end Reading

end Subgraph
