/-!
# Splitting texts

* `split` cuts a text at every separator, so nothing is lost but separators.
* `cut` cuts a text at the first character of some kind.
-/

namespace Subgraph.Text

/-- The parts of a text between separators. -/
def split (separator : Char) : List Char → List (List Char)
  | [] => [[]]
  | c :: rest =>
      if c = separator then [] :: split separator rest
      else
        match split separator rest with
        | part :: parts => (c :: part) :: parts
        | [] => [[c]]

/-- A text up to the first character of some kind, and what follows that character. -/
def cut (stop : Char → Bool) (cs : List Char) : List Char × Option (List Char) :=
  (cs.takeWhile fun c => !stop c,
    match cs.dropWhile fun c => !stop c with
    | [] => none
    | _ :: rest => some rest)

/-- The parts between separators, with the separators put back. -/
theorem intercalate_split (separator : Char) (cs : List Char) :
    [separator].intercalate (split separator cs) = cs := by
  induction cs with
  | nil => rfl
  | cons c rest ih =>
      unfold split
      split
      · next h =>
        subst h
        cases hs : split c rest with
        | nil => rw [hs] at ih; subst ih; cases hs
        | cons part parts => rw [hs] at ih; simp [← ih, List.intercalate_cons_cons]
      · cases hs : split separator rest with
        | nil => rw [hs] at ih; subst ih; cases hs
        | cons part parts =>
            rw [hs] at ih
            cases parts with
            | nil => simp [← ih]
            | cons next parts => simp [← ih, List.intercalate_cons_cons]

example : split '.' ['a', '.', '.', 'b'] = [['a'], [], ['b']] := by decide

end Subgraph.Text
