/-!
# Code points in escapes

Escapes name a character by hexadecimal digits: by its code point, or by the
two halves of a surrogate pair.
-/

namespace Subgraph.Text

/-- The value of a hexadecimal digit. -/
def hexDigit? (c : Char) : Option Nat :=
  if c.isDigit then some (c.toNat - '0'.toNat)
  else if 'a' ≤ c ∧ c ≤ 'f' then some (c.toNat - 'a'.toNat + 10)
  else if 'A' ≤ c ∧ c ≤ 'F' then some (c.toNat - 'A'.toNat + 10)
  else none

/-- The number written by hexadecimal digits. -/
def hexValue? (digits : List Char) : Option Nat :=
  digits.foldlM (fun n c => (hexDigit? c).map (16 * n + ·)) 0

/-- Reads four hexadecimal digits. -/
def readFourHex : List Char → Option (Nat × List Char)
  | a :: b :: c :: d :: rest => (hexValue? [a, b, c, d]).map fun n => (n, rest)
  | _ => none

theorem length_readFourHex_lt {cs rest : List Char} {n : Nat}
    (h : readFourHex cs = some (n, rest)) : rest.length < cs.length := by
  unfold readFourHex at h
  split at h
  · obtain ⟨_, _, same⟩ := Option.map_eq_some_iff.1 h
    cases same
    simp only [List.length_cons]
    omega
  · cases h

/-- The character with a code point. -/
def charOfCode? (code : Nat) : Option Char :=
  if h : code.isValidChar then some (Char.ofNatAux code h) else none

/-- The character of the two halves of a surrogate pair. -/
def charOfPair? (high low : Nat) : Option Char :=
  if 0xd800 ≤ high ∧ high < 0xdc00 ∧ 0xdc00 ≤ low ∧ low < 0xe000 then
    charOfCode? (0x10000 + (high - 0xd800) * 0x400 + (low - 0xdc00))
  else none

/-- Reads an escape by code units, after its `u`: four digits, or two such escapes that form a
pair. -/
def readUnits (cs : List Char) : Option (Char × List Char) := do
  let (unit, rest) ← readFourHex cs
  match charOfCode? unit with
  | some c => some (c, rest)
  | none =>
      match rest with
      | '\\' :: 'u' :: rest => do
          let (low, rest) ← readFourHex rest
          let c ← charOfPair? unit low
          some (c, rest)
      | _ => none

theorem length_readUnits_lt {cs rest : List Char} {c : Char}
    (h : readUnits cs = some (c, rest)) : rest.length < cs.length := by
  unfold readUnits at h
  obtain ⟨⟨unit, middle⟩, first, h⟩ := Option.bind_eq_some_iff.1 h
  have shorter := length_readFourHex_lt first
  dsimp only at h
  split at h
  · cases h
    exact shorter
  · split at h
    · obtain ⟨⟨low, last⟩, second, h⟩ := Option.bind_eq_some_iff.1 h
      obtain ⟨_, _, h⟩ := Option.bind_eq_some_iff.1 h
      cases h
      exact Nat.lt_trans (length_readFourHex_lt second)
        (Nat.lt_trans (Nat.lt_add_of_pos_right Nat.two_pos) shorter)
    · cases h

/-- The character of an escape by a letter. -/
def letterEscape? : Char → Option Char
  | '"' => some '"'
  | '\\' => some '\\'
  | '/' => some '/'
  | 'b' => some '\x08'
  | 'f' => some '\x0c'
  | 'n' => some '\n'
  | 'r' => some '\r'
  | 't' => some '\t'
  | _ => none

@[simp] theorem charOfCode?_toNat (c : Char) : charOfCode? c.toNat = some c := by
  have valid : c.toNat.isValidChar := c.valid
  rw [charOfCode?, dif_pos valid]
  rfl

example : readUnits ['d', '8', '3', 'd', '\\', 'u', 'd', 'e', '0', '0', '!'] =
    some ('😀', ['!']) := by decide
example : readUnits ['d', '8', '0', '0', '!'] = none := by decide

end Subgraph.Text
