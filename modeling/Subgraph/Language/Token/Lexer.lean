import Subgraph.Language.Token
import Subgraph.Language.BlockString
import Subgraph.Text.CodePoint

/-!
# Reading tokens

A text is read from the front, one token after the other.

* Blanks, line ends, the byte order mark and comments separate tokens and stand
  for nothing.  Commas do so too, but are remembered.
* A numeral takes all letters, digits, points and underscores that follow it,
  and a sign after an `e`.  It is refused unless the whole is a numeral.
* A string is refused when an escape is unknown, when an escape denotes no
  character, and when a line ends in it.  A line end directly after the opening
  quote is the one that may stand there.
-/

namespace Subgraph

namespace Token

/-! ## Ignored characters -/

/-- Whether a character stands for nothing between tokens. -/
def isIgnored (c : Char) : Bool :=
  c = ' ' || c = '\t' || c = '\n' || c = '\r' || c = '\ufeff'

/-- Whether a character ends a line. -/
def isLineEnd (c : Char) : Bool := c = '\n' || c = '\r'

/-! ## Strings -/

/-- An escape by code point, after its opening brace. -/
def readBraced (cs : List Char) : Option (Char × List Char) :=
  let digits := cs.takeWhile fun c => c ≠ '\x7d'
  match cs.dropWhile fun c => c ≠ '\x7d' with
  | _ :: after =>
      if digits.isEmpty then none
      else (Text.hexValue? digits >>= Text.charOfCode?).map fun c => (c, after)
  | [] => none

/-- Reads an escape, after its backslash. -/
def readEscape : List Char → Option (Char × List Char)
  | 'u' :: '\x7b' :: rest => readBraced rest
  | 'u' :: rest => Text.readUnits rest
  | c :: rest => (Text.letterEscape? c).map fun c => (c, rest)
  | [] => none

theorem length_readBraced_lt {cs rest : List Char} {c : Char}
    (h : readBraced cs = some (c, rest)) : rest.length < cs.length := by
  have shorter : (cs.dropWhile fun c => c ≠ '\x7d').length ≤ cs.length :=
    (List.dropWhile_sublist _).length_le
  unfold readBraced at h
  split at h
  · next after tail =>
    rw [tail, List.length_cons] at shorter
    dsimp only at h
    split at h
    · cases h
    · obtain ⟨_, _, same⟩ := Option.map_eq_some_iff.1 h
      cases same
      exact shorter
  · cases h

theorem length_readEscape_lt {cs rest : List Char} {c : Char}
    (h : readEscape cs = some (c, rest)) : rest.length < cs.length := by
  unfold readEscape at h
  split at h
  · have := length_readBraced_lt h
    simp only [List.length_cons]
    omega
  · exact Nat.lt_succ_of_lt (Text.length_readUnits_lt h)
  · obtain ⟨_, _, same⟩ := Option.map_eq_some_iff.1 h
    cases same
    simp
  · cases h

/-- Reads a quoted string, after its opening quote. -/
def readQuoted (cs : List Char) : Option (List Char × List Char) :=
  match cs with
  | [] => none
  | '"' :: rest => some ([], rest)
  | '\\' :: rest =>
      match _shorter : readEscape rest with
      | none => none
      | some (c, next) => (readQuoted next).map fun (text, last) => (c :: text, last)
  | c :: rest =>
      if isLineEnd c then none
      else (readQuoted rest).map fun (text, last) => (c :: text, last)
termination_by cs.length
decreasing_by
  · exact Nat.lt_succ_of_lt (length_readEscape_lt _shorter)
  · exact Nat.lt_succ_self _

theorem length_readQuoted_lt {cs text rest : List Char}
    (h : readQuoted cs = some (text, rest)) : rest.length < cs.length := by
  fun_induction readQuoted cs generalizing text rest with
  | case1 => cases h
  | case2 => cases h; simp
  | case3 => cases h
  | case4 first c next shorter ih =>
      obtain ⟨_, found, same⟩ := Option.map_eq_some_iff.1 h
      cases same
      exact Nat.lt_succ_of_lt (Nat.lt_trans (ih found) (length_readEscape_lt shorter))
  | case5 => cases h
  | case6 c first _ _ _ ih =>
      obtain ⟨_, found, same⟩ := Option.map_eq_some_iff.1 h
      cases same
      exact Nat.lt_succ_of_lt (ih found)

/-- Reads the raw text of a block string, after its opening quotes. -/
def readBlock : List Char → Option (List Char × List Char)
  | '"' :: '"' :: '"' :: rest => some ([], rest)
  | '\\' :: '"' :: '"' :: '"' :: rest =>
      (readBlock rest).map fun (raw, last) => ('"' :: '"' :: '"' :: raw, last)
  | c :: rest => (readBlock rest).map fun (raw, last) => (c :: raw, last)
  | [] => none

theorem length_readBlock_lt {cs raw rest : List Char}
    (h : readBlock cs = some (raw, rest)) : rest.length < cs.length := by
  fun_induction readBlock cs generalizing raw rest with
  | case1 =>
      cases h
      simp only [List.length_cons]
      omega
  | case2 first ih =>
      obtain ⟨_, found, same⟩ := Option.map_eq_some_iff.1 h
      cases same
      have := ih found
      simp only [List.length_cons]
      omega
  | case3 c first _ _ ih =>
      obtain ⟨_, found, same⟩ := Option.map_eq_some_iff.1 h
      cases same
      exact Nat.lt_succ_of_lt (ih found)
  | case4 => cases h

/-- Reads a quoted string, after its opening quote, with a line end in front taken as it is. -/
def readOpened : List Char → Option (List Char × List Char)
  | c :: rest =>
      if isLineEnd c then (readQuoted rest).map fun (text, last) => (c :: text, last)
      else readQuoted (c :: rest)
  | [] => none

/-- Reads a string, after its first quote. -/
def readString : List Char → Option (Token × List Char)
  | '"' :: '"' :: rest =>
      (readBlock rest).map fun (raw, last) =>
        (.string (String.ofList (BlockString.value raw)), last)
  | cs => (readOpened cs).map fun (text, last) => (.string (String.ofList text), last)

theorem length_readOpened_lt {cs text rest : List Char}
    (h : readOpened cs = some (text, rest)) : rest.length < cs.length := by
  unfold readOpened at h
  split at h
  · split at h
    · obtain ⟨_, found, same⟩ := Option.map_eq_some_iff.1 h
      cases same
      exact Nat.lt_succ_of_lt (length_readQuoted_lt found)
    · exact length_readQuoted_lt h
  · cases h

theorem length_readString_lt {cs rest : List Char} {token : Token}
    (h : readString cs = some (token, rest)) : rest.length < cs.length := by
  unfold readString at h
  split at h
  · obtain ⟨_, found, same⟩ := Option.map_eq_some_iff.1 h
    cases same
    have := length_readBlock_lt found
    simp only [List.length_cons]
    omega
  · obtain ⟨_, found, same⟩ := Option.map_eq_some_iff.1 h
    cases same
    exact length_readOpened_lt found

/-! ## Names and numerals -/

/-- The characters that a numeral takes, given whether a sign may stand in front. -/
def numeralRun (sign : Bool) : List Char → List Char × List Char
  | c :: rest =>
      if Name.isContinue c || c = '.' || (sign && (c = '+' || c = '-')) then
        let (run, last) := numeralRun (c = 'e' || c = 'E') rest
        (c :: run, last)
      else ([], c :: rest)
  | [] => ([], [])

theorem length_numeralRun_le (sign : Bool) (cs : List Char) :
    (numeralRun sign cs).2.length ≤ cs.length := by
  fun_induction numeralRun sign cs with
  | case1 _ _ _ _ _ _ same ih =>
      rw [same] at ih
      exact Nat.le_succ_of_le ih
  | case2 => exact Nat.le_refl _
  | case3 => exact Nat.le_refl _

/-- The token of a whole numeral. -/
def numeral? (run : List Char) : Option Token :=
  if h : Numeral.isInt (String.ofList run).toList = true then some (.int ⟨String.ofList run, h⟩)
  else if h : Numeral.isFloat (String.ofList run).toList = true then
    some (.float ⟨String.ofList run, h⟩)
  else none

/-- Reads a numeral. -/
def readNumeral (cs : List Char) : Option (Token × List Char) :=
  (numeral? (numeralRun true cs).1).map fun token => (token, (numeralRun true cs).2)

/-- Reads a name. -/
def readName (cs : List Char) : Option (Token × List Char) :=
  (Name.ofText? (String.ofList (cs.takeWhile Name.isContinue))).map fun name =>
    (.name name, cs.dropWhile Name.isContinue)

theorem length_readNumeral_lt {c : Char} {cs rest : List Char} {token : Token}
    (start : c.isDigit || c = '-') (h : readNumeral (c :: cs) = some (token, rest)) :
    rest.length < (c :: cs).length := by
  have taken : Name.isContinue c || c = '.' || (true && (c = '+' || c = '-')) := by
    simp only [Name.isContinue, Char.isAlphanum, Bool.or_eq_true, Bool.true_and] at start ⊢
    exact start.elim (fun digit => Or.inl (Or.inl (Or.inl (Or.inr digit))))
      fun minus => Or.inr (Or.inr minus)
  obtain ⟨_, _, same⟩ := Option.map_eq_some_iff.1 h
  cases same
  rw [numeralRun, if_pos taken]
  exact Nat.lt_succ_of_le (length_numeralRun_le _ cs)

theorem length_readName_lt {c : Char} {cs rest : List Char} {token : Token}
    (start : Name.isStart c) (h : readName (c :: cs) = some (token, rest)) :
    rest.length < (c :: cs).length := by
  have taken : Name.isContinue c := by
    simp only [Name.isStart, Name.isContinue, Char.isAlphanum, Bool.or_eq_true] at start ⊢
    exact start.imp_left Or.inl
  obtain ⟨_, _, same⟩ := Option.map_eq_some_iff.1 h
  cases same
  rw [List.dropWhile_cons_of_pos taken]
  exact Nat.lt_succ_of_le (List.dropWhile_sublist _).length_le

/-! ## Token lists -/

/-- Reads one token, with nothing ignored in front of it. -/
def readOne (cs : List Char) : Option (Token × List Char) :=
  match cs with
  | [] => none
  | '"' :: rest => readString rest
  | '.' :: '.' :: '.' :: rest => some (.punctuator .spread, rest)
  | c :: rest =>
      match Punctuator.ofChar? c with
      | some mark => some (.punctuator mark, rest)
      | none =>
          if Name.isStart c then readName (c :: rest)
          else if c.isDigit || c = '-' then readNumeral (c :: rest)
          else none

theorem length_readOne_lt {cs rest : List Char} {token : Token}
    (h : readOne cs = some (token, rest)) : rest.length < cs.length := by
  unfold readOne at h
  split at h
  · cases h
  · exact Nat.lt_succ_of_lt (length_readString_lt h)
  · cases h
    simp only [List.length_cons]
    omega
  · split at h
    · cases h
      exact Nat.lt_succ_self _
    · split at h
      · next start => exact length_readName_lt start h
      · split at h
        · next start => exact length_readNumeral_lt start h
        · cases h

/-- Drops a comment, up to the end of its line. -/
def skipComment (cs : List Char) : List Char := cs.dropWhile fun c => !isLineEnd c

theorem length_skipComment_le (cs : List Char) : (skipComment cs).length ≤ cs.length :=
  (List.dropWhile_sublist _).length_le

/-- The lexemes of a text, given whether a comma stands in front of it. -/
def lexemes? (afterComma : Bool) (cs : List Char) : Option (List Lexeme) :=
  match cs with
  | [] => some []
  | c :: rest =>
      if c = ',' then lexemes? true rest
      else if isIgnored c then lexemes? afterComma rest
      else if c = '#' then lexemes? afterComma (skipComment rest)
      else
        match _shorter : readOne (c :: rest) with
        | none => none
        | some (token, after) =>
            (lexemes? false after).map fun others => { token, afterComma } :: others
termination_by cs.length
decreasing_by
  · exact Nat.lt_succ_self _
  · exact Nat.lt_succ_self _
  · exact Nat.lt_succ_of_le (length_skipComment_le rest)
  · exact length_readOne_lt _shorter

/-- The lexemes of a text. -/
def ofText? (text : String) : Option (List Lexeme) := lexemes? false text.toList

example : ofText? "\"\\u\x7b1F600\x7d\" # a comment" = some [⟨.string "😀", false⟩] := by
  decide +kernel
example : ofText? "1 , -2" = some [⟨.int ⟨"1", by decide⟩, false⟩, ⟨.int ⟨"-2", by decide⟩, true⟩] := by
  decide +kernel
example : ofText? "\"\na\"" = some [⟨.string "\na", false⟩] := by decide +kernel
example : ofText? "\"a\n\"" = none := by decide +kernel
example : ofText? "-01" = none := by decide +kernel
example : ofText? "1a" = none := by decide +kernel

end Token

end Subgraph
