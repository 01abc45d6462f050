import Subgraph.Proofs.Language.Spelling

/-!
# Comments

A text is read the same when something stands behind it that goes on with no token
of it, unless a comment takes that in.

* `readOne_append` reads one token in front of more text.
* `Spells.of_commentsEnd` reads all of them where every comment ends with its line,
  and `Spells.of_isCommentFree` where there is none.
* `lexemes?_append_of_not_commentsEnd` is the case of a comment that does not end.
-/

namespace Subgraph

namespace Text

theorem readFourHex_append {cs rest : List Char} {n : Nat} (more : List Char)
    (read : readFourHex cs = some (n, rest)) :
    readFourHex (cs ++ more) = some (n, rest ++ more) := by
  unfold readFourHex at read
  split at read
  · obtain ⟨_, value, same⟩ := Option.map_eq_some_iff.1 read
    cases same
    simp [readFourHex, value]
  · cases read

theorem readUnits_append {cs rest : List Char} {c : Char} (more : List Char)
    (read : readUnits cs = some (c, rest)) : readUnits (cs ++ more) = some (c, rest ++ more) := by
  unfold readUnits at read
  obtain ⟨⟨unit, middle⟩, first, read⟩ := Option.bind_eq_some_iff.1 read
  dsimp only at read
  rw [readUnits, readFourHex_append more first]
  split at read
  next found =>
      cases read
      simp [found]
  next none =>
      split at read
      next behind =>
          obtain ⟨⟨low, last⟩, second, read⟩ := Option.bind_eq_some_iff.1 read
          obtain ⟨found, pair, read⟩ := Option.bind_eq_some_iff.1 read
          cases read
          simp [none, readFourHex_append more second, pair]
      next => cases read

end Text

namespace Token

/-! ## Strings -/

/-- A run that something ends stays the same in front of more. -/
theorem takeWhile_append_of_dropWhile {p : Char → Bool} {cs after : List Char} {c : Char}
    (more : List Char) (stops : cs.dropWhile p = c :: after) :
    (cs ++ more).takeWhile p = cs.takeWhile p ∧
      (cs ++ more).dropWhile p = c :: (after ++ more) := by
  induction cs with
  | nil => cases stops
  | cons d cs ih =>
      by_cases holds : p d = true
      · rw [List.dropWhile_cons_of_pos holds] at stops
        simp [holds, ih stops]
      · rw [List.dropWhile_cons_of_neg holds] at stops
        cases stops
        simp [holds]

theorem readBraced_append {cs rest : List Char} {c : Char} (more : List Char)
    (read : readBraced cs = some (c, rest)) : readBraced (cs ++ more) = some (c, rest ++ more) := by
  unfold readBraced at read
  split at read
  next brace after stops =>
      obtain ⟨digits, behind⟩ := takeWhile_append_of_dropWhile more stops
      rw [readBraced, digits, behind]
      dsimp only at read ⊢
      split at read
      next => cases read
      next some =>
          obtain ⟨_, found, same⟩ := Option.map_eq_some_iff.1 read
          cases same
          rw [if_neg some, found]
          rfl
  next => cases read

theorem readEscape_append {cs rest : List Char} {c : Char} (more : List Char)
    (read : readEscape cs = some (c, rest)) : readEscape (cs ++ more) = some (c, rest ++ more) := by
  unfold readEscape at read
  split at read
  next rest => exact readBraced_append more read
  next units noBrace =>
      cases units with
      | nil => cases read
      | cons d units =>
          have noBrace : d ≠ '\x7b' := by
            rintro rfl
            exact noBrace units rfl
          rw [List.cons_append, List.cons_append, readEscape]
          · exact Text.readUnits_append more read
          · intro tail same
            exact noBrace (List.cons.inj same).1
  next c rest noBraced noUnits =>
      obtain ⟨_, letter, same⟩ := Option.map_eq_some_iff.1 read
      cases same
      have noUnits : c ≠ 'u' := by
        rintro rfl
        exact noUnits rfl
      rw [List.cons_append, readEscape]
      · rw [letter]
        rfl
      · intro tail same _
        exact noUnits same
      · exact noUnits
  next => cases read

theorem readQuoted_append {cs text rest : List Char} (more : List Char)
    (read : readQuoted cs = some (text, rest)) :
    readQuoted (cs ++ more) = some (text, rest ++ more) := by
  fun_induction readQuoted cs generalizing text rest with
  | case1 => cases read
  | case2 rest =>
      cases read
      rw [List.cons_append, readQuoted]
  | case3 => cases read
  | case4 rest c next escape ih =>
      obtain ⟨⟨_, _⟩, found, same⟩ := Option.map_eq_some_iff.1 read
      cases same
      rw [List.cons_append, readQuoted_escape (readEscape_append more escape), ih found]
      rfl
  | case5 => cases read
  | case6 c rest noQuote noEscape noLineEnd ih =>
      obtain ⟨⟨_, _⟩, found, same⟩ := Option.map_eq_some_iff.1 read
      cases same
      rw [List.cons_append, readQuoted_plain _ noQuote noEscape (Bool.eq_false_iff.2 noLineEnd),
        ih found]
      rfl

/-- A block string has its three closing quotes. -/
theorem exists_of_readBlock {cs raw rest : List Char} (read : readBlock cs = some (raw, rest)) :
    ∃ first second third others, cs = first :: second :: third :: others := by
  fun_induction readBlock cs generalizing raw rest with
  | case1 => exact ⟨_, _, _, _, rfl⟩
  | case2 => exact ⟨_, _, _, _, rfl⟩
  | case3 c rest _ _ ih =>
      obtain ⟨⟨_, _⟩, found, _⟩ := Option.map_eq_some_iff.1 read
      obtain ⟨first, second, third, others, rfl⟩ := ih found
      exact ⟨_, _, _, _, rfl⟩
  | case4 => cases read

theorem readBlock_append {cs raw rest : List Char} (more : List Char)
    (read : readBlock cs = some (raw, rest)) :
    readBlock (cs ++ more) = some (raw, rest ++ more) := by
  fun_induction readBlock cs generalizing raw rest with
  | case1 rest =>
      cases read
      simp only [List.cons_append, readBlock]
  | case2 rest ih =>
      obtain ⟨⟨_, _⟩, found, same⟩ := Option.map_eq_some_iff.1 read
      cases same
      simp only [List.cons_append, readBlock, ih found]
      rfl
  | case3 c rest noEnd noEscape ih =>
      obtain ⟨⟨_, _⟩, found, same⟩ := Option.map_eq_some_iff.1 read
      cases same
      -- What is left has three characters, which tell the cases of the reading apart.
      obtain ⟨first, second, third, others, rfl⟩ := exists_of_readBlock found
      rw [List.cons_append, readBlock]
      · rw [ih found]
        rfl
      · rintro tail rfl same
        cases same
        exact noEnd _ rfl rfl
      · rintro tail rfl same
        cases same
        exact noEscape _ rfl rfl
  | case4 => cases read

theorem readOpened_append {cs text rest : List Char} (more : List Char)
    (read : readOpened cs = some (text, rest)) :
    readOpened (cs ++ more) = some (text, rest ++ more) := by
  unfold readOpened at read
  split at read
  next c cs =>
      rw [List.cons_append, readOpened]
      split at read
      next ends =>
          obtain ⟨⟨_, _⟩, found, same⟩ := Option.map_eq_some_iff.1 read
          cases same
          rw [if_pos ends, readQuoted_append more found]
          rfl
      next goesOn => rw [if_neg goesOn, ← List.cons_append, readQuoted_append more read]
  next => cases read

theorem readString_append {cs rest more : List Char} {token : Token}
    (read : readString cs = some (token, rest)) (ends : Ends more) :
    readString (cs ++ more) = some (token, rest ++ more) := by
  unfold readString at read
  split at read
  next cs =>
      obtain ⟨⟨_, _⟩, found, same⟩ := Option.map_eq_some_iff.1 read
      cases same
      simp only [List.cons_append, readString, readBlock_append more found]
      rfl
  next noBlock =>
      obtain ⟨⟨_, _⟩, found, same⟩ := Option.map_eq_some_iff.1 read
      cases same
      rw [readString]
      · rw [readOpened_append more found]
        rfl
      · -- The two quotes of a block string cannot come from what stands behind.
        intro tail begins
        rcases cs with _ | ⟨first, _ | ⟨second, others⟩⟩
        · cases found
        · have behind : more = '"' :: tail := (List.cons.inj begins).2
          rw [behind, ends_cons] at ends
          exact absurd ends (by decide)
        · cases begins
          exact noBlock _ rfl

/-! ## Tokens -/

/-- The characters of a name are the same in front of what ends it. -/
theorem takeWhile_isContinue_append (cs : List Char) {more : List Char} (ends : Ends more) :
    (cs ++ more).takeWhile Name.isContinue = cs.takeWhile Name.isContinue ∧
      (cs ++ more).dropWhile Name.isContinue = cs.dropWhile Name.isContinue ++ more := by
  induction cs with
  | nil => exact takeWhile_isContinue rfl ends
  | cons c cs ih =>
      by_cases continues : Name.isContinue c = true
      · simp [continues, ih]
      · simp [continues]

/-- The characters of a numeral are the same in front of what ends it. -/
theorem numeralRun_append_of_ends (sign : Bool) (cs : List Char) {more : List Char}
    (ends : Ends more) :
    numeralRun sign (cs ++ more) = ((numeralRun sign cs).1, (numeralRun sign cs).2 ++ more) := by
  induction cs generalizing sign with
  | nil => exact numeralRun_append rfl ends
  | cons c cs ih =>
      rw [List.cons_append, numeralRun, numeralRun]
      split
      next => rw [ih]
      next => rfl

theorem readName_append {cs rest more : List Char} {token : Token}
    (read : readName cs = some (token, rest)) (ends : Ends more) :
    readName (cs ++ more) = some (token, rest ++ more) := by
  obtain ⟨name, named, same⟩ := Option.map_eq_some_iff.1 read
  cases same
  obtain ⟨run, behind⟩ := takeWhile_isContinue_append cs ends
  rw [readName, run, behind, named]
  rfl

theorem readNumeral_append {cs rest more : List Char} {token : Token}
    (read : readNumeral cs = some (token, rest)) (ends : Ends more) :
    readNumeral (cs ++ more) = some (token, rest ++ more) := by
  obtain ⟨numeral, found, same⟩ := Option.map_eq_some_iff.1 read
  cases same
  rw [readNumeral, numeralRun_append_of_ends true cs ends, found]
  rfl

/-- A token is read in the same way in front of what ends it. -/
theorem readOne_append {cs rest more : List Char} {token : Token}
    (read : readOne cs = some (token, rest)) (ends : Ends more) :
    readOne (cs ++ more) = some (token, rest ++ more) := by
  unfold readOne at read
  split at read
  next => cases read
  next cs => exact readString_append read ends
  next cs =>
      cases read
      rfl
  next c cs noQuote _ =>
      have noPoint : c ≠ '.' := by
        rintro rfl
        cases read
      rw [List.cons_append, readOne_cons _ noQuote noPoint]
      cases written : Punctuator.ofChar? c with
      | some mark =>
          rw [written] at read
          cases read
          rfl
      | none =>
          rw [written] at read
          dsimp only at read ⊢
          split at read
          next start =>
              rw [if_pos start, ← List.cons_append]
              exact readName_append read ends
          next noStart =>
              rw [if_neg noStart]
              split at read
              next digit =>
                  rw [if_pos digit, ← List.cons_append]
                  exact readNumeral_append read ends
              next => cases read

/-! ## Whole texts -/

/-- Whether a text has no comment in it, outside its strings. -/
def isCommentFree (cs : List Char) : Bool :=
  match cs with
  | [] => true
  | c :: rest =>
      if c = ',' || isIgnored c then isCommentFree rest
      else if c = '#' then false
      else
        match _shorter : readOne (c :: rest) with
        | none => true
        | some (_, after) => isCommentFree after
termination_by cs.length
decreasing_by
  · exact Nat.lt_succ_self _
  · exact length_readOne_lt _shorter

/-- A token stands in front of the tokens that what is left spells. -/
theorem Spells.cons_of_readOne {cs rest : List Char} {token : Token} {tokens : List Token}
    (read : readOne cs = some (token, rest)) (spells : Spells rest tokens) :
    Spells cs (token :: tokens) := by
  intro afterComma more ends
  obtain ⟨lexemes, comma, rfl, behind⟩ := spells false more ends
  refine ⟨⟨token, afterComma⟩ :: lexemes, comma, rfl, ?_⟩
  rw [lexemes?_of_readOne (readOne_append read ends), behind, Option.map_map]
  rfl

/-- Whether every comment of a text, outside its strings, ends with its line. -/
def commentsEnd (cs : List Char) : Bool :=
  match cs with
  | [] => true
  | c :: rest =>
      if c = ',' || isIgnored c then commentsEnd rest
      else if c = '#' then !(skipComment rest).isEmpty && commentsEnd (skipComment rest)
      else
        match _shorter : readOne (c :: rest) with
        | none => true
        | some (_, after) => commentsEnd after
termination_by cs.length
decreasing_by
  · exact Nat.lt_succ_self _
  · exact Nat.lt_succ_of_le (length_skipComment_le rest)
  · exact length_readOne_lt _shorter

theorem commentsEnd_of_isCommentFree {cs : List Char} (free : isCommentFree cs = true) :
    commentsEnd cs = true := by
  fun_induction commentsEnd cs with
  | case1 => rfl
  | case2 c rest separates ih =>
      rw [isCommentFree, if_pos separates] at free
      exact ih free
  | case3 rest separates _ =>
      rw [isCommentFree, if_neg separates] at free
      cases free
  | case4 => rfl
  | case5 c rest separates noComment token after one ih =>
      rw [isCommentFree, if_neg separates, if_neg noComment] at free
      refine ih ?_
      split at free
      next none => cases one.symm.trans none
      next found =>
          cases one.symm.trans found
          exact free

/-- More text stays behind a comment that ends. -/
theorem skipComment_append {cs : List Char} (ends : skipComment cs ≠ []) (more : List Char) :
    skipComment (cs ++ more) = skipComment cs ++ more := by
  unfold skipComment at ends ⊢
  rw [List.dropWhile_append, if_neg (mt List.isEmpty_iff.1 ends)]

/-- A comment that does not end takes in more text, as far as its line goes. -/
theorem skipComment_append_of_eq_nil {cs : List Char} (unended : skipComment cs = [])
    (more : List Char) : skipComment (cs ++ more) = skipComment more := by
  unfold skipComment at unended ⊢
  rw [List.dropWhile_append, if_pos (List.isEmpty_iff.2 unended)]

theorem skipComment_eq_nil {cs : List Char} (sameLine : ∀ c ∈ cs, isLineEnd c = false) :
    skipComment cs = [] := by
  induction cs with
  | nil => rfl
  | cons c cs ih =>
      rw [skipComment, List.dropWhile_cons, sameLine c List.mem_cons_self]
      exact ih fun d member => sameLine d (List.mem_cons_of_mem _ member)

theorem lexemes?_comment (afterComma : Bool) (rest : List Char) :
    lexemes? afterComma ('#' :: rest) = lexemes? afterComma (skipComment rest) := by
  rw [lexemes?, if_neg (by decide), if_neg (by decide), if_pos rfl]

/-- A comment that ends is no part of what a text spells. -/
theorem Spells.comment {cs : List Char} {tokens : List Token} (ends : skipComment cs ≠ [])
    (spells : Spells (skipComment cs) tokens) : Spells ('#' :: cs) tokens := by
  intro afterComma more stops
  rw [List.cons_append, lexemes?_comment, skipComment_append ends]
  exact spells afterComma more stops

/-- A text whose comments end spells its tokens. -/
theorem Spells.of_commentsEnd {cs : List Char} {lexemes : List Lexeme} {afterComma : Bool}
    (ends : commentsEnd cs = true) (read : lexemes? afterComma cs = some lexemes) :
    Spells cs (lexemes.map Lexeme.token) := by
  fun_induction lexemes? afterComma cs generalizing lexemes with
  | case1 =>
      cases read
      exact Spells.nil
  | case2 _ rest ih =>
      rw [commentsEnd] at ends
      exact Spells.comma (ih ends read)
  | case3 _ c rest noComma ignored ih =>
      rw [commentsEnd, ignored, Bool.or_true, if_pos rfl] at ends
      exact Spells.ignored ignored (ih ends read)
  | case4 _ rest noComma noIgnored ih =>
      rw [commentsEnd] at ends
      obtain ⟨goesOn, behind⟩ := Bool.and_eq_true_iff.1 ends
      exact Spells.comment (by simpa using goesOn) (ih behind read)
  | case5 => cases read
  | case6 afterComma c rest noComma noIgnored noComment token after one ih =>
      obtain ⟨others, behind, rfl⟩ := Option.map_eq_some_iff.1 read
      have separates : ¬ (c = ',' || isIgnored c) = true := by
        rw [Bool.or_eq_true, decide_eq_true_eq]
        exact not_or.2 ⟨noComma, noIgnored⟩
      rw [commentsEnd, if_neg separates, if_neg noComment] at ends
      refine Spells.cons_of_readOne one (ih ?_ behind)
      split at ends
      next none => cases one.symm.trans none
      next found =>
          cases one.symm.trans found
          exact ends

/-- A text without comments spells its tokens. -/
theorem Spells.of_isCommentFree {cs : List Char} {lexemes : List Lexeme} {afterComma : Bool}
    (free : isCommentFree cs = true) (read : lexemes? afterComma cs = some lexemes) :
    Spells cs (lexemes.map Lexeme.token) :=
  Spells.of_commentsEnd (commentsEnd_of_isCommentFree free) read

/-- Where the last comment does not end, more text on its line changes nothing. -/
theorem lexemes?_append_of_not_commentsEnd {cs more : List Char} {lexemes : List Lexeme}
    {afterComma : Bool} (unended : commentsEnd cs = false) (stops : Ends more)
    (sameLine : ∀ c ∈ more, isLineEnd c = false) (read : lexemes? afterComma cs = some lexemes) :
    lexemes? afterComma (cs ++ more) = some lexemes := by
  fun_induction lexemes? afterComma cs generalizing lexemes with
  | case1 =>
      rw [commentsEnd] at unended
      cases unended
  | case2 _ rest ih =>
      rw [commentsEnd] at unended
      rw [List.cons_append, lexemes?_comma]
      exact ih unended read
  | case3 _ c rest noComma ignored ih =>
      rw [commentsEnd, ignored, Bool.or_true, if_pos rfl] at unended
      rw [List.cons_append, lexemes?_ignored ignored]
      exact ih unended read
  | case4 _ rest noComma noIgnored ih =>
      rw [commentsEnd] at unended
      rw [List.cons_append, lexemes?_comment]
      by_cases last : skipComment rest = []
      · have whole := skipComment_eq_nil sameLine
        rw [last] at read
        rwa [skipComment_append_of_eq_nil last, whole]
      · rw [skipComment_append last]
        have behind : (!(skipComment rest).isEmpty && commentsEnd (skipComment rest)) = false :=
          unended
        exact ih (by simpa [last] using behind) read
  | case5 => cases read
  | case6 afterComma c rest noComma noIgnored noComment token after one ih =>
      obtain ⟨others, behind, rfl⟩ := Option.map_eq_some_iff.1 read
      have separates : ¬ (c = ',' || isIgnored c) = true := by
        rw [Bool.or_eq_true, decide_eq_true_eq]
        exact not_or.2 ⟨noComma, noIgnored⟩
      rw [commentsEnd, if_neg separates, if_neg noComment] at unended
      rw [lexemes?_of_readOne (readOne_append one stops), ih ?_ behind]
      · rfl
      split at unended
      next none => cases one.symm.trans none
      next found =>
          cases one.symm.trans found
          exact unended

end Token

end Subgraph
