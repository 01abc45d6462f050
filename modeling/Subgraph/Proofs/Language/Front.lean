import Subgraph.Proofs.Language.Comment

/-!
# Splitting a text at a token

What a token takes is the front of a text, and it takes the same where something
else stands behind it that begins alike.  So a text can be split at a punctuator
between its lexemes, and what stands in front of it can be read alone.

* `TakesFront` says so of the parts of strings, which nothing behind them changes.
* `exists_front_of_readOne` is the case of one token.
* `exists_split_of_lexemes?` splits a text at a punctuator.
-/

namespace Subgraph

/-- A reading takes the front of a text, and reads that alone as it reads the whole. -/
def TakesFront {α : Type} (read : List Char → Option (α × List Char)) : Prop :=
  ∀ ⦃cs rest : List Char⦄ ⦃found : α⦄, read cs = some (found, rest) →
    ∃ front : List Char, cs = front ++ rest ∧ read front = some (found, [])

namespace Text

theorem takesFront_readFourHex : TakesFront readFourHex := by
  intro cs rest n read
  unfold readFourHex at read
  split at read
  next a b c d rest =>
      obtain ⟨_, value, same⟩ := Option.map_eq_some_iff.1 read
      cases same
      exact ⟨[a, b, c, d], rfl, by rw [readFourHex, value]; rfl⟩
  next => cases read

theorem takesFront_readUnits : TakesFront readUnits := by
  intro cs rest c read
  unfold readUnits at read
  obtain ⟨⟨unit, middle⟩, first, read⟩ := Option.bind_eq_some_iff.1 read
  obtain ⟨front, whole, alone⟩ := takesFront_readFourHex first
  dsimp only at read
  split at read
  next found =>
      cases read
      exact ⟨front, whole, by simp [readUnits, alone, found]⟩
  next none =>
      split at read
      next behind =>
          obtain ⟨⟨low, last⟩, second, read⟩ := Option.bind_eq_some_iff.1 read
          obtain ⟨found, pair, read⟩ := Option.bind_eq_some_iff.1 read
          cases read
          obtain ⟨others, rfl, lowAlone⟩ := takesFront_readFourHex second
          have both := readFourHex_append ('\\' :: 'u' :: others) alone
          refine ⟨front ++ '\\' :: 'u' :: others, by simp [whole], ?_⟩
          simp [readUnits, both, none, lowAlone, pair]
      next => cases read

end Text

namespace Token

/-! ## Runs of characters -/

/-- A text begins as another one does, or is empty. -/
def BeginsLike (more rest : List Char) : Prop := ∀ c ∈ more.head?, c ∈ rest.head?

theorem not_of_mem_head?_dropWhile {p : Char → Bool} {cs : List Char} {c : Char}
    (first : c ∈ (cs.dropWhile p).head?) : p c = false := by
  have stops := List.head?_dropWhile_not p cs
  rwa [Option.mem_def.1 first] at stops

/-- A run ends where something begins that does not go on with it. -/
theorem takeWhile_append_of_stops {p : Char → Bool} (cs : List Char) {more : List Char}
    (stops : ∀ c ∈ more.head?, p c = false) :
    (cs.takeWhile p ++ more).takeWhile p = cs.takeWhile p ∧
      (cs.takeWhile p ++ more).dropWhile p = more := by
  have all := List.all_eq_true.1 (List.all_takeWhile (p := p) (l := cs))
  rw [List.takeWhile_append_of_pos all, List.dropWhile_append_of_pos all]
  cases more with
  | nil => exact ⟨List.append_nil _, rfl⟩
  | cons c more => simp [stops c rfl]

/-! ## Strings -/

theorem takesFront_readBraced : TakesFront readBraced := by
  intro cs rest c read
  unfold readBraced at read
  split at read
  next brace after stops =>
      dsimp only at read
      split at read
      next => cases read
      next some =>
          obtain ⟨_, found, same⟩ := Option.map_eq_some_iff.1 read
          cases same
          have closes : ∀ d ∈ [brace].head?, decide (d ≠ '\x7d') = false := by
            intro d same
            cases same
            have first : brace ∈ (cs.dropWhile fun c => c ≠ '\x7d').head? := by
              rw [stops]
              rfl
            exact not_of_mem_head?_dropWhile first
          obtain ⟨digits, behind⟩ := takeWhile_append_of_stops cs closes
          refine ⟨cs.takeWhile (fun c => c ≠ '\x7d') ++ [brace], ?_, ?_⟩
          · rw [List.append_assoc, List.singleton_append, ← stops,
              List.takeWhile_append_dropWhile]
          · rw [readBraced, digits, behind]
            dsimp only
            rw [if_neg some, found]
            rfl
  next => cases read

theorem takesFront_readEscape : TakesFront readEscape := by
  intro cs rest c read
  unfold readEscape at read
  split at read
  next rest =>
      obtain ⟨front, rfl, alone⟩ := takesFront_readBraced read
      exact ⟨'u' :: '\x7b' :: front, rfl, alone⟩
  next units noBrace =>
      obtain ⟨front, rfl, alone⟩ := Text.takesFront_readUnits read
      refine ⟨'u' :: front, rfl, ?_⟩
      rw [readEscape]
      · exact alone
      · rintro tail rfl
        exact noBrace _ rfl
  next c rest noBraced noUnits =>
      obtain ⟨_, letter, same⟩ := Option.map_eq_some_iff.1 read
      cases same
      refine ⟨[c], rfl, ?_⟩
      rw [readEscape]
      · rw [letter]
        rfl
      · rintro tail rfl same
        cases same
      · rintro rfl
        exact noUnits rfl
  next => cases read

theorem takesFront_readQuoted : TakesFront readQuoted := by
  intro cs rest text read
  fun_induction readQuoted cs generalizing text rest with
  | case1 => cases read
  | case2 rest =>
      cases read
      exact ⟨['"'], rfl, by rw [readQuoted]⟩
  | case3 => cases read
  | case4 rest c next escape ih =>
      obtain ⟨⟨_, _⟩, found, same⟩ := Option.map_eq_some_iff.1 read
      cases same
      obtain ⟨escaped, rfl, first⟩ := takesFront_readEscape escape
      obtain ⟨front, rfl, alone⟩ := ih found
      refine ⟨'\\' :: (escaped ++ front), by simp, ?_⟩
      rw [readQuoted_escape (readEscape_append front first), List.nil_append, alone]
      rfl
  | case5 => cases read
  | case6 c rest noQuote noEscape noLineEnd ih =>
      obtain ⟨⟨_, _⟩, found, same⟩ := Option.map_eq_some_iff.1 read
      cases same
      obtain ⟨front, rfl, alone⟩ := ih found
      refine ⟨c :: front, rfl, ?_⟩
      rw [readQuoted_plain _ noQuote noEscape (Bool.eq_false_iff.2 noLineEnd), alone]
      rfl

theorem takesFront_readBlock : TakesFront readBlock := by
  intro cs rest raw read
  fun_induction readBlock cs generalizing raw rest with
  | case1 rest =>
      cases read
      exact ⟨['"', '"', '"'], rfl, by rw [readBlock]⟩
  | case2 rest ih =>
      obtain ⟨⟨_, _⟩, found, same⟩ := Option.map_eq_some_iff.1 read
      cases same
      obtain ⟨front, rfl, alone⟩ := ih found
      exact ⟨'\\' :: '"' :: '"' :: '"' :: front, rfl, by rw [readBlock, alone]; rfl⟩
  | case3 c rest noEnd noEscape ih =>
      obtain ⟨⟨_, _⟩, found, same⟩ := Option.map_eq_some_iff.1 read
      cases same
      obtain ⟨front, rfl, alone⟩ := ih found
      refine ⟨c :: front, rfl, ?_⟩
      rw [readBlock]
      · rw [alone]
        rfl
      · rintro tail rfl rfl
        exact noEnd _ rfl rfl
      · rintro tail rfl rfl
        exact noEscape _ rfl rfl
  | case4 => cases read

theorem takesFront_readOpened : TakesFront readOpened := by
  intro cs rest text read
  unfold readOpened at read
  split at read
  next c cs =>
      split at read
      next ends =>
          obtain ⟨⟨_, _⟩, found, same⟩ := Option.map_eq_some_iff.1 read
          cases same
          obtain ⟨front, rfl, alone⟩ := takesFront_readQuoted found
          exact ⟨c :: front, rfl, by rw [readOpened, if_pos ends, alone]; rfl⟩
      next goesOn =>
          obtain ⟨front, whole, alone⟩ := takesFront_readQuoted read
          refine ⟨front, whole, ?_⟩
          cases front with
          | nil =>
              rw [readQuoted] at alone
              cases alone
          | cons d front =>
              cases whole
              rw [readOpened, if_neg goesOn, alone]
  next => cases read


/-- A string takes the front of a text, unless what stands behind it makes it a block string. -/
theorem exists_front_of_readString {cs rest : List Char} {token : Token}
    (read : readString cs = some (token, rest)) :
    ∃ front : List Char, cs = front ++ rest ∧
      ∀ more : List Char, BeginsLike more rest →
        readString (front ++ more) = some (token, more) := by
  unfold readString at read
  split at read
  next cs =>
      obtain ⟨⟨raw, _⟩, found, same⟩ := Option.map_eq_some_iff.1 read
      cases same
      obtain ⟨front, rfl, alone⟩ := takesFront_readBlock found
      refine ⟨'"' :: '"' :: front, rfl, fun more _ => ?_⟩
      rw [List.cons_append, List.cons_append, readString, readBlock_append more alone]
      rfl
  next noBlock =>
      obtain ⟨⟨text, _⟩, found, same⟩ := Option.map_eq_some_iff.1 read
      cases same
      obtain ⟨front, rfl, alone⟩ := takesFront_readOpened found
      refine ⟨front, rfl, fun more alike => ?_⟩
      rw [readString]
      · rw [readOpened_append more alone]
        rfl
      · intro tail begins
        rcases front with _ | ⟨first, _ | ⟨second, others⟩⟩
        · cases alone
        · -- The second quote is where `rest` begins, too.
          cases begins
          obtain ⟨tail, same⟩ := List.head?_eq_some_iff.1 (alike '"' rfl)
          rw [same] at noBlock
          exact noBlock tail rfl
        · cases begins
          exact noBlock _ rfl

/-! ## Tokens -/

/-- A numeral takes the front of a text. -/
theorem exists_front_of_numeralRun {sign : Bool} {cs run rest : List Char}
    (read : numeralRun sign cs = (run, rest)) :
    cs = run ++ rest ∧
      ∀ more : List Char, BeginsLike more rest → numeralRun sign (run ++ more) = (run, more) := by
  fun_induction numeralRun sign cs generalizing run rest with
  | case1 sign c others takes inner last same ih =>
      cases read
      obtain ⟨rfl, alone⟩ := ih same
      refine ⟨rfl, fun more alike => ?_⟩
      rw [List.cons_append, numeralRun, if_pos takes, alone more alike]
  | case2 sign c others stops =>
      cases read
      refine ⟨rfl, fun more alike => ?_⟩
      cases more with
      | nil => rfl
      | cons d more =>
          cases alike d rfl
          rw [List.nil_append, numeralRun, if_neg stops]
  | case3 sign =>
      cases read
      refine ⟨rfl, fun more alike => ?_⟩
      cases more with
      | nil => rfl
      | cons d more => cases alike d rfl

theorem exists_front_of_readNumeral {cs rest : List Char} {token : Token}
    (read : readNumeral cs = some (token, rest)) :
    ∃ front : List Char, cs = front ++ rest ∧
      ∀ more : List Char, BeginsLike more rest →
        readNumeral (front ++ more) = some (token, more) := by
  obtain ⟨numeral, found, same⟩ := Option.map_eq_some_iff.1 read
  cases same
  have run : numeralRun true cs = ((numeralRun true cs).1, (numeralRun true cs).2) := rfl
  obtain ⟨whole, alone⟩ := exists_front_of_numeralRun run
  refine ⟨(numeralRun true cs).1, whole, fun more alike => ?_⟩
  rw [readNumeral, alone more alike, found]
  rfl

theorem exists_front_of_readName {cs rest : List Char} {token : Token}
    (read : readName cs = some (token, rest)) :
    ∃ front : List Char, cs = front ++ rest ∧
      ∀ more : List Char, BeginsLike more rest → readName (front ++ more) = some (token, more) := by
  obtain ⟨name, named, same⟩ := Option.map_eq_some_iff.1 read
  cases same
  refine ⟨cs.takeWhile Name.isContinue, List.takeWhile_append_dropWhile.symm, fun more alike => ?_⟩
  obtain ⟨run, behind⟩ := takeWhile_append_of_stops cs fun c first =>
    not_of_mem_head?_dropWhile (alike c first)
  rw [readName, run, behind, named]
  rfl

/-- A token takes the front of a text, and takes it in front of what begins alike. -/
theorem exists_front_of_readOne {cs rest : List Char} {token : Token}
    (read : readOne cs = some (token, rest)) :
    ∃ front : List Char, cs = front ++ rest ∧
      ∀ more : List Char, BeginsLike more rest → readOne (front ++ more) = some (token, more) := by
  have shorter := length_readOne_lt read
  unfold readOne at read
  split at read
  next => cases read
  next cs =>
      obtain ⟨front, rfl, alone⟩ := exists_front_of_readString read
      exact ⟨'"' :: front, rfl, alone⟩
  next cs =>
      cases read
      exact ⟨['.', '.', '.'], rfl, fun _ _ => rfl⟩
  next c cs _ _ =>
      -- What is taken begins with the same character, since something is.
      have begins {front : List Char} (whole : c :: cs = front ++ rest) :
          ∃ others, front = c :: others := by
        cases front with
        | nil =>
            rw [whole] at shorter
            exact absurd shorter (Nat.lt_irrefl _)
        | cons d others =>
            cases whole
            exact ⟨others, rfl⟩
      cases written : Punctuator.ofChar? c with
      | some mark =>
          rw [written] at read
          cases read
          exact ⟨[c], rfl, fun more _ => readOne_punctuator more written⟩
      | none =>
          rw [written] at read
          dsimp only at read
          split at read
          next start =>
              obtain ⟨front, whole, alone⟩ := exists_front_of_readName read
              obtain ⟨others, rfl⟩ := begins whole
              exact ⟨c :: others, whole, fun more alike =>
                (readOne_of_isStart _ start).trans (alone more alike)⟩
          next noStart =>
              split at read
              next digit =>
                  obtain ⟨front, whole, alone⟩ := exists_front_of_readNumeral read
                  obtain ⟨others, rfl⟩ := begins whole
                  exact ⟨c :: others, whole, fun more alike =>
                    (readOne_of_isDigit _ (by simpa using digit)).trans (alone more alike)⟩
              next => cases read

/-! ## Splitting at a punctuator -/

theorem token_ne_of_readString {cs rest : List Char} {token : Token}
    (read : readString cs = some (token, rest)) (mark : Punctuator) :
    token ≠ .punctuator mark := by
  unfold readString at read
  split at read <;>
  · obtain ⟨_, _, same⟩ := Option.map_eq_some_iff.1 read
    cases same
    simp

theorem token_ne_of_readName {cs rest : List Char} {token : Token}
    (read : readName cs = some (token, rest)) (mark : Punctuator) :
    token ≠ .punctuator mark := by
  obtain ⟨_, _, same⟩ := Option.map_eq_some_iff.1 read
  cases same
  simp

theorem token_ne_of_readNumeral {cs rest : List Char} {token : Token}
    (read : readNumeral cs = some (token, rest)) (mark : Punctuator) :
    token ≠ .punctuator mark := by
  obtain ⟨numeral, found, same⟩ := Option.map_eq_some_iff.1 read
  cases same
  unfold numeral? at found
  split at found
  next =>
      cases found
      simp
  next =>
      split at found
      next =>
          cases found
          simp
      next => cases found

/-- A punctuator of one character takes that character. -/
theorem exists_of_readOne_punctuator {cs rest : List Char} {mark : Punctuator}
    (read : readOne cs = some (.punctuator mark, rest)) (single : mark ≠ .spread) :
    ∃ c : Char, cs = c :: rest ∧ Punctuator.ofChar? c = some mark := by
  unfold readOne at read
  split at read
  next => cases read
  next => exact absurd rfl (token_ne_of_readString read mark)
  next =>
      cases read
      exact absurd rfl single
  next c cs _ _ =>
      split at read
      next written =>
          cases read
          exact ⟨c, rfl, written⟩
      next =>
          split at read
          next => exact absurd rfl (token_ne_of_readName read mark)
          next =>
              split at read
              next => exact absurd rfl (token_ne_of_readNumeral read mark)
              next => cases read

theorem isLineEnd_eq_false_of_ofChar? {c : Char} {mark : Punctuator}
    (written : Punctuator.ofChar? c = some mark) : isLineEnd c = false :=
  isLineEnd_eq_false (by rintro rfl; cases written) (by rintro rfl; cases written)

/-- A comment in front of a character that ends no line has ended before it, so it stays the same
where the text ends there. -/
theorem exists_comment_of_skipComment {cs before after : List Char} {c : Char}
    (rest : skipComment cs = before ++ c :: after) (goesOn : isLineEnd c = false) :
    ∃ comment : List Char, cs = comment ++ (before ++ c :: after) ∧ before ≠ [] ∧
      skipComment (comment ++ before) = before := by
  have whole : (cs.dropWhile fun c => !isLineEnd c) = before ++ c :: after := rest
  have ends {d : Char} (first : d ∈ (before ++ c :: after).head?) : isLineEnd d = true := by
    rw [← whole] at first
    simpa using not_of_mem_head?_dropWhile first
  have some : before ≠ [] := by
    rintro rfl
    rw [ends rfl] at goesOn
    cases goesOn
  refine ⟨cs.takeWhile fun c => !isLineEnd c, ?_, some, ?_⟩
  · rw [← whole, List.takeWhile_append_dropWhile]
  · refine (takeWhile_append_of_stops cs fun d first => ?_).2
    cases before with
    | nil => exact absurd rfl some
    | cons e before => rw [ends first, Bool.not_true]

/-- Where a token can be read, its comments are those behind it. -/
theorem commentsEnd_of_readOne {cs rest : List Char} {token : Token}
    (read : readOne cs = some (token, rest)) : commentsEnd cs = commentsEnd rest := by
  cases cs with
  | nil => cases read
  | cons c cs =>
      have noComma : c ≠ ',' := by
        rintro rfl
        cases read
      have noIgnored : isIgnored c = false := by
        refine Bool.eq_false_iff.2 fun ignored => ?_
        rw [readOne_eq_none_of_isIgnored cs ignored] at read
        cases read
      have noComment : c ≠ '#' := by
        rintro rfl
        cases read
      rw [commentsEnd, noIgnored, if_neg (by simpa using noComma), if_neg noComment]
      split
      next none => cases read.symm.trans none
      next found =>
          cases read.symm.trans found
          rfl

/-- A text is split at a punctuator between its lexemes.  What stands in front of it has its
comments end, since the punctuator is in none of them. -/
theorem exists_split_of_lexemes? {mark : Punctuator} (single : mark ≠ .spread) {cs : List Char}
    {afterComma comma : Bool} {front back : List Lexeme}
    (read : lexemes? afterComma cs = some (front ++ ⟨.punctuator mark, comma⟩ :: back)) :
    ∃ (before : List Char) (c : Char) (after : List Char), cs = before ++ c :: after ∧
      Punctuator.ofChar? c = some mark ∧ commentsEnd before = true ∧
      lexemes? afterComma before = some front ∧ lexemes? false after = some back := by
  fun_induction lexemes? afterComma cs generalizing front with
  | case1 => simp at read
  | case2 _ rest ih =>
      obtain ⟨before, c, after, rfl, written, ends, first, last⟩ := ih read
      refine ⟨',' :: before, c, after, rfl, written, ?_, ?_, last⟩
      · rw [commentsEnd]
        exact ends
      · rw [lexemes?_comma, first]
  | case3 _ d rest noComma ignored ih =>
      obtain ⟨before, c, after, rfl, written, ends, first, last⟩ := ih read
      refine ⟨d :: before, c, after, rfl, written, ?_, ?_, last⟩
      · rw [commentsEnd, ignored, Bool.or_true, if_pos rfl]
        exact ends
      · rw [lexemes?_ignored ignored, first]
  | case4 _ rest noComma noIgnored ih =>
      obtain ⟨before, c, after, behind, written, ends, first, last⟩ := ih read
      obtain ⟨comment, rfl, some, skips⟩ :=
        exists_comment_of_skipComment behind (isLineEnd_eq_false_of_ofChar? written)
      refine ⟨'#' :: (comment ++ before), c, after, by simp, written, ?_, ?_, last⟩
      · rw [commentsEnd, if_neg (by decide), if_pos rfl, skips, ends]
        simpa using some
      · rw [lexemes?_comment, skips, first]
  | case5 => cases read
  | case6 afterComma d rest noComma noIgnored noComment token after one ih =>
      obtain ⟨others, behind, same⟩ := Option.map_eq_some_iff.1 read
      cases front with
      | nil =>
          cases same
          obtain ⟨c, whole, written⟩ := exists_of_readOne_punctuator one single
          refine ⟨[], c, after, whole, written, ?_, lexemes?_nil _, behind⟩
          rw [commentsEnd]
      | cons lexeme front =>
          cases same
          obtain ⟨before, c, last, rfl, written, ends, first, later⟩ := ih behind
          obtain ⟨taken, whole, again⟩ := exists_front_of_readOne one
          have alike : BeginsLike before (before ++ c :: last) := by
            cases before with
            | nil => simp [BeginsLike]
            | cons e before => exact fun _ same => same
          have alone := again before alike
          refine ⟨taken ++ before, c, last, ?_, written, ?_, ?_, later⟩
          · rw [whole, List.append_assoc]
          · rwa [commentsEnd_of_readOne alone]
          · rw [lexemes?_of_readOne alone, first]
            rfl

end Token

end Subgraph
