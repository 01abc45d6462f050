import Mathlib
import Subgraph.Json.Printer
import Subgraph.Json.Reader
import Subgraph.Proofs.Decimal.Shortest

/-!
# Number texts

An integer of 64 bits and a double are read back from their texts.

* `NumberText.spelling` is how a number is written in a text, and
  `readNumber_spelling` says that it is read there.  What comes behind it must not
  go on with the number, which `EndsNumber` says.
* `exists_spelling_int` and `exists_spelling_double` are the texts of the two
  kinds of numbers.
-/

namespace Subgraph

namespace Json

/-! ## Digits -/

/-- The digits of a number begin with no zero. -/
theorem head?_toDigits_ne {n : Nat} (nonzero : n ≠ 0) :
    (Nat.toDigits 10 n).head? ≠ some '0' := by
  have digit : ∀ n < 10, n ≠ 0 → [n.digitChar].head? ≠ some '0' := by decide
  induction n using Nat.strongRecOn with
  | _ n ih =>
      rcases Nat.lt_or_ge n 10 with single | more
      · rw [Nat.toDigits_of_lt_base single]
        exact digit n single nonzero
      · rw [Nat.toDigits_of_base_le (by decide) more,
          List.head?_append_of_ne_nil _ Nat.toDigits_ne_nil]
        exact ih (n / 10) (by omega) (by omega)

theorem isDigit_toDigits (n : Nat) : ∀ c ∈ Nat.toDigits 10 n, c.isDigit = true :=
  fun _ => Nat.isDigit_of_mem_toDigits (by decide) (by decide)

@[simp] theorem digitsValue_toDigits (n : Nat) : digitsValue (Nat.toDigits 10 n) = n :=
  Nat.ofDigitChars_ten_toDigits

/-- Zeros in front add nothing. -/
theorem digitsValue_zeros_append (zeros : Nat) (digits : List Char) :
    digitsValue (List.replicate zeros '0' ++ digits) = digitsValue digits := by
  induction zeros with
  | zero => rfl
  | succ zeros ih => exact ih

/-- Each zero behind is a factor of ten. -/
theorem digitsValue_append_zeros (digits : List Char) (zeros : Nat) :
    digitsValue (digits ++ List.replicate zeros '0') = digitsValue digits * 10 ^ zeros := by
  induction zeros with
  | zero => simp
  | succ zeros ih =>
      rw [List.replicate_succ', ← List.append_assoc]
      unfold digitsValue at ih ⊢
      rw [List.foldl_append, ih]
      simp [pow_succ]
      ring

/-- Digits that begin with no zero are an integer part, and so are the first of them. -/
theorem isIntegerPart_take {n : Nat} (nonzero : n ≠ 0) {count : Nat} (some_digit : 0 < count)
    (rest : List Char) : isIntegerPart ((Nat.toDigits 10 n).take count ++ rest) = true := by
  have first := head?_toDigits_ne nonzero
  obtain ⟨count, rfl⟩ := Nat.exists_eq_add_one.2 some_digit
  cases all : Nat.toDigits 10 n with
  | nil => exact absurd all Nat.toDigits_ne_nil
  | cons c others =>
      rw [all, List.head?_cons, Ne, Option.some.injEq] at first
      rw [List.take_succ_cons, List.cons_append]
      unfold isIntegerPart
      split <;> simp_all

theorem isIntegerPart_toDigits (n : Nat) : isIntegerPart (Nat.toDigits 10 n) = true := by
  by_cases zero : n = 0
  · rw [zero]
    rfl
  · have some_digit : 0 < (Nat.toDigits 10 n).length := Nat.length_toDigits_pos
    have whole := isIntegerPart_take zero some_digit []
    rwa [List.take_length, List.append_nil] at whole

/-! ## Numbers as they are written -/

/-- The text of an exponent. -/
def exponentText : Option Int → List Char
  | none => []
  | some power => 'e' :: (if power < 0 then '-' else '+') :: Nat.toDigits 10 power.natAbs

/-- The text of a number. -/
def NumberText.spelling (number : NumberText) : List Char :=
  (if number.negative then ['-'] else []) ++ number.integer ++
    (if number.fraction.isEmpty then [] else '.' :: number.fraction) ++
      exponentText number.exponent

/-- A number has digits where it should. -/
structure NumberText.IsSpelled (number : NumberText) : Prop where
  integerPart : isIntegerPart number.integer = true
  integer : ∀ c ∈ number.integer, c.isDigit = true
  fraction : ∀ c ∈ number.fraction, c.isDigit = true

/-- A text does not go on with the number before it. -/
def EndsNumber (rest : List Char) : Prop :=
  ∀ c ∈ rest.head?, c.isDigit = false ∧ c ≠ '.' ∧ c ≠ 'e' ∧ c ≠ 'E'

theorem endsNumber_nil : EndsNumber [] := by simp [EndsNumber]

theorem endsNumber_cons {c : Char} {rest : List Char} :
    EndsNumber (c :: rest) ↔ c.isDigit = false ∧ c ≠ '.' ∧ c ≠ 'e' ∧ c ≠ 'E' := by
  simp [EndsNumber]

/-- A number begins with a minus or a digit. -/
theorem NumberText.IsSpelled.exists_eq_cons {number : NumberText} (spelled : number.IsSpelled) :
    ∃ c others, number.spelling = c :: others ∧ (c = '-' ∨ c.isDigit = true) := by
  obtain ⟨negative, integer, fraction, power⟩ := number
  cases negative with
  | true => exact ⟨'-', _, rfl, .inl rfl⟩
  | false =>
      cases integer with
      | nil => cases spelled.integerPart
      | cons c integer => exact ⟨c, _, rfl, .inr (spelled.integer c List.mem_cons_self)⟩

theorem spanDigits_append {digits rest : List Char} (each : ∀ c ∈ digits, c.isDigit = true)
    (stops : ∀ c ∈ rest.head?, c.isDigit = false) :
    spanDigits (digits ++ rest) = (digits, rest) := by
  unfold spanDigits
  rw [List.takeWhile_append_of_pos each, List.dropWhile_append_of_pos each]
  cases rest with
  | nil => simp
  | cons c rest =>
      have noDigit := stops c rfl
      simp [noDigit]

theorem isDigit_exponentText (power : Option Int) {rest : List Char} (ends : EndsNumber rest) :
    ∀ c ∈ (exponentText power ++ rest).head?, c.isDigit = false ∧ c ≠ '.' := by
  cases power with
  | none => exact fun c first => ⟨(ends c first).1, (ends c first).2.1⟩
  | some power =>
      rintro c first
      obtain rfl : 'e' = c := Option.some.inj first
      decide

/-- An exponent is read where it is written. -/
theorem readExponent_exponentText (power : Option Int) {rest : List Char}
    (ends : EndsNumber rest) :
    readExponent (exponentText power ++ rest) = some (power, rest) := by
  have stops : ∀ c ∈ rest.head?, c.isDigit = false := fun c first => (ends c first).1
  cases power with
  | none =>
      cases rest with
      | nil => rfl
      | cons c rest =>
          obtain ⟨_, _, notSmall, notGreat⟩ := ends c rfl
          simp [exponentText, readExponent, notSmall, notGreat]
  | some power =>
      have digits := isDigit_toDigits power.natAbs
      by_cases negative : power < 0
      · simp [exponentText, readExponent, negative, spanDigits_append digits stops,
          Nat.toDigits_ne_nil, abs_of_neg negative]
      · simp [exponentText, readExponent, negative, spanDigits_append digits stops,
          Nat.toDigits_ne_nil, abs_of_nonneg (Int.not_lt.1 negative)]

/-- So are the digits after the point. -/
theorem readFraction_spelling {fraction : List Char} (places : ∀ c ∈ fraction, c.isDigit = true)
    {rest : List Char} (ends : ∀ c ∈ rest.head?, c.isDigit = false ∧ c ≠ '.') :
    readFraction ((if fraction.isEmpty then [] else '.' :: fraction) ++ rest) =
      some (fraction, rest) := by
  cases fraction with
  | nil =>
      cases rest with
      | nil => rfl
      | cons c rest =>
          have noPoint := (ends c rfl).2
          simp [readFraction, noPoint]
  | cons c fraction =>
      have stops := spanDigits_append places fun c first => (ends c first).1
      simp only [List.isEmpty_cons, Bool.false_eq_true, if_false]
      rw [List.cons_append, readFraction, stops]
      rfl

/-- A number is read where it is written. -/
theorem readNumber_spelling {number : NumberText} (spelled : number.IsSpelled) {rest : List Char}
    (ends : EndsNumber rest) : readNumber (number.spelling ++ rest) = some (number, rest) := by
  obtain ⟨negative, integer, fraction, power⟩ := number
  obtain ⟨integerPart, digits, places⟩ := spelled
  dsimp only at integerPart digits places
  have last := isDigit_exponentText power ends
  have span :
      spanDigits (integer ++
        ((if fraction.isEmpty then [] else '.' :: fraction) ++ (exponentText power ++ rest))) =
      (integer,
        (if fraction.isEmpty then [] else '.' :: fraction) ++ (exponentText power ++ rest)) := by
    refine spanDigits_append digits fun c first => ?_
    cases fraction with
    | nil => exact (last c first).1
    | cons =>
        obtain rfl : '.' = c := Option.some.inj first
        rfl
  have sign (after : List Char) :
      readSign ((if negative then ['-'] else []) ++ (integer ++ after)) =
        (negative, integer ++ after) := by
    cases negative with
    | true => rfl
    | false =>
        cases integer with
        | nil => cases integerPart
        | cons c integer =>
            have notMinus : c ≠ '-' := by
              rintro rfl
              exact absurd (digits '-' List.mem_cons_self) (by decide)
            rw [if_neg Bool.false_ne_true, List.nil_append, List.cons_append, readSign]
            exact fun _ same => notMinus (List.cons.inj same).1
  unfold readNumber NumberText.spelling
  simp only [List.append_assoc]
  rw [sign]
  dsimp only
  rw [span]
  rw [readFraction_spelling places last, integerPart]
  simp only [guard_true, Option.pure_def, Option.bind_eq_bind, Option.bind_some,
    readExponent_exponentText power ends]

/-! ## Integers -/

/-- The integers of 64 bits, with a sign or without. -/
def IsInt64 (n : Int) : Prop := -2 ^ 63 ≤ n ∧ n < 2 ^ 64

instance (n : Int) : Decidable (IsInt64 n) := inferInstanceAs (Decidable (_ ∧ _))

/-- An integer is read in its text. -/
theorem exists_spelling_int {n : Int} (bounded : IsInt64 n) :
    ∃ number : NumberText, number.IsSpelled ∧ (intText n).toList = number.spelling ∧
      number.value? = some (.int n) := by
  obtain ⟨least, most⟩ := bounded
  refine ⟨⟨decide (n < 0), Nat.toDigits 10 n.natAbs, [], none⟩,
    ⟨isIntegerPart_toDigits _, isDigit_toDigits _, by simp⟩, ?_, ?_⟩
  · cases n with
    | ofNat n => simp [intText, DecimalFormat.digitText, NumberText.spelling, exponentText]
    | negSucc n =>
        have below : Int.negSucc n < 0 := Int.negSucc_lt_zero n
        simp [intText, DecimalFormat.digitText, NumberText.spelling, exponentText, below]
  · unfold NumberText.value?
    dsimp only
    rw [if_pos ⟨rfl, rfl⟩, digitsValue_toDigits]
    by_cases below : n < 0
    · have sign : -(n.natAbs : Int) = n := by omega
      have magnitude : 0 < n.natAbs ∧ n.natAbs ≤ Nat.pow 2 63 := by
        rw [Nat.pow_eq]
        omega
      rw [if_pos (decide_eq_true below), if_pos magnitude, sign]
    · have sign : (n.natAbs : Int) = n := by omega
      have magnitude : n.natAbs < Nat.pow 2 64 := by
        rw [Nat.pow_eq]
        omega
      rw [if_neg (by simpa using below), if_pos magnitude, sign]

/-! ## Doubles -/

/-- The magnitude of a number. -/
def NumberText.magnitude (number : NumberText) : ℚ :=
  digitsValue (number.integer ++ number.fraction) *
    10 ^ (number.exponent.getD 0 - number.fraction.length)

/-- A text is a number without a sign, which is no integer even if its magnitude is one. -/
structure SpellsDecimal (text : String) (magnitude : ℚ) (number : NumberText) : Prop where
  spelled : number.IsSpelled
  text : text.toList = number.spelling
  magnitude : number.magnitude = magnitude
  unsigned : number.negative = false
  decimal : ¬ (number.fraction.isEmpty ∧ number.exponent.isNone)

variable {digits : Nat}

/-- Digits behind the point, with zeros in front. -/
theorem spellsDecimal_before {exponent : Int}
    (before : ((Nat.toDigits 10 digits).length : Int) + exponent ≤ 0) :
    SpellsDecimal (DecimalFormat.positional digits exponent) (digits * 10 ^ exponent)
      ⟨false, ['0'], List.replicate (-((Nat.toDigits 10 digits).length + exponent)).toNat '0' ++
        Nat.toDigits 10 digits, none⟩ where
  spelled := by
    refine ⟨rfl, by simp, fun c inside => ?_⟩
    rcases List.mem_append.1 inside with zero | digit
    · rw [List.eq_of_mem_replicate zero]
      rfl
    · exact isDigit_toDigits digits c digit
  text := by
    rw [DecimalFormat.positional, if_pos before]
    simp [NumberText.spelling, exponentText, DecimalFormat.zeros, Nat.toDigits_ne_nil]
  magnitude := by
    have places : (0 - ((-((Nat.toDigits 10 digits).length + exponent)).toNat +
        (Nat.toDigits 10 digits).length : Nat) : Int) = exponent := by
      omega
    rw [NumberText.magnitude, ← List.replicate_one, ← List.append_assoc,
      List.replicate_append_replicate, digitsValue_zeros_append, digitsValue_toDigits]
    simp only [Option.getD_none, List.length_append, List.length_replicate, places]
  unsigned := rfl
  decimal := by simp [Nat.toDigits_ne_nil]

/-- Digits around the point. -/
theorem spellsDecimal_inside (nonzero : digits ≠ 0) {exponent : Int}
    (inside : 0 < ((Nat.toDigits 10 digits).length : Int) + exponent) (negative : exponent < 0) :
    SpellsDecimal (DecimalFormat.positional digits exponent) (digits * 10 ^ exponent)
      ⟨false, (Nat.toDigits 10 digits).take ((Nat.toDigits 10 digits).length + exponent).toNat,
        (Nat.toDigits 10 digits).drop ((Nat.toDigits 10 digits).length + exponent).toNat,
        none⟩ where
  spelled := by
    refine ⟨?_, fun c among => isDigit_toDigits digits c (List.mem_of_mem_take among),
      fun c among => isDigit_toDigits digits c (List.mem_of_mem_drop among)⟩
    have some_place : 0 < (((Nat.toDigits 10 digits).length : Int) + exponent).toNat := by omega
    have first := isIntegerPart_take nonzero some_place []
    rwa [List.append_nil] at first
  text := by
    have some_place : ¬ (Nat.toDigits 10 digits).length ≤
        ((Nat.toDigits 10 digits).length + exponent).toNat := by
      omega
    rw [DecimalFormat.positional, if_neg (by omega), if_pos negative]
    simp [NumberText.spelling, exponentText, some_place]
  magnitude := by
    have places : (0 - ((Nat.toDigits 10 digits).length -
        ((Nat.toDigits 10 digits).length + exponent).toNat : Nat) : Int) = exponent := by
      omega
    rw [NumberText.magnitude, List.take_append_drop, digitsValue_toDigits]
    simp only [Option.getD_none, List.length_drop, places]
  unsigned := rfl
  decimal := by
    simp only [List.isEmpty_iff, List.drop_eq_nil_iff]
    omega

/-- Digits before the point, with zeros behind. -/
theorem spellsDecimal_behind (nonzero : digits ≠ 0) {exponent : Int} (positive : 0 ≤ exponent) :
    SpellsDecimal (DecimalFormat.positional digits exponent) (digits * 10 ^ exponent)
      ⟨false, Nat.toDigits 10 digits ++ List.replicate exponent.toNat '0', ['0'], none⟩ where
  spelled := by
    have some_digit : 0 < (Nat.toDigits 10 digits).length := Nat.length_toDigits_pos
    refine ⟨?_, fun c among => ?_, by simp⟩
    · have first := isIntegerPart_take nonzero some_digit (List.replicate exponent.toNat '0')
      rwa [List.take_length] at first
    · rcases List.mem_append.1 among with digit | zero
      · exact isDigit_toDigits digits c digit
      · rw [List.eq_of_mem_replicate zero]
        rfl
  text := by
    have some_digit : 0 < (Nat.toDigits 10 digits).length := Nat.length_toDigits_pos
    rw [DecimalFormat.positional, if_neg (by omega), if_neg (by omega)]
    simp [NumberText.spelling, exponentText, DecimalFormat.zeros]
  magnitude := by
    obtain ⟨zeros, rfl⟩ := Int.eq_ofNat_of_zero_le positive
    rw [NumberText.magnitude, ← List.replicate_one, List.append_assoc,
      List.replicate_append_replicate, digitsValue_append_zeros, digitsValue_toDigits]
    simp [pow_succ, ← mul_assoc]
  unsigned := rfl
  decimal := by simp

/-- Digits with the point behind the first, and a power. -/
theorem spellsDecimal_scientific (nonzero : digits ≠ 0) (exponent : Int) :
    SpellsDecimal (DecimalFormat.scientific digits exponent) (digits * 10 ^ exponent)
      ⟨false, (Nat.toDigits 10 digits).take 1, (Nat.toDigits 10 digits).drop 1,
        some ((Nat.toDigits 10 digits).length - 1 + exponent)⟩ where
  spelled := by
    refine ⟨?_, fun c among => isDigit_toDigits digits c (List.mem_of_mem_take among),
      fun c among => isDigit_toDigits digits c (List.mem_of_mem_drop among)⟩
    have first := isIntegerPart_take nonzero Nat.one_pos []
    rwa [List.append_nil] at first
  text := by
    unfold DecimalFormat.scientific NumberText.spelling exponentText
    dsimp only
    rw [DecimalFormat.digitText, if_neg Bool.false_ne_true]
    split_ifs <;> simp
  magnitude := by
    have some_digit : 0 < (Nat.toDigits 10 digits).length := Nat.length_toDigits_pos
    have places : (((Nat.toDigits 10 digits).length : Int) - 1 + exponent -
        ((Nat.toDigits 10 digits).length - 1 : Nat)) = exponent := by
      omega
    rw [NumberText.magnitude, List.take_append_drop, digitsValue_toDigits]
    simp only [Option.getD_some, List.length_drop, places]
  unsigned := rfl
  decimal := by simp

/-- The two layouts. -/
theorem exists_spellsDecimal (format : DecimalFormat) (nonzero : digits ≠ 0)
    (exponent power : Int) : ∃ number, SpellsDecimal
      (if format.least ≤ power ∧ power < format.bound then DecimalFormat.positional digits exponent
        else DecimalFormat.scientific digits exponent) (digits * 10 ^ exponent) number := by
  split
  · rcases lt_or_ge 0 (((Nat.toDigits 10 digits).length : Int) + exponent) with inside | before
    · rcases lt_or_ge exponent 0 with negative | positive
      · exact ⟨_, spellsDecimal_inside nonzero inside negative⟩
      · exact ⟨_, spellsDecimal_behind nonzero positive⟩
    · exact ⟨_, spellsDecimal_before before⟩
  · exact ⟨_, spellsDecimal_scientific nonzero exponent⟩

/-- A number with a sign denotes the double that covers it. -/
theorem SpellsDecimal.value?_eq {x : Double} {text : String} {magnitude : ℚ} {number : NumberText}
    (spells : SpellsDecimal text magnitude number) (covers : x.Covers magnitude)
    (nonzero : x.significand ≠ 0) :
    NumberText.value? ⟨x.negative, number.integer, number.fraction, number.exponent⟩ =
      some (.double x) := by
  unfold NumberText.value?
  dsimp only
  rw [if_neg spells.decimal]
  rw [← spells.magnitude] at covers
  rw [Double.ofDecimal?_eq covers nonzero]
  rfl

/-- A double is read in its text, whatever the layout. -/
theorem exists_spelling_double (format : DecimalFormat) (x : Double) :
    ∃ number : NumberText, number.IsSpelled ∧ (format.write x).toList = number.spelling ∧
      number.value? = some (.double x) := by
  by_cases zero : x.significand = 0
  · have isZero : x = .zero x.negative := by
      obtain ⟨negative, significand, exponent, canonical⟩ := x
      obtain rfl : significand = 0 := zero
      obtain rfl : exponent = -1074 := canonical.2.2.2.resolve_right (by decide)
      rfl
    rw [isZero]
    generalize x.negative = negative
    refine ⟨⟨negative, ['0'], ['0'], none⟩, ⟨rfl, by simp, by simp⟩, ?_, ?_⟩
    · cases negative <;>
        simp [DecimalFormat.write, Double.shortest, Double.zero, NumberText.spelling, exponentText]
    · rw [NumberText.value?, if_neg (by simp)]
      exact congrArg (Option.map Json.double) (Double.ofDecimal?_zero negative _)
  · have covers := x.covers_shortest zero
    have digits_ne : x.shortest.1 ≠ 0 := by
      intro none
      have positive := covers.positive zero
      rw [none] at positive
      simp at positive
    obtain ⟨number, spells⟩ := exists_spellsDecimal format digits_ne x.shortest.2
      ((Nat.toDigits 10 x.shortest.1).length - 1 + x.shortest.2)
    refine ⟨⟨x.negative, number.integer, number.fraction, number.exponent⟩,
      ⟨spells.spelled.1, spells.spelled.2, spells.spelled.3⟩, ?_, spells.value?_eq covers zero⟩
    have text := spells.text
    unfold DecimalFormat.write
    dsimp only
    rw [if_neg digits_ne]
    rw [NumberText.spelling, spells.unsigned, if_neg Bool.false_ne_true] at text
    cases negative : x.negative with
    | false =>
        rw [if_neg Bool.false_ne_true, text]
        rfl
    | true =>
        rw [if_pos rfl, String.toList_append, text]
        rfl

end Json

end Subgraph
