import Mathlib
import Subgraph.Decimal.Shortest

/-!
# Decimals that read back

A double is the one nearest to each decimal between the midpoints to its
neighbours.  So the shortest decimal of a double reads back as it.

* `Double.Covers` says that a rational number lies between those midpoints.
* `Double.ofQuotient?_eq` and `Double.ofDecimal?_eq` say that such a number reads
  back, however its fraction or its decimal is written.
* `Double.covers_shortest` and `Double.ofDecimal?_shortest` are the shortest decimal.
-/

namespace Subgraph

namespace Double

/-! ## Rounding -/

/-- A quotient is rounded to a natural that is at most half a unit away, and to an odd one only if
it is nearer than that. -/
theorem roundQuotient_eq {numerator denominator near : Nat} (positive : 0 < denominator)
    (below : 2 * near * denominator ≤ 2 * numerator + denominator)
    (above : 2 * numerator ≤ 2 * near * denominator + denominator)
    (tie : near % 2 = 1 → 2 * near * denominator ≠ 2 * numerator + denominator ∧
      2 * numerator ≠ 2 * near * denominator + denominator) :
    roundQuotient numerator denominator = near := by
  have whole := Nat.div_add_mod numerator denominator
  have part := Nat.mod_lt numerator positive
  unfold roundQuotient
  dsimp only
  generalize numerator / denominator = quotient at whole ⊢
  generalize numerator % denominator = rest at whole part ⊢
  subst whole
  have atMost : quotient ≤ near := by
    by_contra more
    have next : denominator * (near + 1) ≤ denominator * quotient :=
      Nat.mul_le_mul_left _ (by omega)
    nlinarith
  have atLeast : near ≤ quotient + 1 := by
    by_contra less
    have next : denominator * (quotient + 2) ≤ denominator * near :=
      Nat.mul_le_mul_left _ (by omega)
    nlinarith
  rcases Nat.lt_or_eq_of_le atMost with under | rfl
  · obtain rfl : near = quotient + 1 := by omega
    have half : denominator ≤ 2 * rest := by nlinarith
    rw [if_neg (by omega)]
    rcases Nat.lt_or_eq_of_le half with more | same
    · rw [if_pos more]
    · rw [if_neg (by omega)]
      have even : (quotient + 1) % 2 ≠ 1 := fun odd => (tie odd).1 (by nlinarith)
      omega
  · have half : 2 * rest ≤ denominator := by nlinarith
    rcases Nat.lt_or_eq_of_le half with less | same
    · rw [if_pos less]
    · rw [if_neg (by omega), if_neg (by omega)]
      have even : quotient % 2 ≠ 1 := fun odd => (tie odd).2 (by nlinarith)
      omega

/-- A quotient that is no less than a natural is not rounded below it. -/
theorem le_roundQuotient {numerator denominator bound : Nat}
    (positive : 0 < denominator) (below : bound * denominator ≤ numerator) :
    bound ≤ roundQuotient numerator denominator := by
  have floor : bound ≤ numerator / denominator := (Nat.le_div_iff_mul_le positive).2 below
  unfold roundQuotient
  dsimp only
  split
  · exact floor
  · split <;> omega

/-- Nor is one that is half a unit below an even natural. -/
theorem le_roundQuotient_of_even {numerator denominator bound : Nat} (positive : 0 < denominator)
    (even : bound % 2 = 0) (below : 2 * bound * denominator ≤ 2 * numerator + denominator) :
    bound ≤ roundQuotient numerator denominator := by
  by_cases reached : bound * denominator ≤ numerator
  · exact le_roundQuotient positive reached
  · refine (roundQuotient_eq positive below ?_ fun odd => by omega).ge
    nlinarith

/-! ## Rounding under an exponent -/

section

variable {numerator denominator : Nat} {exponent : Int}

theorem cast_pow_two (n : Nat) : ((Nat.pow 2 n : Nat) : ℚ) = 2 ^ n := by
  exact_mod_cast Nat.cast_pow 2 n

theorem exists_scaled_eq (numerator : Nat) {denominator : Nat} (positive : 0 < denominator)
    (exponent : Int) : ∃ n d : Nat, 0 < d ∧
      (n : ℚ) / d = numerator / denominator / 2 ^ exponent ∧
      scaled numerator denominator exponent = roundQuotient n d := by
  cases exponent with
  | ofNat e =>
      refine ⟨numerator, denominator * Nat.pow 2 e,
        Nat.mul_pos positive (Nat.pow_pos Nat.zero_lt_two), ?_, rfl⟩
      rw [Int.ofNat_eq_natCast, zpow_natCast, Nat.cast_mul, cast_pow_two, div_div]
  | negSucc e =>
      refine ⟨numerator * Nat.pow 2 (e + 1), denominator, positive, ?_, rfl⟩
      rw [zpow_negSucc, div_inv_eq_mul, Nat.cast_mul, cast_pow_two, div_mul_eq_mul_div]

variable (positive : 0 < denominator)

include positive

theorem scaled_eq {near : Nat}
    (below : (near : ℚ) - 1 / 2 ≤ numerator / denominator / 2 ^ exponent)
    (above : (numerator / denominator / 2 ^ exponent : ℚ) ≤ near + 1 / 2)
    (tie : near % 2 = 1 → (near : ℚ) - 1 / 2 ≠ numerator / denominator / 2 ^ exponent ∧
      (numerator / denominator / 2 ^ exponent : ℚ) ≠ near + 1 / 2) :
    scaled numerator denominator exponent = near := by
  obtain ⟨n, d, d_pos, same, rounded⟩ := exists_scaled_eq numerator positive exponent
  have d_pos' : (0 : ℚ) < d := by exact_mod_cast d_pos
  rw [← same] at below above tie
  rw [rounded]
  rw [le_div_iff₀ d_pos'] at below
  rw [div_le_iff₀ d_pos'] at above
  refine roundQuotient_eq d_pos ?_ ?_ fun odd => ⟨fun equal => (tie odd).1 ?_,
    fun equal => (tie odd).2 ?_⟩
  · have cast : (2 * near * d : ℚ) ≤ 2 * n + d := by linarith
    exact_mod_cast cast
  · have cast : (2 * n : ℚ) ≤ 2 * near * d + d := by linarith
    exact_mod_cast cast
  · have cast : (2 * near * d : ℚ) = 2 * n + d := by exact_mod_cast equal
    rw [eq_div_iff d_pos'.ne']
    linarith
  · have cast : (2 * n : ℚ) = 2 * near * d + d := by exact_mod_cast equal
    rw [div_eq_iff d_pos'.ne']
    linarith

theorem le_scaled {bound : Nat}
    (below : (bound : ℚ) ≤ numerator / denominator / 2 ^ exponent) :
    bound ≤ scaled numerator denominator exponent := by
  obtain ⟨n, d, d_pos, same, rounded⟩ := exists_scaled_eq numerator positive exponent
  have d_pos' : (0 : ℚ) < d := by exact_mod_cast d_pos
  rw [← same, le_div_iff₀ d_pos'] at below
  rw [rounded]
  exact le_roundQuotient d_pos (by exact_mod_cast below)

theorem le_scaled_of_even {bound : Nat} (even : bound % 2 = 0)
    (below : (bound : ℚ) - 1 / 2 ≤ numerator / denominator / 2 ^ exponent) :
    bound ≤ scaled numerator denominator exponent := by
  obtain ⟨n, d, d_pos, same, rounded⟩ := exists_scaled_eq numerator positive exponent
  have d_pos' : (0 : ℚ) < d := by exact_mod_cast d_pos
  rw [← same, le_div_iff₀ d_pos'] at below
  rw [rounded]
  refine le_roundQuotient_of_even d_pos even ?_
  have cast : (2 * bound * d : ℚ) ≤ 2 * n + d := by linarith
  exact_mod_cast cast

end

/-- The exponent that a significand is found with: every lower one from the start makes it too
great, or makes it just 2^53. -/
theorem fit_eq {numerator denominator significand tries : Nat} {start exponent : Int}
    (fits : significand < Nat.pow 2 53)
    (found : scaled numerator denominator exponent = significand)
    (lower : ∀ k, start ≤ k → k < exponent →
      Nat.pow 2 53 < scaled numerator denominator k ∨
        scaled numerator denominator k = Nat.pow 2 53 ∧ significand = Nat.pow 2 52 ∧
          k + 1 = exponent)
    (reached : start ≤ exponent) (near : exponent ≤ start + tries) :
    fit numerator denominator start tries = (significand, exponent) := by
  induction tries generalizing start with
  | zero =>
      obtain rfl : start = exponent := by omega
      rw [fit, found]
  | succ tries ih =>
      rw [fit]
      rcases Int.lt_or_eq_of_le reached with before | rfl
      · rcases lower start le_rfl before with great | ⟨just, least, next⟩
        · rw [if_neg (by omega), if_neg (by omega)]
          exact ih (fun k after => lower k (by omega)) (by omega) (by omega)
        · rw [if_neg (by omega), if_pos just, least, next]
      · rw [found, if_pos fits]

/-! ## The numbers that a double covers -/

/-- The lower midpoint. -/
def lower (x : Double) : ℚ := x.interval.1.1 * 2 ^ x.interval.2

/-- The upper midpoint. -/
def upper (x : Double) : ℚ := x.interval.1.2.2 * 2 ^ x.interval.2

/-- A number lies between the midpoints, or on one of them when the significand is even. -/
def Covers (x : Double) (number : ℚ) : Prop :=
  x.lower ≤ number ∧ number ≤ x.upper ∧
    (x.significand % 2 = 1 → x.lower ≠ number ∧ number ≠ x.upper)

section

variable {x : Double}

theorem zpow_sub_two (exponent : Int) : (2 : ℚ) ^ (exponent - 2) = 2 ^ exponent / 4 := by
  rw [zpow_sub₀ two_ne_zero]
  norm_num

theorem upper_eq (x : Double) : x.upper = (x.significand + 1 / 2) * 2 ^ x.exponent := by
  unfold upper interval
  dsimp only
  rw [zpow_sub_two]
  push_cast
  ring

/-- The lower midpoint is half a unit away, where the neighbours are equally far. -/
theorem lower_eq (nonzero : x.significand ≠ 0)
    (inner : ¬ (x.significand = Nat.pow 2 52 ∧ x.exponent ≠ -1074)) :
    x.lower = (x.significand - 1 / 2) * 2 ^ x.exponent := by
  unfold lower interval
  dsimp only
  rw [zpow_sub_two, if_neg inner, Nat.cast_sub (by omega)]
  push_cast
  ring

/-- It is a quarter of a unit away, where the one below is twice as near. -/
theorem lower_eq_of_least (least : x.significand = Nat.pow 2 52) (above : x.exponent ≠ -1074) :
    x.lower = (x.significand - 1 / 4) * 2 ^ x.exponent := by
  have positive : 0 < x.significand := least ▸ Nat.pow_pos Nat.zero_lt_two
  unfold lower interval
  dsimp only
  rw [zpow_sub_two, if_pos ⟨least, above⟩, Nat.cast_sub (by omega)]
  push_cast
  ring

theorem le_lower (nonzero : x.significand ≠ 0) :
    (x.significand - 1 / 2 : ℚ) * 2 ^ x.exponent ≤ x.lower := by
  have unit : (0 : ℚ) < 2 ^ x.exponent := by positivity
  by_cases least : x.significand = Nat.pow 2 52 ∧ x.exponent ≠ -1074
  · rw [lower_eq_of_least least.1 least.2]
    exact mul_le_mul_of_nonneg_right (by linarith) unit.le
  · exact (lower_eq nonzero least).ge

/-! ## Nearest doubles -/

variable {number : ℚ}

/-- What a double covers is at most half a unit away from it, in its own units. -/
theorem Covers.unit_bounds (covers : x.Covers number) (nonzero : x.significand ≠ 0) :
    (x.significand - 1 / 2 : ℚ) ≤ number / 2 ^ x.exponent ∧
      number / 2 ^ x.exponent ≤ x.significand + 1 / 2 := by
  have unit : (0 : ℚ) < 2 ^ x.exponent := by positivity
  rw [le_div_iff₀ unit, div_le_iff₀ unit, ← upper_eq]
  exact ⟨(le_lower nonzero).trans covers.1, covers.2.1⟩

theorem Covers.positive (covers : x.Covers number) (nonzero : x.significand ≠ 0) : 0 < number := by
  have unit : (0 : ℚ) < 2 ^ x.exponent := by positivity
  have least : (1 : ℚ) ≤ x.significand := by exact_mod_cast Nat.one_le_iff_ne_zero.2 nonzero
  have below : 0 < (x.significand - 1 / 2 : ℚ) * 2 ^ x.exponent :=
    mul_pos (by linarith) unit
  exact below.trans_le ((le_lower nonzero).trans covers.1)

/-- A quotient lies between two powers of two that the logarithms tell. -/
theorem log2_bounds {numerator denominator : Nat} (numerator_ne : numerator ≠ 0)
    (denominator_ne : denominator ≠ 0) :
    (2 : ℚ) ^ ((numerator.log2 : Int) - denominator.log2 - 1) < numerator / denominator ∧
      (numerator / denominator : ℚ) < 2 ^ ((numerator.log2 : Int) - denominator.log2 + 1) := by
  have bounds {n : Nat} (n_ne : n ≠ 0) : (2 : ℚ) ^ (n.log2 : Int) ≤ n ∧
      (n : ℚ) < 2 ^ ((n.log2 : Int) + 1) := by
    constructor
    · rw [zpow_natCast]
      exact_mod_cast Nat.log2_self_le n_ne
    · rw [show ((n.log2 : Int) + 1) = ((n.log2 + 1 : Nat) : Int) by push_cast; rfl, zpow_natCast]
      exact_mod_cast Nat.lt_log2_self
  obtain ⟨n_least, n_most⟩ := bounds numerator_ne
  obtain ⟨d_least, d_most⟩ := bounds denominator_ne
  have d_pos : (0 : ℚ) < denominator := by exact_mod_cast Nat.pos_of_ne_zero denominator_ne
  constructor
  · rw [lt_div_iff₀ d_pos]
    calc (2 : ℚ) ^ ((numerator.log2 : Int) - denominator.log2 - 1) * denominator
        < 2 ^ ((numerator.log2 : Int) - denominator.log2 - 1) *
            2 ^ ((denominator.log2 : Int) + 1) := mul_lt_mul_of_pos_left d_most (by positivity)
      _ = 2 ^ (numerator.log2 : Int) := by
          rw [← zpow_add₀ two_ne_zero]
          congr 1
          ring
      _ ≤ numerator := n_least
  · rw [div_lt_iff₀ d_pos]
    calc (numerator : ℚ) < 2 ^ ((numerator.log2 : Int) + 1) := n_most
      _ = 2 ^ ((numerator.log2 : Int) - denominator.log2 + 1) *
            2 ^ (denominator.log2 : Int) := by
          rw [← zpow_add₀ two_ne_zero]
          congr 1
          ring
      _ ≤ 2 ^ ((numerator.log2 : Int) - denominator.log2 + 1) * denominator :=
          mul_le_mul_of_nonneg_left d_least (by positivity)

/-- The exponent of a double is found by its significand. -/
theorem Covers.scaled_exponent {numerator denominator : Nat} (positive : 0 < denominator)
    (covers : x.Covers (numerator / denominator)) (nonzero : x.significand ≠ 0) :
    scaled numerator denominator x.exponent = x.significand := by
  have unit : (0 : ℚ) < 2 ^ x.exponent := by positivity
  obtain ⟨below, above⟩ := covers.unit_bounds nonzero
  refine scaled_eq positive below above fun odd => ?_
  obtain ⟨notLower, notUpper⟩ := covers.2.2 odd
  have inner : ¬ (x.significand = Nat.pow 2 52 ∧ x.exponent ≠ -1074) := by
    rintro ⟨least, _⟩
    rw [least] at odd
    exact absurd odd (by decide)
  rw [lower_eq nonzero inner] at notLower
  rw [upper_eq] at notUpper
  exact ⟨fun same => notLower ((eq_div_iff unit.ne').1 same),
    fun same => notUpper ((div_eq_iff unit.ne').1 same)⟩

/-- Every lower exponent gives a significand that is too great, or just the one of the next power of
two. -/
theorem Covers.scaled_lower {numerator denominator : Nat} (positive : 0 < denominator)
    (covers : x.Covers (numerator / denominator)) (normal : Nat.pow 2 52 ≤ x.significand)
    (above : x.exponent ≠ -1074) {k : Int} (lower : k < x.exponent) :
    Nat.pow 2 53 < scaled numerator denominator k ∨
      scaled numerator denominator k = Nat.pow 2 53 ∧ x.significand = Nat.pow 2 52 ∧
        k + 1 = x.exponent := by
  have nonzero : x.significand ≠ 0 := fun none => by
    rw [none] at normal
    exact absurd normal (by decide)
  have normal' : (2 ^ 52 : ℚ) ≤ x.significand := by exact_mod_cast normal
  have unit : (0 : ℚ) < 2 ^ x.exponent := by positivity
  obtain ⟨below, _⟩ := covers.unit_bounds nonzero
  have great (bound : ℚ) (enough : 2 ^ 53 + 1 ≤ bound)
      (reached : bound ≤ numerator / denominator / 2 ^ k) :
      Nat.pow 2 53 < scaled numerator denominator k := by
    have atLeast : ((2 ^ 53 + 1 : Nat) : ℚ) ≤ numerator / denominator / 2 ^ k := by
      refine le_trans ?_ (enough.trans reached)
      norm_num
    exact le_scaled positive atLeast
  rcases Int.lt_or_eq_of_le (Int.add_one_le_of_lt lower) with farther | next
  · -- two or more steps below, the quotient has two bits more
    refine Or.inl (great (4 * (x.significand - 1 / 2)) (by linarith) ?_)
    have smaller : (2 : ℚ) ^ k ≤ 2 ^ x.exponent / 4 := by
      rw [← zpow_sub_two]
      exact zpow_le_zpow_right₀ one_le_two (by omega)
    have scale : (0 : ℚ) < 2 ^ k := by positivity
    rw [le_div_iff₀ scale]
    rw [le_div_iff₀ unit] at below
    have factor : (0 : ℚ) ≤ x.significand - 1 / 2 := by linarith
    calc 4 * (x.significand - 1 / 2 : ℚ) * 2 ^ k
        ≤ 4 * (x.significand - 1 / 2) * (2 ^ x.exponent / 4) :=
          mul_le_mul_of_nonneg_left smaller (by linarith)
      _ = (x.significand - 1 / 2) * 2 ^ x.exponent := by ring
      _ ≤ numerator / denominator := below
  · have half : (2 : ℚ) ^ k = 2 ^ x.exponent / 2 := by
      rw [← next, zpow_add_one₀ two_ne_zero]
      ring
    by_cases least : x.significand = Nat.pow 2 52
    · -- the neighbour below is twice as near here
      have reached : ((2 ^ 53 : Nat) : ℚ) - 1 / 2 ≤ numerator / denominator / 2 ^ k := by
        have from_lower := covers.1
        rw [lower_eq_of_least least above, least, cast_pow_two] at from_lower
        rw [half, le_div_iff₀ (by positivity)]
        push_cast
        linarith
      have atLeast := le_scaled_of_even positive (by norm_num) reached
      rcases Nat.lt_or_eq_of_le atLeast with more | just
      · exact Or.inl more
      · exact Or.inr ⟨just.symm, least, next⟩
    · have more : (2 ^ 52 + 1 : ℚ) ≤ x.significand := by
        have strict : 2 ^ 52 + 1 ≤ x.significand := Nat.lt_of_le_of_ne normal (Ne.symm least)
        exact_mod_cast strict
      refine Or.inl (great (2 * (x.significand - 1 / 2)) (by linarith) ?_)
      rw [le_div_iff₀ unit] at below
      rw [half, le_div_iff₀ (by positivity)]
      linarith

/-- A quotient that a double covers has that double nearest. -/
theorem ofQuotient?_eq {numerator denominator : Nat} (positive : 0 < denominator)
    (covers : x.Covers (numerator / denominator)) (nonzero : x.significand ≠ 0) :
    ofQuotient? x.negative numerator denominator = some x := by
  have unit : (0 : ℚ) < 2 ^ x.exponent := by positivity
  have numerator_ne : numerator ≠ 0 := by
    rintro rfl
    have positive := covers.positive nonzero
    simp at positive
  obtain ⟨fits, least, _, normal⟩ := x.canonical
  obtain ⟨below, above⟩ := covers.unit_bounds nonzero
  rw [le_div_iff₀ unit] at below
  rw [div_le_iff₀ unit] at above
  obtain ⟨log_below, log_above⟩ := log2_bounds numerator_ne positive.ne'
  have notAbove : ((numerator.log2 : Int) - denominator.log2) - 53 ≤ x.exponent := by
    have fits' : (x.significand : ℚ) + 1 ≤ 2 ^ 53 := by exact_mod_cast fits
    have chain : (2 : ℚ) ^ ((numerator.log2 : Int) - denominator.log2 - 1) <
        2 ^ (53 + x.exponent) := by
      refine log_below.trans_le (above.trans ?_)
      rw [zpow_add₀ two_ne_zero]
      exact mul_le_mul_of_nonneg_right (by norm_num at fits' ⊢; linarith only [fits']) unit.le
    have powers := (zpow_lt_zpow_iff_right₀ (one_lt_two)).1 chain
    omega
  have start : max (-1074) ((numerator.log2 : Int) - denominator.log2 - 53) ≤ x.exponent :=
    max_le least notAbove
  have near : x.exponent ≤
      max (-1074) ((numerator.log2 : Int) - denominator.log2 - 53) + (3 : Nat) := by
    rcases normal with lowest | normal
    · omega
    · have normal' : (2 ^ 52 : ℚ) ≤ x.significand := by exact_mod_cast normal
      have chain : (2 : ℚ) ^ (51 + x.exponent) <
          2 ^ ((numerator.log2 : Int) - denominator.log2 + 1) := by
        refine lt_of_le_of_lt ?_ log_above
        refine le_trans ?_ below
        rw [zpow_add₀ two_ne_zero]
        have scale : (2 : ℚ) ^ (51 : Int) = 2 ^ 52 / 2 := by norm_num
        refine mul_le_mul_of_nonneg_right ?_ unit.le
        rw [scale]
        linarith only [normal']
      have powers := (zpow_lt_zpow_iff_right₀ (one_lt_two)).1 chain
      omega
  have found : fit numerator denominator
      (max (-1074) ((numerator.log2 : Int) - denominator.log2 - 53)) 3 =
        (x.significand, x.exponent) := by
    refine fit_eq fits (covers.scaled_exponent positive nonzero) (fun k after before => ?_) start
      near
    have above : x.exponent ≠ -1074 := by omega
    exact covers.scaled_lower positive (normal.resolve_left above) above before
  unfold ofQuotient?
  dsimp only
  rw [found]
  exact dif_pos x.canonical

/-! ## Decimals -/

/-- A natural lies between the powers of ten that its number of digits tells. -/
theorem toDigits_bounds {digits : Nat} (nonzero : digits ≠ 0) :
    10 ^ ((Nat.toDigits 10 digits).length - 1) ≤ digits ∧
      digits < 10 ^ (Nat.toDigits 10 digits).length := by
  have some_digit : 0 < (Nat.toDigits 10 digits).length := Nat.length_toDigits_pos
  constructor
  · by_contra less
    rcases Nat.eq_zero_or_pos ((Nat.toDigits 10 digits).length - 1) with single | more
    · rw [single] at less
      omega
    · have fewer := (Nat.length_toDigits_le_iff (by decide) more).2 (Nat.lt_of_not_le less)
      omega
  · exact (Nat.length_toDigits_le_iff (by decide) some_digit).1 le_rfl

/-- So does a decimal. -/
theorem decimal_bounds {digits : Nat} (nonzero : digits ≠ 0) (exponent : Int) :
    (10 : ℚ) ^ (((Nat.toDigits 10 digits).length : Int) - 1 + exponent) ≤
        digits * 10 ^ exponent ∧
      (digits * 10 ^ exponent : ℚ) <
        10 ^ (((Nat.toDigits 10 digits).length : Int) + exponent) := by
  have some_digit : 0 < (Nat.toDigits 10 digits).length := Nat.length_toDigits_pos
  have unit : (0 : ℚ) < 10 ^ exponent := by positivity
  have ten_ne : (10 : ℚ) ≠ 0 := by norm_num
  obtain ⟨least, most⟩ := toDigits_bounds nonzero
  constructor
  · have least' : (10 : ℚ) ^ ((Nat.toDigits 10 digits).length - 1) ≤ digits := by
      exact_mod_cast least
    rw [← Int.natCast_pred_of_pos some_digit, zpow_add₀ ten_ne, zpow_natCast]
    exact mul_le_mul_of_nonneg_right least' unit.le
  · have most' : (digits : ℚ) < 10 ^ (Nat.toDigits 10 digits).length := by exact_mod_cast most
    rw [zpow_add₀ ten_ne, zpow_natCast]
    exact mul_lt_mul_of_pos_right most' unit

/-- The powers of two about the range of doubles, and the powers of ten outside. -/
theorem ten_lt_two : (10 : ℚ) ^ (-324 : Int) < 2 ^ (-1075 : Int) := by
  have powers : 2 ^ 1075 < 10 ^ 324 := by decide +kernel
  have powers' : (2 : ℚ) ^ 1075 < 10 ^ 324 := by exact_mod_cast powers
  rw [zpow_neg, zpow_neg]
  exact inv_strictAnti₀ (by positivity) powers'

theorem two_lt_ten : (2 : ℚ) ^ (1024 : Int) < 10 ^ (309 : Int) := by
  have powers : 2 ^ 1024 < 10 ^ 309 := by decide +kernel
  exact_mod_cast powers

/-- What a double covers is within the range that a decimal is read in. -/
theorem Covers.decimal_bounds (covers : x.Covers number) (nonzero : x.significand ≠ 0) :
    (10 : ℚ) ^ (-324 : Int) < number ∧ number < 10 ^ (309 : Int) := by
  obtain ⟨fits, least, most, _⟩ := x.canonical
  obtain ⟨below, above⟩ := covers.unit_bounds nonzero
  have unit : (0 : ℚ) < 2 ^ x.exponent := by positivity
  rw [le_div_iff₀ unit] at below
  rw [div_le_iff₀ unit] at above
  have one : (1 : ℚ) ≤ x.significand := by exact_mod_cast Nat.one_le_iff_ne_zero.2 nonzero
  have fits' : (x.significand : ℚ) + 1 ≤ 2 ^ 53 := by exact_mod_cast fits
  constructor
  · calc (10 : ℚ) ^ (-324 : Int) < 2 ^ (-1075 : Int) := ten_lt_two
      _ = 1 / 2 * 2 ^ (-1074 : Int) := by
          rw [show (-1075 : Int) = -1 + -1074 by rfl, zpow_add₀ two_ne_zero]
          norm_num
      _ ≤ 1 / 2 * 2 ^ x.exponent :=
          mul_le_mul_of_nonneg_left (zpow_le_zpow_right₀ one_le_two least) (by norm_num)
      _ ≤ (x.significand - 1 / 2) * 2 ^ x.exponent :=
          mul_le_mul_of_nonneg_right (by linarith) unit.le
      _ ≤ number := below
  · calc number ≤ (x.significand + 1 / 2) * 2 ^ x.exponent := above
      _ ≤ 2 ^ 53 * 2 ^ x.exponent := mul_le_mul_of_nonneg_right (by linarith) unit.le
      _ ≤ 2 ^ 53 * 2 ^ (971 : Int) :=
          mul_le_mul_of_nonneg_left (zpow_le_zpow_right₀ one_le_two most) (by norm_num)
      _ = 2 ^ (1024 : Int) := by rw [← zpow_natCast, ← zpow_add₀ two_ne_zero]; norm_num
      _ < 10 ^ (309 : Int) := two_lt_ten

/-- A decimal that a double covers has that double nearest. -/
theorem ofDecimal?_eq {digits : Nat} {exponent : Int}
    (covers : x.Covers (digits * 10 ^ exponent)) (nonzero : x.significand ≠ 0) :
    ofDecimal? x.negative digits exponent = some x := by
  have digits_ne : digits ≠ 0 := by
    rintro rfl
    have positive := covers.positive nonzero
    simp at positive
  obtain ⟨least, most⟩ := covers.decimal_bounds nonzero
  obtain ⟨first, next⟩ := Double.decimal_bounds digits_ne exponent
  have small := (zpow_lt_zpow_iff_right₀ (by norm_num : (1 : ℚ) < 10)).1 (first.trans_lt most)
  have great := (zpow_lt_zpow_iff_right₀ (by norm_num : (1 : ℚ) < 10)).1 (least.trans next)
  unfold ofDecimal?
  dsimp only
  rw [if_neg digits_ne, if_neg (by omega), if_neg (by omega)]
  cases exponent with
  | ofNat e =>
      refine ofQuotient?_eq Nat.one_pos ?_ nonzero
      convert covers using 1
      rw [Int.ofNat_eq_natCast, zpow_natCast]
      simp
  | negSucc e =>
      refine ofQuotient?_eq (Nat.pow_pos (by norm_num)) ?_ nonzero
      convert covers using 1
      rw [zpow_negSucc]
      simp [div_eq_mul_inv]

/-- A zero is read from any decimal without digits. -/
theorem ofDecimal?_zero (negative : Bool) (exponent : Int) :
    ofDecimal? negative 0 exponent = some (zero negative) := by
  unfold ofDecimal?
  dsimp only
  rw [if_pos rfl]

/-! ## The shortest decimal -/

theorem zpow_eq_div {base : ℚ} (nonzero : base ≠ 0) (k : Int) :
    base ^ k = base ^ k.toNat / base ^ (-k).toNat := by
  rw [eq_div_iff (pow_ne_zero _ nonzero), ← zpow_natCast, ← zpow_natCast, ← zpow_add₀ nonzero]
  congr 1
  omega

theorem fraction_eq (n : Nat) (two ten : Int) :
    0 < (fraction n two ten).2 ∧
      ((fraction n two ten).1 : ℚ) / (fraction n two ten).2 = n * 2 ^ two / 10 ^ ten := by
  unfold fraction
  dsimp only
  constructor
  · exact Nat.mul_pos (Nat.pow_pos (by norm_num)) (Nat.pow_pos (by norm_num))
  · rw [zpow_eq_div two_ne_zero two, zpow_eq_div (by norm_num) ten]
    simp only [Nat.cast_mul, Nat.pow_eq, Nat.cast_pow, Nat.cast_ofNat]
    field_simp

/-- Comparing with a fraction is comparing with what it stands for. -/
theorem fraction_le_iff {n digits : Nat} {two ten : Int} :
    (fraction n two ten).1 ≤ digits * (fraction n two ten).2 ↔
      (n * 2 ^ two : ℚ) ≤ digits * 10 ^ ten := by
  obtain ⟨positive, value⟩ := fraction_eq n two ten
  have positive' : (0 : ℚ) < (fraction n two ten).2 := by exact_mod_cast positive
  rw [← div_le_iff₀ (by positivity), ← value, div_le_iff₀ positive']
  exact_mod_cast Iff.rfl

theorem le_fraction_iff {n digits : Nat} {two ten : Int} :
    digits * (fraction n two ten).2 ≤ (fraction n two ten).1 ↔
      (digits * 10 ^ ten : ℚ) ≤ n * 2 ^ two := by
  obtain ⟨positive, value⟩ := fraction_eq n two ten
  have positive' : (0 : ℚ) < (fraction n two ten).2 := by exact_mod_cast positive
  rw [← le_div_iff₀ (by positivity), ← value, le_div_iff₀ positive']
  exact_mod_cast Iff.rfl

/-- The decimals that read back are the ones that the double covers. -/
theorem readsBack_iff {digits : Nat} {exponent : Int} :
    x.readsBack digits exponent = true ↔ x.Covers (digits * 10 ^ exponent) := by
  unfold readsBack Covers lower upper
  dsimp only
  by_cases even : x.significand % 2 = 0
  · rw [if_pos even, Bool.and_eq_true, decide_eq_true_iff, decide_eq_true_iff, fraction_le_iff,
      le_fraction_iff]
    constructor
    · rintro ⟨below, above⟩
      exact ⟨below, above, fun odd => by omega⟩
    · rintro ⟨below, above, _⟩
      exact ⟨below, above⟩
  · have odd : x.significand % 2 = 1 := by omega
    rw [if_neg even, Bool.and_eq_true, decide_eq_true_iff, decide_eq_true_iff, ← Nat.not_le,
      ← Nat.not_le, le_fraction_iff, fraction_le_iff, not_le, not_le]
    constructor
    · rintro ⟨below, above⟩
      exact ⟨below.le, above.le, fun _ => ⟨below.ne, above.ne⟩⟩
    · rintro ⟨below, above, tie⟩
      exact ⟨lt_of_le_of_ne below (tie odd).1, lt_of_le_of_ne above (tie odd).2⟩

/-- The best decimal on a grid is covered. -/
theorem covers_of_onGrid? {digits : Nat} {exponent : Int}
    (found : x.onGrid? exponent = some digits) : x.Covers (digits * 10 ^ exponent) := by
  rw [← readsBack_iff]
  unfold onGrid? at found
  dsimp only at found
  generalize (fraction x.interval.1.2.1 x.interval.2 exponent).1 = numerator at found
  generalize (fraction x.interval.1.2.1 x.interval.2 exponent).2 = denominator at found
  split at found
  case h_1 floor _ => exact Option.some.inj found ▸ floor
  case h_2 _ next => exact Option.some.inj found ▸ next
  case h_3 floor next =>
    split at found
    · exact Option.some.inj found ▸ floor
    · split at found
      · exact Option.some.inj found ▸ next
      · rcases Nat.mod_two_eq_zero_or_one (numerator / denominator) with even | odd
        · rw [even] at found
          exact Option.some.inj found ▸ floor
        · rw [odd] at found
          exact Option.some.inj found ▸ next
  case h_4 => cases found

/-- The lower midpoint is at least half the least double away. -/
theorem lower_add_le (nonzero : x.significand ≠ 0) :
    x.lower + 2 ^ (-1075 : Int) ≤ x.significand * 2 ^ x.exponent := by
  obtain ⟨_, least, _, _⟩ := x.canonical
  by_cases outer : x.significand = Nat.pow 2 52 ∧ x.exponent ≠ -1074
  · have quarter : (2 : ℚ) ^ (-1075 : Int) ≤ 2 ^ (x.exponent - 2) :=
      zpow_le_zpow_right₀ one_le_two (by omega)
    rw [zpow_sub_two] at quarter
    rw [lower_eq_of_least outer.1 outer.2]
    linarith
  · have half : (2 : ℚ) ^ (-1075 + 1 : Int) ≤ 2 ^ x.exponent :=
      zpow_le_zpow_right₀ one_le_two (by omega)
    rw [zpow_add_one₀ two_ne_zero] at half
    rw [lower_eq nonzero outer]
    linarith

/-- The grid below the least double has a decimal for every one. -/
theorem onGrid?_isSome (nonzero : x.significand ≠ 0) : (x.onGrid? (-330)).isSome = true := by
  have scale : (0 : ℚ) < 10 ^ (-330 : Int) := by positivity
  have fine : (10 : ℚ) ^ (-330 : Int) < 2 ^ (-1075 : Int) :=
    (zpow_le_zpow_right₀ (by norm_num) (by decide)).trans_lt ten_lt_two
  have unit : (0 : ℚ) < 2 ^ x.exponent := by positivity
  obtain ⟨positive, value⟩ := fraction_eq x.interval.1.2.1 x.interval.2 (-330)
  have magnitude : (x.interval.1.2.1 : ℚ) * 2 ^ x.interval.2 = x.significand * 2 ^ x.exponent := by
    unfold interval
    dsimp only
    rw [zpow_sub_two]
    push_cast
    ring
  rw [magnitude] at value
  -- the decimal just below the double is nearer to it than the grid is coarse
  have below := Nat.floor_le (a := (x.significand * 2 ^ x.exponent / 10 ^ (-330 : Int) : ℚ))
    (by positivity)
  have above := Nat.lt_floor_add_one (x.significand * 2 ^ x.exponent / 10 ^ (-330 : Int) : ℚ)
  rw [← value, Nat.floor_div_eq_div, value] at below above
  rw [le_div_iff₀ scale] at below
  rw [div_lt_iff₀ scale] at above
  have apart := lower_add_le nonzero
  have found : x.readsBack ((fraction x.interval.1.2.1 x.interval.2 (-330)).1 /
      (fraction x.interval.1.2.1 x.interval.2 (-330)).2) (-330) = true := by
    rw [readsBack_iff]
    have beyond : x.significand * 2 ^ x.exponent < x.upper := by
      rw [upper_eq]
      linarith
    have low := below.trans_lt beyond
    refine ⟨by linarith, low.le, fun _ => ⟨fun same => ?_, low.ne⟩⟩
    linarith
  unfold onGrid?
  dsimp only
  rw [found]
  cases x.readsBack _ (-330) with
  | false => rfl
  | true =>
      dsimp only
      split_ifs <;> rfl

/-- The walk over the grids stops at a decimal, if it reaches a grid with one. -/
theorem covers_shortestFrom {exponent reached : Int} {grids : Nat}
    (isSome : (x.onGrid? reached).isSome = true) (below : reached ≤ exponent)
    (near : exponent < reached + grids) :
    x.Covers ((x.shortestFrom exponent grids).1 * 10 ^ (x.shortestFrom exponent grids).2) := by
  induction grids generalizing exponent with
  | zero => omega
  | succ grids ih =>
      rw [shortestFrom]
      split
      case h_1 digits found => exact covers_of_onGrid? found
      case h_2 none =>
        have other : exponent ≠ reached := by
          rintro rfl
          rw [none] at isSome
          cases isSome
        exact ih (by omega) (by omega)

/-- A double covers its shortest decimal. -/
theorem covers_shortest (nonzero : x.significand ≠ 0) :
    x.Covers (x.shortest.1 * 10 ^ x.shortest.2) := by
  unfold shortest
  rw [if_neg nonzero]
  exact covers_shortestFrom (onGrid?_isSome nonzero) (by decide) (by decide)

/-- So the double is read from it. -/
theorem ofDecimal?_shortest (nonzero : x.significand ≠ 0) :
    ofDecimal? x.negative x.shortest.1 x.shortest.2 = some x :=
  ofDecimal?_eq (covers_shortest nonzero) nonzero

end

end Double

end Subgraph
