/-!
# Binary floating-point numbers

A finite double is a sign, a significand below 2^53 and an exponent of two.
Each magnitude has one such form: the exponent is the least possible one, or
the significand has all 53 bits.

`Double.ofDecimal?` takes a decimal to its nearest double.

* A tie between two neighbours goes to the even significand.
* A decimal that would round beyond the greatest double has no double.
* A decimal below half the least double is zero, with its sign kept.
-/

namespace Subgraph

/-- The one form of a magnitude: all 53 bits, or the least exponent. -/
def Double.Canonical (significand : Nat) (exponent : Int) : Prop :=
  significand < Nat.pow 2 53 ∧ -1074 ≤ exponent ∧ exponent ≤ 971 ∧
    (exponent = -1074 ∨ Nat.pow 2 52 ≤ significand)

instance (significand : Nat) (exponent : Int) :
    Decidable (Double.Canonical significand exponent) := by
  unfold Double.Canonical
  infer_instance

/-- A finite double-precision number, `significand * 2 ^ exponent` up to its sign. -/
structure Double where
  /-- Whether the sign is a minus, which zero may have too. -/
  negative : Bool
  /-- The significand. -/
  significand : Nat
  /-- The exponent of two. -/
  exponent : Int
  /-- The form is the one of its magnitude. -/
  canonical : Double.Canonical significand exponent
deriving DecidableEq

namespace Double

/-- Zero with a sign. -/
def zero (negative : Bool) : Double := ⟨negative, 0, -1074, by decide⟩

/-- A quotient of naturals rounded to the nearest natural, a tie to the even one. -/
def roundQuotient (numerator denominator : Nat) : Nat :=
  let quotient := numerator / denominator
  let twice := 2 * (numerator % denominator)
  if twice < denominator then quotient
  else if denominator < twice then quotient + 1
  else quotient + quotient % 2

/-- The quotient `numerator / denominator / 2 ^ exponent` rounded to a natural. -/
def scaled (numerator denominator : Nat) : Int → Nat
  | .ofNat e => roundQuotient numerator (denominator * Nat.pow 2 e)
  | .negSucc e => roundQuotient (numerator * Nat.pow 2 (e + 1)) denominator

/-- The significand and exponent of a quotient: the first exponent, from a given one upwards,
under which the rounded significand has at most 53 bits. -/
def fit (numerator denominator : Nat) (exponent : Int) : Nat → Nat × Int
  | 0 => (scaled numerator denominator exponent, exponent)
  | tries + 1 =>
      let significand := scaled numerator denominator exponent
      if significand < Nat.pow 2 53 then (significand, exponent)
      else if significand = Nat.pow 2 53 then (Nat.pow 2 52, exponent + 1)
      else fit numerator denominator (exponent + 1) tries

/-- The double nearest to a quotient of naturals. -/
def ofQuotient? (negative : Bool) (numerator denominator : Nat) : Option Double :=
  let start : Int := max (-1074) ((numerator.log2 : Int) - (denominator.log2 : Int) - 53)
  let (significand, exponent) := fit numerator denominator start 3
  if h : Canonical significand exponent then some ⟨negative, significand, exponent, h⟩ else none

/-- The double nearest to `digits * 10 ^ exponent`. -/
def ofDecimal? (negative : Bool) (digits : Nat) (exponent : Int) : Option Double :=
  let places : Int := (Nat.toDigits 10 digits).length
  if digits = 0 then some (zero negative)
  else if 310 < places + exponent then none
  else if places + exponent < -330 then some (zero negative)
  else
    match exponent with
    | .ofNat e => ofQuotient? negative (digits * Nat.pow 10 e) 1
    | .negSucc e => ofQuotient? negative digits (Nat.pow 10 (e + 1))

/-- The greatest decimal of one digit and the least power that still has a double. -/
example : (ofDecimal? false 1 308).isSome = true ∧ ofDecimal? false 1 309 = none := by
  decide +kernel

/-- The least double, and what is too small for it. -/
example : ofDecimal? false 3 (-324) = some ⟨false, 1, -1074, by decide⟩ ∧
    ofDecimal? true 2 (-324) = some (zero true) := by decide +kernel

end Double

end Subgraph
