import Subgraph.Decimal.Double

/-!
# Shortest decimals

The shortest decimal that reads back as a given double.

A decimal reads back as a double when it lies between the midpoints to the
double's two neighbours, the midpoints themselves included when the
significand is even.  `shortest` walks the grids of multiples of a power of
ten from coarse to fine and stops at the first one with such a decimal.  Of
two it takes the nearer, and of two equally near the even one.

`DecimalFormat` says how the digits are laid out: which magnitudes are written
positionally and how an exponent is signed.
-/

namespace Subgraph

namespace Double

/-- The magnitude and the two midpoints around it, as numerators over `4 * 2 ^ k` where `k`
is the second component. -/
def interval (x : Double) : (Nat × Nat × Nat) × Int :=
  let below := if x.significand = Nat.pow 2 52 ∧ x.exponent ≠ -1074 then 1 else 2
  ((4 * x.significand - below, 4 * x.significand, 4 * x.significand + 2), x.exponent - 2)

/-- A natural times a power of two over a power of ten, as a fraction. -/
def fraction (n : Nat) (two ten : Int) : Nat × Nat :=
  (n * Nat.pow 2 two.toNat * Nat.pow 10 (-ten).toNat,
    Nat.pow 2 (-two).toNat * Nat.pow 10 ten.toNat)

/-- Whether a multiple of a power of ten reads back as the double. -/
def readsBack (x : Double) (digits : Nat) (exponent : Int) : Bool :=
  let ((low, _, high), two) := x.interval
  let lowFraction := fraction low two exponent
  let highFraction := fraction high two exponent
  if x.significand % 2 = 0 then
    lowFraction.1 ≤ digits * lowFraction.2 && digits * highFraction.2 ≤ highFraction.1
  else
    lowFraction.1 < digits * lowFraction.2 && digits * highFraction.2 < highFraction.1

/-- The best decimal on one grid: of the two neighbours of the double, one that reads back. -/
def onGrid? (x : Double) (exponent : Int) : Option Nat :=
  let ((_, value, _), two) := x.interval
  let (numerator, denominator) := fraction value two exponent
  let floor := numerator / denominator
  let twice := 2 * (numerator % denominator)
  match readsBack x floor exponent, readsBack x (floor + 1) exponent with
  | true, false => some floor
  | false, true => some (floor + 1)
  | true, true =>
      if twice < denominator then some floor
      else if denominator < twice then some (floor + 1)
      else some (floor + floor % 2)
  | false, false => none

/-- The first grid with a decimal that reads back, going down from an exponent of ten. -/
def shortestFrom (x : Double) (exponent : Int) : Nat → Nat × Int
  | 0 => (0, 0)
  | grids + 1 =>
      match onGrid? x exponent with
      | some digits => (digits, exponent)
      | none => shortestFrom x (exponent - 1) grids

/-- The shortest decimal that reads back as a double, as digits and an exponent of ten. -/
def shortest (x : Double) : Nat × Int :=
  if x.significand = 0 then (0, 0) else shortestFrom x 309 640

end Double

/-- How the digits of a decimal are laid out. -/
structure DecimalFormat where
  /-- The least power of ten, of the first digit, that is written positionally. -/
  least : Int
  /-- The first power of ten that no longer is. -/
  bound : Int

namespace DecimalFormat

/-- The digits of a number written one after the other. -/
def digitText (n : Nat) : String := String.ofList (Nat.toDigits 10 n)

/-- Some zeros. -/
def zeros (n : Nat) : String := String.ofList (List.replicate n '0')

/-- Digits with a point before the last `places` of them, at least one digit on each side. -/
def positional (digits : Nat) (exponent : Int) : String :=
  let text := Nat.toDigits 10 digits
  let point : Int := text.length + exponent
  if point ≤ 0 then "0." ++ zeros (-point).toNat ++ String.ofList text
  else if exponent < 0 then
    String.ofList (text.take point.toNat) ++ "." ++ String.ofList (text.drop point.toNat)
  else String.ofList text ++ zeros exponent.toNat ++ ".0"

/-- Digits with the point after the first one, and a signed exponent. -/
def scientific (digits : Nat) (exponent : Int) : String :=
  let text := Nat.toDigits 10 digits
  let power : Int := text.length - 1 + exponent
  let rest := text.drop 1
  String.ofList (text.take 1) ++ (if rest.isEmpty then "" else "." ++ String.ofList rest) ++
    (if power < 0 then "e-" else "e+") ++ digitText power.natAbs

/-- The text of a double under a format. -/
def write (format : DecimalFormat) (x : Double) : String :=
  let (digits, exponent) := x.shortest
  let power : Int := (Nat.toDigits 10 digits).length - 1 + exponent
  let magnitude :=
    if digits = 0 then "0.0"
    else if format.least ≤ power ∧ power < format.bound then positional digits exponent
    else scientific digits exponent
  if x.negative then "-" ++ magnitude else magnitude

end DecimalFormat

end Subgraph
