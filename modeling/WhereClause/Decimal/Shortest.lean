/-
# Shortest decimals of doubles

The decimal with the fewest digits that rounds to a given double, and among
those the nearest to it. A positive double is a whole number of some power of
two, and the reals that round to it fill an interval around it; the search goes
through the decimal grids from coarse to fine and stops at the first grid with a
point in the interval. Only the two grid points next to the double need a look.

All arithmetic is on natural numbers and exact.
-/

namespace WhereClause

/-- The magnitude of a finite double: `significand` times two to the power of
`exponent`. The flag says that the next smaller double is only half as far away
as the next greater one. -/
structure Double where
  significand : Nat
  exponent : Int
  narrowBelow : Bool
  deriving DecidableEq, Repr

/-- A magnitude in decimal: `coefficient` times ten to the power of `exponent`. -/
structure Decimal where
  coefficient : Nat
  exponent : Int
  deriving DecidableEq, Repr

/-- The magnitude of a finite double, from its bits. -/
def Double.ofFloat (value : Float) : Double :=
  let bits : Nat := value.toBits.toNat
  let fraction : Nat := bits % Nat.pow 2 52
  let biased : Nat := bits / Nat.pow 2 52 % Nat.pow 2 11
  if biased = 0 then
    { significand := fraction, exponent := -1074, narrowBelow := false }
  else
    { significand := Nat.pow 2 52 + fraction
      exponent := (biased : Int) - 1075
      narrowBelow := fraction = 0 && 1 < biased }

/-- The number of decimal digits of a natural number. -/
def digitCount (n : Nat) : Nat :=
  (Nat.toDigits 10 n).length

/-- The power of ten of the leading digit of a positive fraction. -/
def leadingPower (numerator denominator : Nat) : Int :=
  if denominator ≤ numerator then
    (digitCount (numerator / denominator) : Int) - 1
  else
    -(digitCount ((denominator - 1) / numerator) : Int)

/-- The interval of the reals that round to a double, and the double in it, as
whole numbers of the same unit. The ends belong to it if `closed` is set. -/
structure RoundingInterval where
  low : Nat
  value : Nat
  high : Nat
  unit : Nat
  closed : Bool

/-- The interval of a positive double. The unit is one over the field `unit`. -/
def Double.interval (double : Double) : RoundingInterval :=
  let scale := Nat.pow 2 double.exponent.toNat
  { low := (4 * double.significand - if double.narrowBelow then 1 else 2) * scale
    value := 4 * double.significand * scale
    high := (4 * double.significand + 2) * scale
    unit := 4 * Nat.pow 2 (-double.exponent).toNat
    closed := double.significand % 2 = 0 }

/-- The point of a decimal grid that lies in an interval next to its value. Of
two the nearer counts, and the even one if both are equally near. -/
def RoundingInterval.nearestOnGrid? (interval : RoundingInterval) (power : Int) : Option Nat :=
  let finer := Nat.pow 10 (-power).toNat
  let step := interval.unit * Nat.pow 10 power.toNat
  let value := interval.value * finer
  let inside (point : Nat) : Bool :=
    if interval.closed then
      interval.low * finer ≤ point * step && point * step ≤ interval.high * finer
    else
      interval.low * finer < point * step && point * step < interval.high * finer
  let below := value / step
  let above := below + 1
  let belowIsNearer :=
    let fromBelow := value - below * step
    let fromAbove := above * step - value
    fromBelow < fromAbove || (fromBelow = fromAbove && below % 2 = 0)
  if inside below && (!inside above || belowIsNearer) then
    some below
  else if inside above then
    some above
  else
    none

/-- The coefficient without zeros at its end, as long as the fuel lasts. -/
def Decimal.dropZeros (decimal : Decimal) : Nat → Decimal
  | 0 => decimal
  | fuel + 1 =>
    if decimal.coefficient % 10 = 0 then
      dropZeros { coefficient := decimal.coefficient / 10, exponent := decimal.exponent + 1 } fuel
    else
      decimal

/-- The shortest decimal of a positive double. Seventeen digits always suffice. -/
def Double.shortest (double : Double) : Decimal :=
  let interval := double.interval
  let leading := leadingPower interval.value interval.unit
  let onGrid (places : Nat) : Option Decimal :=
    let power := leading - places
    (interval.nearestOnGrid? power).map fun coefficient => { coefficient, exponent := power }
  match (List.range 17).findSome? onGrid with
  | some decimal => decimal.dropZeros 17
  | none => { coefficient := 0, exponent := 0 }

end WhereClause
