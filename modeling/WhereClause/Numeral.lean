/-
# Decimal numerals

A word of a filter counts as a number when it is written as a decimal numeral
and its value rounds to a finite double. Numbers reach the SQL text unquoted, so
the test is exact: no digit and no exponent is clipped, however long.

A numeral is an optional sign, digits with an optional point among, before or
after them, and an optional exponent. Only ASCII digits count. Words such as
`inf` are no numerals.
-/

namespace WhereClause

/-- The parts of a decimal numeral. The sign of the whole is not kept: nothing
here depends on it. -/
structure Numeral where
  whole : List Char
  fraction : List Char
  exponentNegative : Bool
  exponent : List Char
  deriving DecidableEq, Repr

namespace Numeral

/-- The number that a list of digits writes. -/
def digitsValue (digits : List Char) : Nat :=
  digits.foldl (fun value digit => 10 * value + (digit.toNat - '0'.toNat)) 0

/-- Split off an optional sign, answering whether it is a minus. -/
def splitSign : List Char → Bool × List Char
  | '-' :: rest => (true, rest)
  | '+' :: rest => (false, rest)
  | rest => (false, rest)

/-- Split off the fraction after an optional point. -/
def splitFraction : List Char → List Char × List Char
  | '.' :: rest => (rest.takeWhile Char.isDigit, rest.dropWhile Char.isDigit)
  | rest => ([], rest)

/-- Read what follows the last digit of the significand: nothing, or an
exponent, which has at least one digit. -/
def readExponent? : List Char → Option (Bool × List Char)
  | [] => some (false, [])
  | mark :: rest =>
    if mark = 'e' ∨ mark = 'E' then
      let (negative, digits) := splitSign rest
      if digits.isEmpty || !digits.all Char.isDigit then none else some (negative, digits)
    else
      none

/-- Read a text as a numeral. The significand has at least one digit, on
whichever side of the point. -/
def read? (text : List Char) : Option Numeral :=
  let (_, unsigned) := splitSign text
  let whole := unsigned.takeWhile Char.isDigit
  let (fraction, rest) := splitFraction (unsigned.dropWhile Char.isDigit)
  if whole.isEmpty && fraction.isEmpty then
    none
  else
    (readExponent? rest).map fun (exponentNegative, exponent) =>
      { whole, fraction, exponentNegative, exponent }

/-- The digits of the significand from the first that is not zero. -/
def significand (n : Numeral) : List Char :=
  (n.whole ++ n.fraction).dropWhile (· == '0')

/-- The power of ten that the last digit of the significand counts. -/
def scale (n : Numeral) : Int :=
  let exponent : Int := digitsValue n.exponent
  (if n.exponentNegative then -exponent else exponent) - n.fraction.length

/-- The least magnitude that rounds to infinity: half a unit above the greatest
finite double. -/
def overflowBound : Nat :=
  Nat.pow 2 1024 - Nat.pow 2 970

/-- Whether the value rounds to a finite double. The bound has 309 digits, so
only a value with 309 places before the point is computed; all others are
decided by that count, and no power of ten is larger than the numeral is long. -/
def isFinite (n : Numeral) : Bool :=
  let places : Int := n.significand.length + n.scale
  if n.significand.isEmpty || places ≤ 308 then
    true
  else if 309 < places then
    false
  else if 0 ≤ n.scale then
    digitsValue n.significand * Nat.pow 10 n.scale.toNat < overflowBound
  else
    digitsValue n.significand < overflowBound * Nat.pow 10 (-n.scale).toNat

end Numeral

/-- Whether a text is a number: a numeral whose value rounds to a finite double. -/
def isNumber (text : String) : Bool :=
  match Numeral.read? text.toList with
  | some n => n.isFinite
  | none => false

end WhereClause
