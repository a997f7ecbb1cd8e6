/-
# Numbers of a JSON text

A number is a natural number or a negative integer where it is written as an
integer and fits into 64 bits, and a double otherwise. Of a double only the text
is kept: no setting takes one, and the text is what the complaint shows.

A double is not found by rounding the numeral correctly. The first digits, as
many as fit into 64 bits, make an integer, which is rounded, and a power of ten
multiplies or divides it, rounding once more. A numeral that this takes beyond
the greatest double is an error.
-/

import WhereClause.Decimal.Shortest
import WhereClause.Numeral

namespace WhereClause.Json

/-- A number as the settings see it. -/
inductive Number
  | natural (value : UInt64)
  /-- A negative integer, by its magnitude. -/
  | negative (magnitude : Nat)
  /-- A double, by its text. -/
  | real (text : String)
  deriving DecidableEq, Repr

namespace Number

/-- The digits of a decimal, with the point after the first `places` of them,
zeros filled in where there are no digits. At least one digit stands on either
side of the point. -/
def positional (digits : List Char) (places : Int) : List Char :=
  if places ≤ 0 then
    "0.".toList ++ List.replicate (-places).toNat '0' ++ digits
  else if digits.length ≤ places.toNat then
    digits ++ List.replicate (places.toNat - digits.length) '0' ++ ".0".toList
  else
    digits.take places.toNat ++ '.' :: digits.drop places.toNat

/-- The digits of a decimal, with the point after the first, and an exponent. -/
def scientific (digits : List Char) (exponent : Int) : List Char :=
  let significand := match digits with
    | first :: rest => if rest.isEmpty then [first] else first :: '.' :: rest
    | [] => []
  let sign := if exponent < 0 then '-' else '+'
  significand ++ 'e' :: sign :: Nat.toDigits 10 exponent.natAbs

/-- The text of a magnitude. It is positional from one hundred-thousandth up to
ten to the sixteenth. -/
def magnitudeText (double : Double) : List Char :=
  if double.significand = 0 then
    "0.0".toList
  else
    let decimal := double.shortest
    let digits := Nat.toDigits 10 decimal.coefficient
    let leading := decimal.exponent + digits.length - 1
    if -5 ≤ leading && leading < 16 then
      positional digits (leading + 1)
    else
      scientific digits leading

/-- The text of a finite double: the fewest digits that read back. -/
def realText (value : Float) : String :=
  let magnitude := magnitudeText (Double.ofFloat value)
  String.ofList (if Nat.pow 2 63 ≤ value.toBits.toNat then '-' :: magnitude else magnitude)

/-- The digits of a numeral that fit into 64 bits, as an integer, and how many
digits they are and how many follow. -/
structure Significand where
  value : Nat
  kept : Nat
  dropped : Nat
  deriving DecidableEq, Repr

/-- Put a digit after a significand unless it, or a digit before it, does not
fit. -/
def Significand.push (significand : Significand) (digit : Char) : Significand :=
  let value := 10 * significand.value + (digit.toNat - '0'.toNat)
  if significand.dropped = 0 && value < UInt64.size then
    { significand with value, kept := significand.kept + 1 }
  else
    { significand with dropped := significand.dropped + 1 }

/-- Put the digits after an integer that is not longer than 64 bits. -/
def Significand.extend (value : Nat) (digits : List Char) : Significand :=
  digits.foldl push { value, kept := 0, dropped := 0 }

/-- A power of ten, for exponents up to 308. -/
def powerOfTen (exponent : Nat) : Float :=
  Float.ofScientific 1 false exponent

/-- An integer times a power of ten, unless it is too great for a double. -/
def scaled? (significand : Nat) (exponent : Int) : Option Float :=
  let value := significand.toUInt64.toFloat
  if 308 < exponent then
    if significand = 0 then some value else none
  else if 0 ≤ exponent then
    let product := value * powerOfTen exponent.toNat
    if product.isInf then none else some product
  else if -308 ≤ exponent then
    some (value / powerOfTen (-exponent).toNat)
  else
    some (value / powerOfTen 308 / powerOfTen (min 308 (-exponent - 308).toNat))

/-- The double that a numeral stands for, with the sign of the numeral. -/
def real? (negative : Bool) (significand : Nat) (exponent : Int) : Option Number :=
  (scaled? significand exponent).map fun value =>
    .real (realText (if negative then -value else value))

/-- The integer that a numeral stands for. It is a double if it does not fit, or
if it is zero with a minus. -/
def integer? (negative : Bool) (whole : Significand) : Option Number :=
  if whole.dropped ≠ 0 then
    real? negative whole.value whole.dropped
  else if !negative then
    some (.natural (.ofNat whole.value))
  else if whole.value = 0 || Nat.pow 2 63 < whole.value then
    real? negative whole.value 0
  else
    some (.negative whole.value)

/-- Split off the digits at the beginning of a text. -/
def splitDigits (text : List Char) : List Char × List Char :=
  (text.takeWhile Char.isDigit, text.dropWhile Char.isDigit)

theorem length_splitDigits (text : List Char) :
    (splitDigits text).1.length + (splitDigits text).2.length = text.length := by
  rw [splitDigits, ← List.length_append, List.takeWhile_append_dropWhile]

theorem length_splitSign (text : List Char) :
    (Numeral.splitSign text).2.length ≤ text.length := by
  unfold Numeral.splitSign
  split <;> simp

/-- Read an optional exponent, answering the number that a significand and the
exponent stand for, and what follows. -/
def readExponent? (negative : Bool) (significand : Nat) (exponent : Int) (text : List Char) :
    Option (Number × List Char) :=
  match text with
  | mark :: rest =>
    if mark = 'e' ∨ mark = 'E' then
      let (exponentNegative, unsigned) := Numeral.splitSign rest
      let (digits, rest) := splitDigits unsigned
      let shift : Int := Numeral.digitsValue digits
      if digits.isEmpty then
        none
      else
        let exponent := if exponentNegative then exponent - shift else exponent + shift
        (real? negative significand exponent).map (·, rest)
    else
      (real? negative significand exponent).map (·, text)
  | [] => (real? negative significand exponent).map (·, text)

/-- Read a number after its sign. An integer part of several digits does not
begin with zero; a point has a digit after it. -/
def readUnsigned? (negative : Bool) (text : List Char) : Option (Number × List Char) :=
  let (digits, rest) := splitDigits text
  let whole := Significand.extend 0 digits
  if digits.isEmpty || (digits.head? = some '0' && 1 < digits.length) then
    none
  else
    match rest with
    | '.' :: rest =>
      let (digits, rest) := splitDigits rest
      let significand := Significand.extend whole.value digits
      if digits.isEmpty then
        none
      else
        readExponent? negative significand.value (whole.dropped - significand.kept) rest
    | mark :: _ =>
      if mark = 'e' ∨ mark = 'E' then
        readExponent? negative whole.value whole.dropped rest
      else
        (integer? negative whole).map (·, rest)
    | [] => (integer? negative whole).map (·, rest)

theorem length_readExponent? {negative : Bool} {significand : Nat} {exponent : Int}
    {text rest : List Char} {number : Number}
    (h : readExponent? negative significand exponent text = some (number, rest)) :
    rest.length ≤ text.length := by
  unfold readExponent? at h
  split at h
  · rename_i mark unread
    have := length_splitSign unread
    have := length_splitDigits (Numeral.splitSign unread).2
    split at h
    · dsimp only at h
      split at h
      · simp at h
      · simp only [Option.map_eq_some_iff, Prod.mk.injEq] at h
        obtain ⟨_, _, _, rfl⟩ := h
        simp only [List.length_cons]
        omega
    · simp only [Option.map_eq_some_iff, Prod.mk.injEq] at h
      obtain ⟨_, _, _, rfl⟩ := h
      exact Nat.le_refl _
  · simp only [Option.map_eq_some_iff, Prod.mk.injEq] at h
    obtain ⟨_, _, _, rfl⟩ := h
    exact Nat.le_refl _

/-- A number has at least one digit. -/
theorem length_readUnsigned? {negative : Bool} {text rest : List Char} {number : Number}
    (h : readUnsigned? negative text = some (number, rest)) : rest.length < text.length := by
  have parts := length_splitDigits text
  unfold readUnsigned? at h
  dsimp only at h
  split at h
  · simp at h
  · rename_i nonempty
    have : 0 < (splitDigits text).1.length := by
      simp only [Bool.or_eq_true, List.isEmpty_iff, not_or] at nonempty
      exact List.length_pos_iff.2 nonempty.1
    split at h
    · rename_i unread split
      have := length_splitDigits unread
      have := congrArg List.length split
      split at h
      · simp at h
      · have := length_readExponent? h
        grind
    · split at h
      · have := length_readExponent? h
        omega
      · simp only [Option.map_eq_some_iff, Prod.mk.injEq] at h
        obtain ⟨_, _, _, rfl⟩ := h
        omega
    · simp only [Option.map_eq_some_iff, Prod.mk.injEq] at h
      obtain ⟨_, _, _, rfl⟩ := h
      omega

/-- Read the number at the beginning of a text, answering it and what follows. -/
def read? : List Char → Option (Number × List Char)
  | '-' :: rest => readUnsigned? true rest
  | text => readUnsigned? false text

theorem length_read? {text rest : List Char} {number : Number}
    (h : read? text = some (number, rest)) : rest.length < text.length := by
  unfold read? at h
  split at h
  · have := length_readUnsigned? h
    simp only [List.length_cons]
    omega
  · exact length_readUnsigned? h

end Number

end WhereClause.Json
