/-
# Reading numbers

A number is read whole, or it is too great for a double and not read at all. It is taken for
a natural number exactly if it is written with digits only and fits into 64 bits, and it is
then the number that the digits write.
-/

import WhereClause.Proofs.Json.Grammar

namespace WhereClause.Json

open Numeral (IsDigits signed)

/-- No character that would go on with a number stands at the beginning of the text. -/
def Ends (text : List Char) : Prop :=
  ∀ c ∈ text.head?, c.isDigit = false ∧ c ≠ '.' ∧ c ≠ 'e' ∧ c ≠ 'E'

theorem Ends.append {text rest : List Char} (ends : Ends text) (rest_ends : Ends rest) :
    Ends (text ++ rest) := by
  cases text with
  | nil => exact rest_ends
  | cons c text => exact ends

namespace Number

/-! ### Integers -/

/-- Digits make an integer of 64 bits as long as they write one, and some are dropped if
they do not. -/
theorem extend_zero {digits : List Char} (isDigits : IsDigits digits) :
    (Numeral.natural digits < UInt64.size → (Significand.extend 0 digits).dropped = 0 ∧
      (Significand.extend 0 digits).value = Numeral.natural digits) ∧
    (UInt64.size ≤ Numeral.natural digits → (Significand.extend 0 digits).dropped ≠ 0) := by
  induction digits using List.reverseRecOn with
  | nil => exact ⟨fun _ => ⟨rfl, rfl⟩, fun large => absurd large (by decide)⟩
  | append_singleton digits c ih =>
      obtain ⟨fits, exceeds⟩ := ih isDigits.of_append.1
      have pushed : Significand.extend 0 (digits ++ [c]) =
          (Significand.extend 0 digits).push c := by
        rw [Significand.extend, List.foldl_append]
        rfl
      have value : Numeral.natural (digits ++ [c]) =
          Numeral.natural digits * 10 + (c.toNat - '0'.toNat) := by
        rw [Numeral.natural_append, Numeral.natural_singleton]
        rfl
      rw [pushed, value, Significand.push]
      generalize c.toNat - '0'.toNat = digit
      by_cases small : Numeral.natural digits < UInt64.size
      · obtain ⟨kept, same⟩ := fits small
        rw [kept, same, Nat.mul_comm 10]
        by_cases room : Numeral.natural digits * 10 + digit < UInt64.size
        · simp [room]
        · simp [room]
      · have dropped := exceeds (Nat.le_of_not_lt small)
        have large : UInt64.size ≤ Numeral.natural digits * 10 + digit := by omega
        simp [dropped, large]

/-- A double is no natural number. -/
theorem real?_ne_natural (negative : Bool) (significand : ℕ) (exponent : ℤ) (n : UInt64) :
    real? negative significand exponent ≠ some (.natural n) := by
  rw [real?, Ne, Option.map_eq_some_iff]
  rintro ⟨value, -, ⟨⟩⟩

/-- With a minus there is no natural number, not even zero. -/
theorem integer?_minus_ne_natural (whole : Significand) (n : UInt64) :
    integer? true whole ≠ some (.natural n) := by
  unfold integer?
  split
  · exact real?_ne_natural _ _ _ n
  · split
    · next unsigned => cases unsigned
    · split
      · exact real?_ne_natural _ _ _ n
      · rintro ⟨⟩

/-- Without one the digits make the natural number that they write. -/
theorem integer?_eq_natural_iff {digits : List Char} (isDigits : IsDigits digits) (n : UInt64) :
    integer? false (Significand.extend 0 digits) = some (.natural n) ↔
      Numeral.natural digits = n.toNat := by
  obtain ⟨fits, exceeds⟩ := extend_zero isDigits
  have bound : n.toNat < UInt64.size := n.toNat_lt_size
  by_cases small : Numeral.natural digits < UInt64.size
  · obtain ⟨kept, same⟩ := fits small
    rw [integer?, kept, same, if_neg (by decide), if_pos (by rfl), Option.some_inj,
      Number.natural.injEq, ← UInt64.toNat_inj, UInt64.toNat_ofNat_of_lt' small]
  · have dropped := exceeds (Nat.le_of_not_lt small)
    rw [integer?, if_pos dropped]
    exact iff_of_false (real?_ne_natural _ _ _ n) (by omega)

/-! ### Numbers -/

theorem splitDigits_append {digits rest : List Char} (isDigits : IsDigits digits)
    (stop : ∀ c ∈ rest.head?, c.isDigit = false) : splitDigits (digits ++ rest) = (digits, rest) := by
  rw [splitDigits, Numeral.takeWhile_digits isDigits stop, Numeral.dropWhile_digits isDigits stop]

/-- An exponent is read whole, and adds to the power of ten that there is. -/
theorem readExponent?_append {exponent rest : List Char} {power : ℤ}
    (isExponent : Numeral.DenotesExponent exponent power) (ends : Ends rest) (negative : Bool)
    (significand : ℕ) (scale : ℤ) :
    readExponent? negative significand scale (exponent ++ rest) =
      (real? negative significand (scale + power)).map (·, rest) := by
  cases isExponent with
  | missing =>
      rw [List.nil_append, add_zero]
      cases rest with
      | nil => rfl
      | cons mark rest =>
          obtain ⟨-, -, small, capital⟩ := ends mark rfl
          rw [readExponent?, if_neg (not_or.mpr ⟨small, capital⟩)]
  | @written mark sign digits isMark isSign nonempty isDigits =>
      have unsigned : ∀ c ∈ (digits ++ rest).head?, c ≠ '+' ∧ c ≠ '-' :=
        (Numeral.DenotesSignificand.whole nonempty isDigits).head rest
      have split : splitDigits (digits ++ rest) = (digits, rest) :=
        splitDigits_append isDigits fun c first => (ends c first).1
      rw [List.cons_append, List.append_assoc, readExponent?, if_pos isMark,
        Numeral.splitSign_append isSign unsigned]
      simp only [split, List.isEmpty_eq_false_iff.mpr nonempty, Bool.false_eq_true, if_false,
        Numeral.digitsValue_eq_natural, signed, decide_eq_true_eq]
      split
      · rw [sub_eq_add_neg]
      · rfl

section

variable {whole fraction exponent : List Char}

/-- The digits of an integer pass for the beginning of a number. -/
theorem IsWhole.sound (isWhole : IsWhole whole) :
    (whole.isEmpty || (whole.head? = some '0' && 1 < whole.length)) = false := by
  obtain ⟨nonempty, -, zeros⟩ := isWhole
  rw [List.isEmpty_eq_false_iff.mpr nonempty, Bool.false_or, Bool.and_eq_false_iff]
  by_cases zero : whole.head? = some '0'
  · exact .inr (by rw [zeros zero]; rfl)
  · exact .inl (decide_eq_false zero)

theorem readUnsigned?_integer (negative : Bool) (isWhole : IsWhole whole) {rest : List Char}
    (ends : Ends rest) : readUnsigned? negative (whole ++ rest) =
      (integer? negative (Significand.extend 0 whole)).map (·, rest) := by
  have split := splitDigits_append isWhole.2.1 fun c first => (ends c first).1
  simp only [readUnsigned?, split, IsWhole.sound isWhole, Bool.false_eq_true, if_false]
  split
  · exact absurd rfl (ends '.' rfl).2.1
  · obtain ⟨-, -, small, capital⟩ := ends _ rfl
    rw [if_neg (not_or.mpr ⟨small, capital⟩)]
  · rfl

theorem readUnsigned?_exponent (negative : Bool) (isWhole : IsWhole whole) {mark : Char}
    (isMark : mark = 'e' ∨ mark = 'E') (rest : List Char) :
    readUnsigned? negative (whole ++ mark :: rest) =
      readExponent? negative (Significand.extend 0 whole).value
        (Significand.extend 0 whole).dropped (mark :: rest) := by
  have split : splitDigits (whole ++ mark :: rest) = (whole, mark :: rest) := by
    refine splitDigits_append isWhole.2.1 ?_
    rintro c ⟨⟩
    rcases isMark with rfl | rfl <;> rfl
  simp only [readUnsigned?, split, IsWhole.sound isWhole, Bool.false_eq_true, if_false]
  split
  · next same =>
      obtain ⟨rfl, -⟩ := List.cons.inj same
      rcases isMark with same | same <;> cases same
  · next same =>
      obtain ⟨rfl, rfl⟩ := List.cons.inj same
      rw [if_pos isMark]
  · next empty => cases empty

theorem readUnsigned?_fraction (negative : Bool) (isWhole : IsWhole whole)
    {places rest : List Char} (nonempty : places ≠ []) (arePlaces : IsDigits places)
    (stop : ∀ c ∈ rest.head?, c.isDigit = false) :
    readUnsigned? negative (whole ++ '.' :: (places ++ rest)) =
      readExponent? negative (Significand.extend (Significand.extend 0 whole).value places).value
        ((Significand.extend 0 whole).dropped -
          (Significand.extend (Significand.extend 0 whole).value places).kept) rest := by
  have split : splitDigits (whole ++ '.' :: (places ++ rest)) = (whole, '.' :: (places ++ rest)) := by
    refine splitDigits_append isWhole.2.1 ?_
    rintro c ⟨⟩
    rfl
  simp only [readUnsigned?, split, IsWhole.sound isWhole, Bool.false_eq_true, if_false,
    splitDigits_append arePlaces stop, List.isEmpty_eq_false_iff.mpr nonempty]

/-- Without a point and an exponent a number is an integer, and otherwise it is a double. In
either case it is read whole, if at all. -/
theorem readUnsigned?_append {power : ℤ} (negative : Bool) (isWhole : IsWhole whole)
    (isFraction : IsFraction fraction) (isExponent : Numeral.DenotesExponent exponent power) :
    ∃ number? : Option Number,
      (∀ rest, Ends rest → readUnsigned? negative (whole ++ (fraction ++ (exponent ++ rest))) =
        number?.map (·, rest)) ∧
      (fraction = [] ∧ exponent = [] ∧ number? = integer? negative (Significand.extend 0 whole) ∨
        (fraction ≠ [] ∨ exponent ≠ []) ∧ ∀ n, number? ≠ some (.natural n)) := by
  rcases isFraction with rfl | ⟨places, nonempty, arePlaces, rfl⟩
  · cases isExponent with
    | missing =>
        exact ⟨_, fun rest ends => readUnsigned?_integer negative isWhole ends,
          .inl ⟨rfl, rfl, rfl⟩⟩
    | @written mark sign digits isMark isSign some_digits areDigits =>
        have isExponent := Numeral.DenotesExponent.written isMark isSign some_digits areDigits
        refine ⟨real? negative (Significand.extend 0 whole).value
          ((Significand.extend 0 whole).dropped + signed sign (Numeral.natural digits : ℤ)),
          fun rest ends => ?_, .inr ⟨.inr (List.cons_ne_nil _ _), real?_ne_natural negative _ _⟩⟩
        rw [List.nil_append, List.cons_append, readUnsigned?_exponent negative isWhole isMark,
          ← List.cons_append, readExponent?_append isExponent ends]
  · refine ⟨real? negative (Significand.extend (Significand.extend 0 whole).value places).value
      ((Significand.extend 0 whole).dropped -
        (Significand.extend (Significand.extend 0 whole).value places).kept + power),
      fun rest ends => ?_, .inr ⟨.inl (List.cons_ne_nil _ _), real?_ne_natural negative _ _⟩⟩
    have stop : ∀ c ∈ (exponent ++ rest).head?, c.isDigit = false := by
      cases exponent with
      | nil => exact fun c first => (ends c first).1
      | cons mark exponent =>
          rintro c ⟨⟩
          rcases isExponent.head rfl with rfl | rfl <;> rfl
    rw [List.cons_append, readUnsigned?_fraction negative isWhole nonempty arePlaces stop,
      readExponent?_append isExponent ends]

/-- A number that begins with a digit has no minus to be taken off. -/
theorem read?_whole (isWhole : IsWhole whole) (rest : List Char) :
    read? (whole ++ rest) = readUnsigned? false (whole ++ rest) := by
  obtain ⟨nonempty, isDigits, -⟩ := isWhole
  obtain ⟨first, others, rfl⟩ := List.exists_cons_of_ne_nil nonempty
  have digit := isDigits first List.mem_cons_self
  unfold read?
  split
  · next same =>
      obtain ⟨rfl, -⟩ := List.cons.inj same
      cases digit
  · rfl

/-- A number with nothing but digits has neither a point nor an exponent. -/
theorem eq_nil_of_isDigits {power : ℤ} (isFraction : IsFraction fraction)
    (isExponent : Numeral.DenotesExponent exponent power)
    (allDigits : IsDigits (whole ++ (fraction ++ exponent))) : fraction = [] ∧ exponent = [] := by
  obtain ⟨fractionDigits, exponentDigits⟩ := allDigits.of_append.2.of_append
  constructor
  · rcases isFraction with rfl | ⟨places, -, -, rfl⟩
    · rfl
    · cases fractionDigits '.' List.mem_cons_self
  · cases exponent with
    | nil => rfl
    | cons mark exponent =>
        have digit := exponentDigits mark List.mem_cons_self
        rcases isExponent.head rfl with rfl | rfl <;> cases digit

end

/-- A number is read whole, if at all. It is a natural number if it is written with digits
only, and then it is the one that they write. -/
theorem read?_append {text : List Char} (isNumber : IsNumber text) :
    ∃ number? : Option Number,
      (∀ rest, Ends rest → read? (text ++ rest) = number?.map (·, rest)) ∧
      ∀ n, number? = some (.natural n) ↔ IsWhole text ∧ Numeral.natural text = n.toNat := by
  cases isNumber with
  | @number minus whole fraction exponent power isMinus isWhole isFraction isExponent =>
      rcases isMinus with rfl | rfl
      · obtain ⟨number?, reads, integer⟩ := readUnsigned?_append false isWhole isFraction isExponent
        refine ⟨number?, fun rest ends => ?_, fun n => ?_⟩
        · rw [List.nil_append, List.append_assoc, List.append_assoc, read?_whole isWhole,
            reads rest ends]
        · rcases integer with ⟨rfl, rfl, rfl⟩ | ⟨more, double⟩
          · rw [integer?_eq_natural_iff isWhole.2.1, List.nil_append, List.append_nil,
              List.append_nil, and_iff_right isWhole]
          · refine iff_of_false (double n) ?_
            rintro ⟨⟨-, allDigits, -⟩, -⟩
            obtain ⟨noFraction, noExponent⟩ := eq_nil_of_isDigits isFraction isExponent allDigits
            exact more.elim (· noFraction) (· noExponent)
      · obtain ⟨number?, reads, integer⟩ := readUnsigned?_append true isWhole isFraction isExponent
        refine ⟨number?, fun rest ends => ?_, fun n => iff_of_false ?_ ?_⟩
        · rw [List.append_assoc, List.append_assoc, List.append_assoc, ← reads rest ends]
          rfl
        · rcases integer with ⟨-, -, rfl⟩ | ⟨-, double⟩
          · exact integer?_minus_ne_natural _ n
          · exact double n
        · rintro ⟨⟨-, allDigits, -⟩, -⟩
          cases allDigits '-' List.mem_cons_self

end Number

end WhereClause.Json
