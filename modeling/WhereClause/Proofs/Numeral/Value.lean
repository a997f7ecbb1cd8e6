/-
# What numerals stand for

A numeral stands for a rational number, exactly, however many digits it has and however
large its exponent is. This module says which texts are numerals, production by production,
and which number each of them stands for; it does so without reading one. What the reader
makes of a text is then the same number, up to its sign.
-/

import Mathlib.Data.List.Induction
import Mathlib.Data.Nat.Digits.Defs
import Mathlib.Data.Rat.Defs
import Mathlib.Tactic.FieldSimp
import Mathlib.Tactic.Ring
import WhereClause.Proofs.Numeral

namespace WhereClause.Numeral

/-! ### Digits -/

/-- The number that digits write. The last of them counts ones. -/
def natural (digits : List Char) : ℕ :=
  Nat.ofDigits 10 (digits.reverse.map fun c => c.toNat - '0'.toNat)

@[simp] theorem natural_nil : natural [] = 0 := rfl

theorem natural_append (digits others : List Char) :
    natural (digits ++ others) = natural digits * 10 ^ others.length + natural others := by
  rw [natural, List.reverse_append, List.map_append, Nat.ofDigits_append, List.length_map,
    List.length_reverse, Nat.mul_comm, Nat.add_comm]
  rfl

theorem natural_singleton (c : Char) : natural [c] = c.toNat - '0'.toNat := by
  simp [natural]

theorem natural_cons (c : Char) (digits : List Char) :
    natural (c :: digits) = (c.toNat - '0'.toNat) * 10 ^ digits.length + natural digits := by
  rw [← List.singleton_append, natural_append, natural_singleton]

/-- Reading digits from left to right makes the number that they write. -/
theorem digitsValue_eq_natural (digits : List Char) : digitsValue digits = natural digits := by
  induction digits using List.reverseRecOn with
  | nil => rfl
  | append_singleton digits c ih =>
      rw [natural_append, natural_singleton, ← ih, digitsValue, List.foldl_append]
      simp only [List.foldl_cons, List.foldl_nil, digitsValue, List.length_singleton, pow_one]
      rw [Nat.mul_comm]

theorem IsDigits.of_append {digits others : List Char} (isDigits : IsDigits (digits ++ others)) :
    IsDigits digits ∧ IsDigits others :=
  List.forall_mem_append.mp isDigits

theorem IsDigits.append {digits others : List Char} (isDigits : IsDigits digits)
    (others_isDigits : IsDigits others) : IsDigits (digits ++ others) :=
  List.forall_mem_append.mpr ⟨isDigits, others_isDigits⟩

/-- A digit stands for a number below ten, and only zero for nothing. -/
theorem toNat_of_isDigit {c : Char} (digit : c.isDigit = true) :
    c.toNat - '0'.toNat < 10 ∧ (c ≠ '0' → 0 < c.toNat - '0'.toNat) := by
  have checked : ∀ c : Char, c.toNat < 128 → c.isDigit = true →
      c.toNat - '0'.toNat < 10 ∧ (c ≠ '0' → 0 < c.toNat - '0'.toNat) :=
    Text.forall_ascii (by decide)
  exact checked c (ascii_of_isNumeralPart (by rw [isNumeralPart, digit]; rfl)) digit

/-- Digits write a number with no more places than they are. -/
theorem natural_lt {digits : List Char} (isDigits : IsDigits digits) :
    natural digits < 10 ^ digits.length := by
  have bound := Nat.ofDigits_lt_base_pow_length (b := 10)
    (l := digits.reverse.map fun c => c.toNat - '0'.toNat) (by decide) (by
      simp only [List.mem_map, List.mem_reverse, forall_exists_index, and_imp]
      rintro _ c there rfl
      exact (toNat_of_isDigit (isDigits c there)).1)
  rwa [List.length_map, List.length_reverse] at bound

/-- Digits of which the first is not zero write a number with as many places as they are. -/
theorem le_natural {first : Char} {digits : List Char} (digit : first.isDigit = true)
    (nonzero : first ≠ '0') : 10 ^ digits.length ≤ natural (first :: digits) := by
  rw [natural_cons]
  have positive := (toNat_of_isDigit digit).2 nonzero
  calc 10 ^ digits.length ≤ (first.toNat - '0'.toNat) * 10 ^ digits.length :=
        Nat.le_mul_of_pos_left _ positive
    _ ≤ _ := Nat.le_add_right _ _

/-- Zeros in front of a number do not count. -/
theorem natural_dropWhile_zero (digits : List Char) :
    natural (digits.dropWhile (· == '0')) = natural digits := by
  induction digits with
  | nil => rfl
  | cons c digits ih =>
      by_cases zero : c = '0'
      · subst zero
        rw [List.dropWhile_cons_of_pos (by rfl), ih, natural_cons]
        simp
      · rw [List.dropWhile_cons_of_neg (by simpa using zero)]

/-- Digits are read as far as they go. -/
theorem takeWhile_digits {digits rest : List Char} (isDigits : IsDigits digits)
    (stop : ∀ c ∈ rest.head?, c.isDigit = false) :
    (digits ++ rest).takeWhile Char.isDigit = digits := by
  rw [List.takeWhile_append_of_pos isDigits]
  cases rest with
  | nil => rw [List.takeWhile_nil, List.append_nil]
  | cons c rest =>
      rw [List.takeWhile_cons_of_neg (by simp [stop c rfl]), List.append_nil]

theorem dropWhile_digits {digits rest : List Char} (isDigits : IsDigits digits)
    (stop : ∀ c ∈ rest.head?, c.isDigit = false) :
    (digits ++ rest).dropWhile Char.isDigit = rest := by
  have whole := List.takeWhile_append_dropWhile (p := Char.isDigit) (l := digits ++ rest)
  rw [takeWhile_digits isDigits stop] at whole
  exact List.append_cancel_left whole

/-! ### Numerals -/

/-- A value with the sign that is written in front of it. -/
def signed {α : Type} [Neg α] (sign : List Char) (value : α) : α :=
  if sign = ['-'] then -value else value

/-- The digits of a numeral, with a point among, before or behind them or without one, and
the number that they stand for. -/
inductive DenotesSignificand : List Char → ℚ → Prop
  | whole {digits : List Char} (nonempty : digits ≠ []) (isDigits : IsDigits digits) :
      DenotesSignificand digits (natural digits)
  | pointed {digits places : List Char} (nonempty : digits ≠ []) (isDigits : IsDigits digits)
      (arePlaces : IsDigits places) :
      DenotesSignificand (digits ++ '.' :: places)
        (natural digits + natural places / 10 ^ places.length)
  | places {places : List Char} (nonempty : places ≠ []) (arePlaces : IsDigits places) :
      DenotesSignificand ('.' :: places) (natural places / 10 ^ places.length)

/-- An exponent, and the power of ten that it stands for. -/
inductive DenotesExponent : List Char → ℤ → Prop
  | missing : DenotesExponent [] 0
  | written {mark : Char} {sign digits : List Char} (isMark : mark = 'e' ∨ mark = 'E')
      (isSign : IsSign sign) (nonempty : digits ≠ []) (isDigits : IsDigits digits) :
      DenotesExponent (mark :: (sign ++ digits)) (signed sign (natural digits : ℤ))

/-- A numeral, and the number that it stands for. -/
inductive Denotes : List Char → ℚ → Prop
  | numeral {sign significand exponent : List Char} {value : ℚ} {power : ℤ}
      (isSign : IsSign sign) (isSignificand : DenotesSignificand significand value)
      (isExponent : DenotesExponent exponent power) :
      Denotes (sign ++ (significand ++ exponent)) (signed sign (value * 10 ^ power))

/-- The number that the parts of a numeral stand for, without its sign. -/
def magnitude (n : Numeral) : ℚ :=
  natural (n.whole ++ n.fraction) * 10 ^ n.scale

/-! ### Reading the texts of numerals -/

theorem splitSign_append {sign rest : List Char} (isSign : IsSign sign)
    (unsigned : ∀ c ∈ rest.head?, c ≠ '+' ∧ c ≠ '-') :
    splitSign (sign ++ rest) = (decide (sign = ['-']), rest) := by
  rcases isSign with rfl | rfl | rfl
  · cases rest with
    | nil => rfl
    | cons c rest =>
        obtain ⟨notPlus, notMinus⟩ := unsigned c rfl
        rw [List.nil_append, splitSign]
        · rfl
        · rintro _ same
          exact notMinus (List.cons.inj same).1
        · rintro _ same
          exact notPlus (List.cons.inj same).1
  · rfl
  · rfl

/-- A power of ten with its sign, in the two ways in which signs are kept. -/
theorem signed_eq_ite {α : Type} [Neg α] (sign : List Char) (value : α) :
    signed sign value = if decide (sign = ['-']) then -value else value := by
  rw [signed]
  simp only [decide_eq_true_eq]

/-- An exponent begins with its mark. -/
theorem DenotesExponent.head {exponent : List Char} {power : ℤ}
    (isExponent : DenotesExponent exponent power) {c : Char} (first : c ∈ exponent.head?) :
    c = 'e' ∨ c = 'E' := by
  cases isExponent with
  | missing => cases first
  | written isMark =>
      obtain rfl := Option.some.inj first
      exact isMark

theorem DenotesExponent.readExponent? {exponent : List Char} {power : ℤ}
    (isExponent : DenotesExponent exponent power) :
    ∃ negative digits, Numeral.readExponent? exponent = some (negative, digits) ∧
      power = if negative then -(digitsValue digits : ℤ) else digitsValue digits := by
  cases isExponent with
  | missing => exact ⟨false, [], rfl, rfl⟩
  | @written mark sign digits isMark isSign nonempty isDigits =>
      have unsigned : ∀ c ∈ digits.head?, c ≠ '+' ∧ c ≠ '-' := by
        intro c first
        have digit := isDigits c (List.mem_of_mem_head? first)
        constructor <;> rintro rfl <;> cases digit
      refine ⟨decide (sign = ['-']), digits, ?_, ?_⟩
      · rw [Numeral.readExponent?, if_pos isMark, splitSign_append isSign unsigned]
        have sound : (digits.isEmpty || !digits.all Char.isDigit) = false := by
          rw [Bool.or_eq_false_iff, List.isEmpty_eq_false_iff, Bool.not_eq_false',
            List.all_eq_true]
          exact ⟨nonempty, isDigits⟩
        simp only [sound, Bool.false_eq_true, if_false]
      · rw [signed_eq_ite, digitsValue_eq_natural]

/-- What reads as an exponent stands for the power of ten that the reader makes of it. -/
theorem denotesExponent_of_readExponent? {exponent digits : List Char} {negative : Bool}
    (read : readExponent? exponent = some (negative, digits)) :
    DenotesExponent exponent
      (if negative then -(digitsValue digits : ℤ) else digitsValue digits) := by
  cases exponent with
  | nil =>
      cases read
      exact .missing
  | cons mark rest =>
      obtain ⟨sign, isSign, split, minus⟩ := exists_sign rest
      simp only [readExponent?] at read
      split at read
      · next marks =>
          split at read
          · cases read
          · next sound =>
              simp only [Bool.or_eq_true, Bool.not_eq_true', not_or, Bool.not_eq_false,
                List.isEmpty_iff, List.all_eq_true] at sound
              cases read
              rw [minus, ← signed_eq_ite, digitsValue_eq_natural]
              conv in mark :: rest => rw [split]
              exact .written marks isSign sound.1 sound.2
      · cases read

/-- Digits before and behind a point write a whole number of the last places. -/
theorem natural_append_div (digits places : List Char) :
    (natural (digits ++ places) : ℚ) * 10 ^ (-(places.length : ℤ)) =
      natural digits + natural places / 10 ^ places.length := by
  rw [natural_append, zpow_neg, zpow_natCast]
  push_cast
  field_simp

/-- The parts of a significand, and what comes behind it. -/
theorem DenotesSignificand.split {significand : List Char} {value : ℚ}
    (isSignificand : DenotesSignificand significand value) {rest : List Char}
    (stop : ∀ c ∈ rest.head?, c = 'e' ∨ c = 'E') :
    ∃ whole fraction, (significand ++ rest).takeWhile Char.isDigit = whole ∧
      splitFraction ((significand ++ rest).dropWhile Char.isDigit) = (fraction, rest) ∧
      (whole.isEmpty && fraction.isEmpty) = false ∧
      value = natural (whole ++ fraction) * 10 ^ (-(fraction.length : ℤ)) := by
  have notDigit : ∀ c ∈ rest.head?, c.isDigit = false := by
    intro c first
    rcases stop c first with rfl | rfl <;> rfl
  have noPoint : splitFraction rest = ([], rest) := by
    unfold splitFraction
    split
    · exact absurd (stop '.' rfl) (by decide)
    · rfl
  cases isSignificand with
  | whole nonempty isDigits =>
      refine ⟨significand, [], takeWhile_digits isDigits notDigit, ?_, by simp [nonempty], ?_⟩
      · rw [dropWhile_digits isDigits notDigit, noPoint]
      · simp
  | @pointed digits places nonempty isDigits arePlaces =>
      have point : ∀ c ∈ ('.' :: (places ++ rest)).head?, c.isDigit = false := by
        rintro c ⟨⟩
        rfl
      refine ⟨digits, places, ?_, ?_, by simp [nonempty], (natural_append_div _ _).symm⟩
      · rw [List.append_assoc, List.cons_append, takeWhile_digits isDigits point]
      · rw [List.append_assoc, List.cons_append, dropWhile_digits isDigits point, splitFraction,
          takeWhile_digits arePlaces notDigit, dropWhile_digits arePlaces notDigit]
  | @places places nonempty arePlaces =>
      refine ⟨[], places, rfl, ?_, by simp [nonempty], ?_⟩
      · rw [List.cons_append, List.dropWhile_cons_of_neg (by decide), splitFraction,
          takeWhile_digits arePlaces notDigit, dropWhile_digits arePlaces notDigit]
      · rw [natural_append_div, natural_nil, Nat.cast_zero, zero_add]

/-- Digits before and behind a point are a significand, if there are any. -/
theorem denotesSignificand {whole fraction point : List Char} (isWhole : IsDigits whole)
    (isFraction : IsDigits fraction)
    (isPoint : point = [] ∧ fraction = [] ∨ point = '.' :: fraction)
    (nonempty : whole ≠ [] ∨ fraction ≠ []) :
    DenotesSignificand (whole ++ point)
      (natural (whole ++ fraction) * 10 ^ (-(fraction.length : ℤ))) := by
  rcases isPoint with ⟨rfl, rfl⟩ | rfl
  · simpa using DenotesSignificand.whole (nonempty.resolve_right (not_not_intro rfl)) isWhole
  · rw [natural_append_div]
    by_cases noWhole : whole = []
    · subst noWhole
      rw [natural_nil, Nat.cast_zero, zero_add]
      exact .places (nonempty.resolve_left (not_not_intro rfl)) isFraction
    · exact .pointed noWhole isWhole isFraction

/-- The head of a significand is no sign. -/
theorem DenotesSignificand.head {significand : List Char} {value : ℚ}
    (isSignificand : DenotesSignificand significand value) (rest : List Char) :
    ∀ c ∈ (significand ++ rest).head?, c ≠ '+' ∧ c ≠ '-' := by
  have ofDigits {digits more : List Char} (nonempty : digits ≠ []) (isDigits : IsDigits digits) :
      ∀ c ∈ (digits ++ more).head?, c ≠ '+' ∧ c ≠ '-' := by
    obtain ⟨first, others, rfl⟩ := List.exists_cons_of_ne_nil nonempty
    rintro c ⟨⟩
    have digit := isDigits first List.mem_cons_self
    constructor <;> rintro rfl <;> cases digit
  cases isSignificand with
  | whole nonempty isDigits => exact ofDigits nonempty isDigits
  | pointed nonempty isDigits =>
      rw [List.append_assoc]
      exact ofDigits nonempty isDigits
  | places =>
      rintro c ⟨⟩
      decide

/-- The powers of ten of an exponent and of the places behind the point make the scale. -/
theorem magnitude_eq (n : Numeral) :
    n.magnitude = natural (n.whole ++ n.fraction) * 10 ^ (-(n.fraction.length : ℤ)) *
      10 ^ (if n.exponentNegative then -(digitsValue n.exponent : ℤ) else digitsValue n.exponent) := by
  rw [magnitude, scale, mul_assoc, ← zpow_add₀ (by norm_num), neg_add_eq_sub]

/-- A numeral reads as what it stands for. -/
theorem Denotes.read? {text : List Char} {value : ℚ} (denotes : Denotes text value) :
    ∃ n, Numeral.read? text = some n ∧
      value = if (splitSign text).1 then -n.magnitude else n.magnitude := by
  cases denotes with
  | @numeral sign significand exponent value power isSign isSignificand isExponent =>
      obtain ⟨whole, fraction, front, back, nonempty, value⟩ :=
        isSignificand.split fun (_ : Char) => isExponent.head
      obtain ⟨negative, digits, readExponent, power⟩ := isExponent.readExponent?
      have unsigned := splitSign_append isSign (isSignificand.head exponent)
      refine ⟨⟨whole, fraction, negative, digits⟩, ?_, ?_⟩
      · simp only [Numeral.read?, unsigned, front, back, nonempty, readExponent,
          Bool.false_eq_true, if_false, Option.map_some]
      · rw [unsigned, magnitude_eq, value, power, signed_eq_ite]

/-- What reads as a numeral is one, and stands for what the reader makes of it. -/
theorem denotes_of_read? {text : List Char} {n : Numeral} (read : read? text = some n) :
    Denotes text (if (splitSign text).1 then -n.magnitude else n.magnitude) := by
  obtain ⟨sign, isSign, signedText, minus⟩ := exists_sign text
  obtain ⟨point, isPoint, pointed, isFraction⟩ :=
    exists_point ((splitSign text).2.dropWhile Char.isDigit)
  simp only [read?] at read
  split at read
  · cases read
  · next digit =>
      obtain ⟨⟨negative, digits⟩, readExponent, rfl⟩ := Option.map_eq_some_iff.mp read
      simp only [Bool.and_eq_true, List.isEmpty_iff, not_and_or] at digit
      have isSignificand :=
        denotesSignificand (isDigits_takeWhile (splitSign text).2) isFraction isPoint digit
      have isExponent := denotesExponent_of_readExponent? readExponent
      have parts : text = sign ++ (((splitSign text).2.takeWhile Char.isDigit ++ point) ++
          (splitFraction ((splitSign text).2.dropWhile Char.isDigit)).2) := by
        rw [List.append_assoc, ← pointed, List.takeWhile_append_dropWhile, ← signedText]
      rw [minus, magnitude_eq, ← signed_eq_ite]
      conv in Denotes text => rw [parts]
      exact .numeral isSign isSignificand isExponent

end WhereClause.Numeral
