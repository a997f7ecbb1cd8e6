/-
# Which numerals are numbers

A numeral counts as a number if the double nearest to it is finite. A double has a
significand of 53 binary digits, so the greatest of them is 2^1024 - 2^971, and the next
number of that many binary digits would be 2^1024. What lies below their middle rounds to
a finite double. The middle itself does not, since the significand of 2^1024 is the even one.

The test looks at the number of places first, and computes only if that leaves the answer
open. It is exact all the same: no text is decided by anything but the number that it
stands for. The integers of 64 bits are far below the bound, so a separate look for
integers would admit nothing more.
-/

import Mathlib.Algebra.Order.Archimedean.Basic
import Mathlib.Tactic.Linarith
import Mathlib.Tactic.NormNum
import WhereClause.Proofs.Numeral.Value

namespace WhereClause

namespace Numeral

/-! ### Counting places -/

/-- Zeros in front do not count. -/
theorem magnitude_eq_significand (n : Numeral) :
    n.magnitude = natural n.significand * 10 ^ n.scale := by
  rw [magnitude, significand, natural_dropWhile_zero]

section

variable {n : Numeral} (isDigits : IsDigits n.significand)

include isDigits

/-- A number is below the power of ten of its places. -/
theorem magnitude_lt_pow : n.magnitude < 10 ^ ((n.significand.length : ℤ) + n.scale) := by
  have places : (natural n.significand : ℚ) < 10 ^ n.significand.length := by
    exact_mod_cast natural_lt isDigits
  rw [magnitude_eq_significand, zpow_add₀ (by norm_num), zpow_natCast]
  exact mul_lt_mul_of_pos_right places (zpow_pos (by norm_num) _)

/-- A number is not below the power of ten of its first place. -/
theorem pow_le_magnitude (nonempty : n.significand ≠ []) :
    10 ^ ((n.significand.length : ℤ) + n.scale - 1) ≤ n.magnitude := by
  obtain ⟨first, others, split⟩ := List.exists_cons_of_ne_nil nonempty
  have nonzero : first ≠ '0' := by
    have kept := List.head?_dropWhile_not (· == '0') (n.whole ++ n.fraction)
    rw [← significand, split] at kept
    simpa using kept
  have digit : first.isDigit = true := isDigits first (by rw [split]; exact List.mem_cons_self)
  have places : (10 : ℚ) ^ others.length ≤ natural n.significand := by
    rw [split]
    exact_mod_cast le_natural digit nonzero
  have exponent : (n.significand.length : ℤ) + n.scale - 1 = others.length + n.scale := by
    rw [split, List.length_cons]
    omega
  rw [magnitude_eq_significand, exponent, zpow_add₀ (by norm_num), zpow_natCast]
  exact mul_le_mul_of_nonneg_right places (zpow_nonneg (by norm_num) _)

end

/-- The least magnitude that is too great, as a number. -/
theorem cast_overflowBound : (overflowBound : ℚ) = 2 ^ 1024 - 2 ^ 970 := by
  have sum : overflowBound + 2 ^ 970 = 2 ^ 1024 := by decide +kernel
  have sum := congrArg (Nat.cast : ℕ → ℚ) sum
  rw [Nat.cast_add, Nat.cast_pow, Nat.cast_pow, Nat.cast_ofNat] at sum
  exact eq_sub_of_add_eq sum

/-- Numbers of 308 places are below the bound. -/
theorem pow_308_lt_overflowBound : (10 : ℚ) ^ (308 : ℤ) < overflowBound := by
  have checked : 10 ^ 308 < overflowBound := by decide +kernel
  exact_mod_cast checked

/-- Numbers of 310 places are not. -/
theorem overflowBound_le_pow_309 : (overflowBound : ℚ) ≤ 10 ^ (309 : ℤ) := by
  have checked : overflowBound ≤ 10 ^ 309 := by decide +kernel
  exact_mod_cast checked

/-- The test of a numeral is exact. -/
theorem isFinite_iff {n : Numeral} (isDigits : IsDigits (n.whole ++ n.fraction)) :
    n.isFinite = true ↔ n.magnitude < 2 ^ 1024 - 2 ^ 970 := by
  have significant : IsDigits n.significand :=
    fun c there => isDigits c ((List.dropWhile_suffix _).subset there)
  rw [← cast_overflowBound]
  unfold isFinite
  dsimp only
  split
  · next few =>
      refine iff_of_true rfl ?_
      rw [Bool.or_eq_true, List.isEmpty_iff, decide_eq_true_eq] at few
      rcases few with zero | few
      · rw [magnitude_eq_significand, zero, natural_nil, Nat.cast_zero, zero_mul]
        exact lt_trans (zpow_pos (by norm_num) 308) pow_308_lt_overflowBound
      · calc n.magnitude < 10 ^ ((n.significand.length : ℤ) + n.scale) :=
              magnitude_lt_pow significant
          _ ≤ 10 ^ (308 : ℤ) := zpow_le_zpow_right₀ (by norm_num) few
          _ < overflowBound := pow_308_lt_overflowBound
  · next notFew =>
      rw [Bool.or_eq_true, List.isEmpty_iff, decide_eq_true_eq, not_or] at notFew
      split
      · next many =>
          refine iff_of_false Bool.false_ne_true (not_lt_of_ge ?_)
          calc (overflowBound : ℚ) ≤ 10 ^ (309 : ℤ) := overflowBound_le_pow_309
            _ ≤ 10 ^ ((n.significand.length : ℤ) + n.scale - 1) :=
              zpow_le_zpow_right₀ (by norm_num) (by omega)
            _ ≤ n.magnitude := pow_le_magnitude significant notFew.1
      · rw [magnitude_eq_significand, ← digitsValue_eq_natural]
        split
        · next whole =>
            obtain ⟨power, scale⟩ := Int.eq_ofNat_of_zero_le whole
            rw [decide_eq_true_eq, scale, Int.toNat_natCast, zpow_natCast]
            exact_mod_cast Iff.rfl
        · next fractional =>
            obtain ⟨power, scale⟩ := Int.eq_ofNat_of_zero_le (a := -n.scale) (by omega)
            rw [decide_eq_true_eq, scale, Int.toNat_natCast, ← neg_neg n.scale, scale, zpow_neg,
              zpow_natCast, ← div_eq_mul_inv, div_lt_iff₀ (by positivity)]
            exact_mod_cast Iff.rfl

/-! ### Rounding -/

/-- A number that a double would hold if its exponent were not bounded above: a significand
of 53 binary digits times a power of two. -/
def IsBinary (x : ℚ) : Prop :=
  ∃ (significand : ℕ) (exponent : ℤ), significand < 2 ^ 53 ∧ -1074 ≤ exponent ∧
    x = significand * 2 ^ exponent

/-- The greatest finite double. -/
def greatest : ℚ :=
  (2 ^ 53 - 1) * 2 ^ 971

/-- Whether the nearest double is finite: some double is nearer to the magnitude than all
that would have to be held beyond the greatest one. -/
def RoundsToFinite (x : ℚ) : Prop :=
  ∃ double, IsBinary double ∧ double ≤ greatest ∧
    ∀ beyond, IsBinary beyond → greatest < beyond → |(|x| - double)| < |(|x| - beyond)|

theorem isBinary_greatest : IsBinary greatest := by
  refine ⟨2 ^ 53 - 1, 971, by decide, by decide, ?_⟩
  rw [greatest, zpow_ofNat, Nat.cast_sub (by decide), Nat.cast_pow, Nat.cast_ofNat, Nat.cast_one]

/-- The power of two behind the greatest double, with a significand of 53 digits. -/
theorem pow_1024_eq : (2 : ℚ) ^ 1024 = 2 ^ 52 * 2 ^ 972 := by
  rw [← pow_add]

theorem isBinary_pow_1024 : IsBinary (2 ^ 1024) := by
  refine ⟨2 ^ 52, 972, by decide, by decide, ?_⟩
  rw [pow_1024_eq, zpow_ofNat, Nat.cast_pow, Nat.cast_ofNat]

/-- The greatest double and the number after it are two units of the bound apart. -/
theorem greatest_eq : greatest = 2 ^ 1024 - 2 * 2 ^ 970 := by
  have next : (2 : ℚ) ^ 1024 = 2 ^ 53 * 2 ^ 971 := by rw [← pow_add]
  rw [next, ← pow_succ' 2 970, greatest, sub_mul, one_mul]

/-- No number of 53 binary digits lies between the greatest double and a power of two. -/
theorem pow_le_of_isBinary {x : ℚ} (binary : IsBinary x) (beyond : greatest < x) :
    2 ^ 1024 ≤ x := by
  obtain ⟨significand, exponent, small, -, rfl⟩ := binary
  have bounded : (significand : ℚ) ≤ 2 ^ 53 - 1 := by
    have : (significand : ℚ) + 1 ≤ 2 ^ 53 := by exact_mod_cast small
    linarith
  have large : 972 ≤ exponent := by
    by_contra few
    have power : (2 : ℚ) ^ exponent ≤ 2 ^ 971 := by
      rw [← zpow_ofNat]
      exact zpow_le_zpow_right₀ one_le_two (by omega)
    exact absurd beyond (not_lt_of_ge
      (mul_le_mul bounded power (zpow_nonneg zero_le_two _) (by norm_num)))
  obtain ⟨more, rfl⟩ := Int.le.dest large
  -- In units of the last place of the power of two the number is whole.
  have whole : (significand : ℚ) * 2 ^ ((972 : ℤ) + more) =
      ((significand * 2 ^ more : ℕ) : ℚ) * 2 ^ 972 := by
    rw [zpow_add₀ two_ne_zero, zpow_ofNat, zpow_natCast, Nat.cast_mul, Nat.cast_pow,
      Nat.cast_ofNat, mul_assoc, mul_comm (2 ^ 972)]
  have digits : 2 ^ 52 ≤ significand * 2 ^ more := by
    have last : (2 : ℚ) ^ 972 = 2 * 2 ^ 971 := pow_succ' 2 971
    rw [whole, greatest, last, ← mul_assoc, mul_lt_mul_iff_left₀ (pow_pos two_pos 971)] at beyond
    have beyond : 2 ^ 53 < significand * 2 ^ more * 2 + 1 := by
      have : (2 : ℚ) ^ 53 < ((significand * 2 ^ more : ℕ) : ℚ) * 2 + 1 := by linarith
      exact_mod_cast this
    omega
  rw [whole, pow_1024_eq]
  refine mul_le_mul_of_nonneg_right ?_ (pow_nonneg zero_le_two 972)
  exact_mod_cast digits

/-- What rounds to a finite double is what lies below the middle between the greatest double
and the next number of as many digits. -/
theorem roundsToFinite_iff (x : ℚ) : RoundsToFinite x ↔ |x| < 2 ^ 1024 - 2 ^ 970 := by
  have positive : (0 : ℚ) < 2 ^ 970 := pow_pos two_pos 970
  have isBinary_next := isBinary_pow_1024
  have next_le {beyond : ℚ} := pow_le_of_isBinary (x := beyond)
  have last := greatest_eq
  generalize (2 : ℚ) ^ 1024 = next at *
  generalize (2 : ℚ) ^ 970 = unit at *
  constructor
  · rintro ⟨double, -, small, nearer⟩
    have closer := nearer next isBinary_next (by linarith)
    by_contra tooGreat
    rw [not_lt] at tooGreat
    have away : |x| - double ≤ |(|x| - double)| := le_abs_self _
    rcases le_total |x| next with below | above
    · rw [abs_of_nonpos (sub_nonpos.mpr below)] at closer
      linarith
    · rw [abs_of_nonneg (sub_nonneg.mpr above)] at closer
      linarith
  · intro below
    refine ⟨greatest, isBinary_greatest, le_refl _, fun beyond binary larger => ?_⟩
    have atLeast := next_le binary larger
    have away : beyond - |x| ≤ |(|x| - beyond)| := by
      rw [abs_sub_comm]
      exact le_abs_self _
    refine lt_of_lt_of_le (abs_lt.mpr ⟨?_, ?_⟩) away
    · linarith
    · linarith

/-! ### Integers -/

/-- A text that is an integer of 64 bits: digits behind an optional sign, which write an
integer in the range of such words. -/
def IsInteger64 (text : List Char) : Prop :=
  ∃ sign digits, IsSign sign ∧ digits ≠ [] ∧ IsDigits digits ∧ text = sign ++ digits ∧
    -2 ^ 63 ≤ signed sign (natural digits : ℤ) ∧ signed sign (natural digits : ℤ) < 2 ^ 63

theorem abs_signed {α : Type} [Ring α] [LinearOrder α] [IsOrderedRing α] (sign : List Char)
    (value : α) : |signed sign value| = |value| := by
  rw [signed, apply_ite abs, abs_neg, ite_self]

/-- An integer of 64 bits is a numeral, and far from too great. -/
theorem denotes_of_isInteger64 {text : List Char} (integer : IsInteger64 text) :
    ∃ value, Denotes text value ∧ |value| < 2 ^ 1024 - 2 ^ 970 := by
  obtain ⟨sign, digits, isSign, nonempty, isDigits, rfl, least, most⟩ := integer
  have denotes := Denotes.numeral isSign (.whole nonempty isDigits) .missing
  rw [List.append_nil, zpow_zero, mul_one] at denotes
  have few : natural digits ≤ 2 ^ 63 := by
    have range : |signed sign (natural digits : ℤ)| ≤ 2 ^ 63 := abs_le.mpr ⟨least, most.le⟩
    rw [abs_signed, Nat.abs_cast] at range
    exact_mod_cast range
  have bound : 2 ^ 63 < overflowBound := by decide +kernel
  refine ⟨_, denotes, ?_⟩
  rw [abs_signed, Nat.abs_cast, ← cast_overflowBound]
  exact_mod_cast lt_of_le_of_lt few bound

/-- The number of which a text reads as the numeral decides. -/
theorem isNumber_iff_of_denotes {text : String} {value : ℚ} (denotes : Denotes text.toList value) :
    isNumber text = true ↔ |value| < 2 ^ 1024 - 2 ^ 970 := by
  obtain ⟨n, read, rfl⟩ := denotes.read?
  have spells := spells_of_read? read
  have unsigned : |if (splitSign text.toList).1 then -n.magnitude else n.magnitude| =
      n.magnitude := by
    rw [apply_ite abs, abs_neg, ite_self, abs_of_nonneg]
    exact mul_nonneg (Nat.cast_nonneg _) (zpow_nonneg (by norm_num) _)
  rw [unsigned, ← isFinite_iff (spells.whole.append spells.fraction), isNumber, read]

end Numeral

/-- A text is a number exactly if it is a numeral and the number that it stands for is of a
magnitude below 2^1024 - 2^970. In whichever way it may be read as a numeral, that number
decides. These are the texts that are integers of 64 bits or round to finite doubles; the
integers among them are there twice. -/
theorem isNumber_iff_value_lt (text : String) :
    (isNumber text = true ↔
      ∃ value, Numeral.Denotes text.toList value ∧ |value| < 2 ^ 1024 - 2 ^ 970) ∧
    (∀ value, Numeral.Denotes text.toList value →
      (isNumber text = true ↔ |value| < 2 ^ 1024 - 2 ^ 970)) ∧
    (isNumber text = true ↔ Numeral.IsInteger64 text.toList ∨
      ∃ value, Numeral.Denotes text.toList value ∧ Numeral.RoundsToFinite value) ∧
    (Numeral.IsInteger64 text.toList →
      ∃ value, Numeral.Denotes text.toList value ∧ Numeral.RoundsToFinite value) := by
  simp only [Numeral.roundsToFinite_iff]
  have exact : isNumber text = true ↔
      ∃ value, Numeral.Denotes text.toList value ∧ |value| < 2 ^ 1024 - 2 ^ 970 := by
    constructor
    · intro number
      cases read : Numeral.read? text.toList with
      | none => simp [isNumber, read] at number
      | some n =>
          have denotes := Numeral.denotes_of_read? read
          exact ⟨_, denotes, (Numeral.isNumber_iff_of_denotes denotes).mp number⟩
    · rintro ⟨value, denotes, small⟩
      exact (Numeral.isNumber_iff_of_denotes denotes).mpr small
  refine ⟨exact, fun _ => Numeral.isNumber_iff_of_denotes, ?_, Numeral.denotes_of_isInteger64⟩
  rw [exact, or_iff_right_of_imp Numeral.denotes_of_isInteger64]

end WhereClause
