/-
# The level at which a filter is written

A connective or a negation is written in parentheses unless its level is zero, and what stands
below it has the next level. So all levels but zero give the same text, as long as there is a
next level where one is needed. Levels are words of 64 bits. A filter that is written near the
end of their range and comes to a connective or a negation at the last of them has no text: the
run breaks off there.

How near that is depends on the connectives and negations within one another, down from the top
of the filter. Inside of a group the levels begin at zero again, on purpose, so nothing in a
group matters.
-/

import WhereClause.Proofs.Filter.Rendering

namespace WhereClause.Filter

/-- The greatest number of connectives and negations within one another, down from the top of a
filter as far as its groups. -/
def operatorDepth : Filter → Nat
  | .condition .. | .oneOf .. | .group _ => 0
  | .binary _ left right => max left.operatorDepth right.operatorDepth + 1
  | .negation operand => operand.operatorDepth + 1

/-- It is no greater than the height, in which groups count too. -/
theorem operatorDepth_le_height (filter : Filter) : filter.operatorDepth ≤ filter.height := by
  induction filter with
  | condition | oneOf | group => exact Nat.zero_le _
  | binary connective left right ihLeft ihRight =>
      simp only [operatorDepth, height]
      omega
  | negation operand ih =>
      simp only [operatorDepth, height]
      omega

/-- Whether the levels of a filter fit into a word is a matter of the first level and of the
depth. The bound on the height is there for the groups, whose levels have nothing to do with the
level of the filter. -/
theorem fits_iff {filter : Filter} {level : Nat} (low : filter.height < 2 ^ 64)
    (word : level < 2 ^ 64) :
    filter.Fits level ↔ level + filter.operatorDepth < 2 ^ 64 := by
  induction filter generalizing level with
  | condition | oneOf => exact iff_of_true True.intro word
  | binary connective left right ihLeft ihRight =>
      simp only [height] at low
      rw [Fits, operatorDepth]
      by_cases next : level + 1 < 2 ^ 64
      · rw [ihLeft (by omega) next, ihRight (by omega) next]
        omega
      · exact iff_of_false (fun fits => next fits.1) (by omega)
  | negation operand ih =>
      simp only [height] at low
      rw [Fits, operatorDepth]
      by_cases next : level + 1 < 2 ^ 64
      · rw [ih (by omega) next]
        omega
      · exact iff_of_false (fun fits => next fits.1) (by omega)
  | group inner =>
      simp only [height] at low
      have inside : inner.Fits 0 := fits_of_height (by omega)
      exact iff_of_true inside word

/-- A filter has the same text at all levels but zero. -/
theorem textAt_eq_textAt_one {filter : Filter} {level : Nat} (positive : 1 ≤ level) :
    filter.textAt level = filter.textAt 1 := by
  have enclosed {level : Nat} (positive : 1 ≤ level) (text : String) :
      wrap level text = "(" ++ text ++ ")" := if_pos positive
  induction filter generalizing level with
  | condition | oneOf | group => rfl
  | binary connective left right ihLeft ihRight =>
      rw [textAt, textAt, ihLeft (Nat.le_add_left 1 level), ihRight (Nat.le_add_left 1 level),
        ihLeft (Nat.le_add_left 1 1), ihRight (Nat.le_add_left 1 1), enclosed positive,
        enclosed (Nat.le_refl 1)]
  | negation operand ih =>
      rw [textAt, textAt, ih (Nat.le_add_left 1 level), ih (Nat.le_add_left 1 1),
        enclosed positive, enclosed (Nat.le_refl 1)]

/-- At level one a filter has a text. At another level above zero it has the same text as far as
its connectives and negations within one another leave room for their levels below the end of
the range, and at no level beyond has it any text. That the range has room for the whole filter
above level one is no loss: every connective, every negation and every group takes up memory. -/
theorem sqlAt_eq_sqlAt_one_iff {filter : Filter} {level : UInt64} (positive : 1 ≤ level)
    (low : filter.height + 1 < 2 ^ 64) :
    filter.sqlAt 1 = some (filter.textAt 1) ∧
      (filter.sqlAt level = filter.sqlAt 1 ↔ level.toNat + filter.operatorDepth < 2 ^ 64) ∧
      (filter.sqlAt level = none ↔ 2 ^ 64 ≤ level.toNat + filter.operatorDepth) := by
  have first : filter.sqlAt 1 = some (filter.textAt 1) := by
    have fits : filter.Fits 1 := fits_of_height (by omega)
    rw [sqlAt_eq_ite, UInt64.toNat_one, if_pos fits]
  have same : filter.textAt level.toNat = filter.textAt 1 :=
    textAt_eq_textAt_one (UInt64.le_iff_toNat_le.mp positive)
  have fits : filter.Fits level.toNat ↔ level.toNat + filter.operatorDepth < 2 ^ 64 :=
    fits_iff (by omega) level.toNat_lt
  rw [first, sqlAt_eq_ite, same, ← Nat.not_lt, ← fits]
  refine ⟨rfl, ?_, ?_⟩
  · rw [Option.ite_none_right_eq_some]
    exact and_iff_left rfl
  · simp

/-- The filter `a eq 1 and b eq 2 or c eq 3`. -/
def conjunctionInDisjunction : Filter :=
  .binary .or
    (.binary .and (.condition ⟨"a"⟩ .equal ⟨"1"⟩) (.condition ⟨"b"⟩ .equal ⟨"2"⟩))
    (.condition ⟨"c"⟩ .equal ⟨"3"⟩)

/-- With two connectives within one another, the last level but two still gives the text of
level one. -/
theorem sqlAt_eq_sqlAt_one_lastButTwo :
    1 ≤ (18446744073709551613 : UInt64) ∧ conjunctionInDisjunction.height + 1 < 2 ^ 64 ∧
      conjunctionInDisjunction.sqlAt 18446744073709551613 = conjunctionInDisjunction.sqlAt 1 := by
  have positive : 1 ≤ (18446744073709551613 : UInt64) := by decide
  have low : conjunctionInDisjunction.height + 1 < 2 ^ 64 := by decide
  exact ⟨positive, low, (sqlAt_eq_sqlAt_one_iff positive low).2.1.mpr (by decide)⟩

/-- At the last level there is no level for the conjunction, and nothing is written. -/
theorem sqlAt_ne_sqlAt_one_last :
    conjunctionInDisjunction.sqlAt 18446744073709551615 = none ∧
      conjunctionInDisjunction.sqlAt 1 = some "((a = 1 AND b = 2) OR c = 3)" ∧
      conjunctionInDisjunction.sqlAt 18446744073709551615 ≠ conjunctionInDisjunction.sqlAt 1 := by
  have last : conjunctionInDisjunction.sqlAt 18446744073709551615 = none := by
    rw [sqlAt_eq_ite]
    exact if_neg (by decide)
  have first : conjunctionInDisjunction.sqlAt 1 = some "((a = 1 AND b = 2) OR c = 3)" := by
    rw [sqlAt_eq_ite, if_pos (by decide)]
    rfl
  refine ⟨last, first, ?_⟩
  rw [last, first]
  exact (Option.some_ne_none _).symm

end WhereClause.Filter
