/-
# The text that is written is the text that is meant

The SQL text of a filter is defined by recursion on the filter and produced from a
list of pending pieces. What has been written, followed by the texts of the pieces
that are pending, never changes while pieces are taken up; so when nothing is pending
any more, the text is the one that a recursion over the filter gives.

That recursion counts levels without end. The pieces count them in a machine word, and
the run breaks off where a connective or a negation has no level left for its operands.
So there are two outcomes, and which of them it is depends on the filter and the level
alone: the text that is meant, if the levels of the whole filter fit into a word, and no
text otherwise. From level zero they fit if the filter is less than 2 ^ 64 high, and no
memory holds a higher one.
-/

import Mathlib.Algebra.Group.Nat.Defs
import WhereClause.Filter.Sql

namespace WhereClause.Filter

/-- The number of connectives, negations and groups above the deepest leaf. -/
def height : Filter → Nat
  | .condition .. => 0
  | .oneOf .. => 0
  | .binary _ left right => max left.height right.height + 1
  | .negation operand => operand.height + 1
  | .group inner => inner.height + 1

/-- The texts of the values of a list, the first of them set apart. -/
theorem listText_cons (first second : Literal) (rest : List Literal) :
    listText (first :: second :: rest) =
      first.sql ++ ", " ++ listText (second :: rest) := by
  have shift (front text : String) (values : List Literal) :
      values.foldl (fun text value => text ++ ", " ++ value.sql) (front ++ text) =
        front ++ values.foldl (fun text value => text ++ ", " ++ value.sql) text := by
    induction values generalizing text with
    | nil => rfl
    | cons value values ih =>
        rw [List.foldl_cons, List.foldl_cons, ← ih, String.append_assoc, String.append_assoc,
          String.append_assoc]
  rw [listText, listText, List.foldl_cons, shift]

/-- The values of a list stand in order, with a comma and a space between any two. -/
theorem listText_eq_intercalate (values : List Literal) :
    listText values = ", ".intercalate (values.map Literal.sql) := by
  induction values with
  | nil => rfl
  | cons first rest ih =>
      cases rest with
      | nil => rw [List.map_singleton, String.intercalate_singleton, listText, List.foldl_nil]
      | cons second rest =>
          rw [listText_cons, ih, List.map_cons, List.map_cons, List.map_cons,
            String.intercalate_cons_cons]

/-- The levels of what a filter is made of fit into a word when the filter is written at
this level. Leaves need no level below their own, and a group begins at zero again. -/
def Fits : Filter → Nat → Prop
  | .condition .., _ | .oneOf .., _ => True
  | .binary _ left right, level =>
    level + 1 < 2 ^ 64 ∧ left.Fits (level + 1) ∧ right.Fits (level + 1)
  | .negation operand, level => level + 1 < 2 ^ 64 ∧ operand.Fits (level + 1)
  | .group inner, _ => inner.Fits 0

instance decidableFits : (filter : Filter) → (level : Nat) → Decidable (filter.Fits level)
  | .condition .., _ | .oneOf .., _ => .isTrue True.intro
  | .binary _ left right, level =>
    have := left.decidableFits (level + 1)
    have := right.decidableFits (level + 1)
    inferInstanceAs (Decidable (_ ∧ _ ∧ _))
  | .negation operand, level =>
    have := operand.decidableFits (level + 1)
    inferInstanceAs (Decidable (_ ∧ _))
  | .group inner, _ => inner.decidableFits 0

/-- A filter that is not too high for its level fits. -/
theorem fits_of_height {filter : Filter} {level : Nat}
    (low : level + filter.height < 2 ^ 64) : filter.Fits level := by
  induction filter generalizing level with
  | condition | oneOf => exact True.intro
  | binary connective left right ihLeft ihRight =>
      simp only [height] at low
      exact ⟨by omega, ihLeft (by omega), ihRight (by omega)⟩
  | negation operand ih =>
      simp only [height] at low
      exact ⟨by omega, ih (by omega)⟩
  | group inner ih =>
      simp only [height] at low
      exact ih (by omega)

/-- The text that a piece stands for. -/
def Piece.written : Piece → String
  | .text content => content
  | .tree filter level => filter.textAt level.toNat

/-- A piece whose levels fit. A text has none. -/
def Piece.Fits : Piece → Prop
  | .text _ => True
  | .tree filter level => filter.Fits level.toNat

@[simp] theorem Piece.fits_text (content : String) : (Piece.text content).Fits :=
  True.intro

@[simp] theorem Piece.fits_tree {filter : Filter} {level : UInt64} :
    (Piece.tree filter level).Fits ↔ filter.Fits level.toNat :=
  Iff.rfl

instance : DecidablePred Piece.Fits
  | .text _ => .isTrue True.intro
  | .tree filter level => filter.decidableFits level.toNat

/-- The next level is the one that is one greater. -/
theorem next?_eq_some_iff {level below : UInt64} :
    next? level = some below ↔ below.toNat = level.toNat + 1 := by
  have bounded := below.toNat_lt
  unfold next?
  split
  · next fits =>
      have exact : (level + 1).toNat = level.toNat + 1 := by
        rw [UInt64.toNat_add]
        exact Nat.mod_eq_of_lt fits
      rw [Option.some_inj, ← UInt64.toNat_inj, exact]
      exact eq_comm
  · next beyond =>
      exact iff_of_false (Option.some_ne_none _).symm fun next => beyond (next ▸ bounded)

/-- There is none where one more is too much. -/
theorem next?_eq_none_iff {level : UInt64} : next? level = none ↔ ¬ level.toNat + 1 < 2 ^ 64 := by
  unfold next?
  split
  · next fits => exact iff_of_false (Option.some_ne_none _) (not_not_intro fits)
  · next beyond => exact iff_of_true rfl beyond

/-- The closing piece of a connective or a negation is a text. -/
theorem fits_of_mem_closing {level : UInt64} : ∀ piece ∈ closing level, piece.Fits := by
  unfold closing
  split <;> simp

/-- If something is put off for a filter, its levels fit exactly if the filter's do. -/
theorem fits_iff_of_deferred? {filter : Filter} {level : UInt64} {pieces : List Piece}
    (met : filter.deferred? level = some pieces) :
    filter.Fits level.toNat ↔ ∀ piece ∈ pieces, piece.Fits := by
  have closes : ∀ piece ∈ closing level, piece.Fits := fits_of_mem_closing
  cases filter with
  | condition | oneOf =>
      cases met
      simp [Fits]
  | binary connective left right =>
      obtain ⟨below, next, rfl⟩ := Option.map_eq_some_iff.mp met
      have word := next?_eq_some_iff.mp next
      have bounded := below.toNat_lt
      simp only [Fits, List.forall_mem_cons, Piece.fits_text, Piece.fits_tree, word, true_and]
      exact ⟨fun ⟨_, first, second⟩ => ⟨first, second, closes⟩,
        fun ⟨first, second, _⟩ => ⟨word ▸ bounded, first, second⟩⟩
  | negation operand =>
      obtain ⟨below, next, rfl⟩ := Option.map_eq_some_iff.mp met
      have word := next?_eq_some_iff.mp next
      have bounded := below.toNat_lt
      simp only [Fits, List.forall_mem_cons, Piece.fits_tree, word]
      exact ⟨fun ⟨_, inside⟩ => ⟨inside, closes⟩, fun ⟨inside, _⟩ => ⟨word ▸ bounded, inside⟩⟩
  | group inner =>
      cases met
      simp [Fits]

/-- If nothing comes of meeting a filter, its levels do not fit. -/
theorem not_fits_of_deferred?_eq_none {filter : Filter} {level : UInt64}
    (met : filter.deferred? level = none) : ¬ filter.Fits level.toNat := by
  cases filter with
  | condition | oneOf | group => cases met
  | binary | negation =>
      exact fun fits => next?_eq_none_iff.mp (Option.map_eq_none_iff.mp met) fits.1

/-- What is written of a filter at once, and what is put off, make up its text. -/
theorem opened_append_deferred? {filter : Filter} {level : UInt64} {pieces : List Piece}
    (met : filter.deferred? level = some pieces) :
    filter.opened level ++ String.join (pieces.map Piece.written) =
      filter.textAt level.toNat := by
  have nested : 0 < level ↔ 0 < level.toNat := UInt64.lt_iff_toNat_lt
  cases filter with
  | condition | oneOf =>
      cases met
      simp [opened, textAt]
  | binary connective left right =>
      obtain ⟨below, next, rfl⟩ := Option.map_eq_some_iff.mp met
      have word := next?_eq_some_iff.mp next
      by_cases deep : 0 < level.toNat
      · simp [opened, closing, nested.mpr deep, Piece.written, textAt, wrap, deep, word,
          String.append_assoc]
      · simp [opened, closing, mt nested.mp deep, Piece.written, textAt, wrap, deep, word,
          String.append_assoc]
  | negation operand =>
      obtain ⟨below, next, rfl⟩ := Option.map_eq_some_iff.mp met
      have word := next?_eq_some_iff.mp next
      by_cases deep : 0 < level.toNat
      · simp [opened, closing, nested.mpr deep, Piece.written, textAt, wrap, deep, word,
          ← String.append_assoc]
      · simp [opened, closing, mt nested.mp deep, Piece.written, textAt, wrap, deep, word]
  | group inner =>
      cases met
      simp [opened, Piece.written, textAt, String.append_assoc]

/-- Writing pending pieces puts their texts after what has been written, if their levels fit. -/
theorem writePieces_eq_ite (done : String) (pending : List Piece) :
    writePieces done pending =
      if ∀ piece ∈ pending, piece.Fits then some (done ++ String.join (pending.map Piece.written))
      else none := by
  fun_induction writePieces done pending with
  | case1 done => simp
  | case2 done text pending ih => simp [ih, Piece.written, String.append_assoc]
  | case3 done filter level pending met =>
      have breaks : ¬ (Piece.tree filter level).Fits := not_fits_of_deferred?_eq_none met
      rw [if_neg fun fits => breaks (fits _ List.mem_cons_self)]
  | case4 done filter level pending pieces met ih =>
      have same : (Piece.tree filter level).Fits ↔ ∀ piece ∈ pieces, piece.Fits :=
        fits_iff_of_deferred? met
      rw [ih]
      simp only [List.forall_mem_append, List.forall_mem_cons, same, List.map_append,
        String.join_append, List.map_cons, String.join_cons, Piece.written,
        ← opened_append_deferred? met, String.append_assoc]

/-- The text written at a level is the text meant there, if the levels fit. If they do not,
there is none. -/
theorem sqlAt_eq_ite (filter : Filter) (level : UInt64) :
    filter.sqlAt level =
      if filter.Fits level.toNat then some (filter.textAt level.toNat) else none := by
  rw [sqlAt, writePieces_eq_ite]
  simp [Piece.written]

/-- The text of a whole filter is the text meant at level zero. -/
theorem sql_eq_textAt (filter : Filter) : filter.sql = filter.textAt 0 := by
  rw [sql, sqlAt_eq_ite, UInt64.toNat_zero]
  split
  · next written =>
      rw [Option.ite_none_right_eq_some] at written
      exact (Option.some_inj.mp written.2).symm
  · rfl

/-- It is written without breaking off, unless the filter is too high for any memory. -/
theorem sqlAt_zero {filter : Filter} (low : filter.height < 2 ^ 64) :
    filter.sqlAt 0 = some filter.sql := by
  have fits : filter.Fits 0 := fits_of_height (by omega)
  rw [sqlAt_eq_ite, UInt64.toNat_zero, if_pos fits, sql_eq_textAt]

/-- The writer that puts off what it comes to writes what the recursion says, while the levels
fit into a word. Whatever has been written and whatever is pending, a filter that is taken up at
a level adds the text that the recursion gives there, and then the pending pieces have their
turn; with nothing pending this is the text of the filter. Of a list the recursion says that its
values stand in order between parentheses, with a comma and a space between any two. -/
theorem writer_follows_recursion {filter : Filter} {level : Nat}
    (fits : level + filter.height < 2 ^ 64) :
    filter.sqlAt (.ofNat level) = some (filter.textAt level) ∧
      (∀ done pending, writePieces done (.tree filter (.ofNat level) :: pending) =
        writePieces (done ++ filter.textAt level) pending) ∧
      ∀ field values, filter = .oneOf field values →
        filter.textAt level =
          field.name ++ " IN (" ++ ", ".intercalate (values.map Literal.sql) ++ ")" := by
  have word : (UInt64.ofNat level).toNat = level :=
    UInt64.toNat_ofNat_of_lt' (Nat.lt_of_le_of_lt (Nat.le_add_right _ _) fits)
  have room : filter.Fits level := fits_of_height fits
  refine ⟨by rw [sqlAt_eq_ite, word, if_pos room], fun done pending => ?_, ?_⟩
  · have piece : (Piece.tree filter (.ofNat level)).Fits := by rwa [Piece.fits_tree, word]
    simp only [writePieces_eq_ite, List.forall_mem_cons, piece, true_and, List.map_cons,
      String.join_cons, Piece.written, word, String.append_assoc]
  · rintro field values rfl
    rw [textAt, oneOfText, listText_eq_intercalate]

/-- The filter `not (a in (1, 2) or not b eq 3)`. -/
def negatedMembership : Filter :=
  .negation (.group (.binary .or (.oneOf ⟨"a"⟩ [⟨"1"⟩, ⟨"2"⟩])
    (.negation (.condition ⟨"b"⟩ .equal ⟨"3"⟩))))

/-- Below another operator it gets one pair of parentheses more on the outside, none around its
group, and one inside of the group. -/
theorem writer_follows_recursion_membership :
    2 + negatedMembership.height < 2 ^ 64 ∧
      negatedMembership.sqlAt 2 = some "(NOT (a IN (1, 2) OR (NOT b = 3)))" := by
  have fits : 2 + negatedMembership.height < 2 ^ 64 := by decide
  exact ⟨fits, (writer_follows_recursion fits).1.trans rfl⟩

end WhereClause.Filter
