/-
# The SQL text of a filter

A filter is written with the parentheses of its groups and with one pair more
around every connective and every negation that stands below another one. The
second kind depends on the level at which a filter is written: zero for a whole
expression and for the inside of a group, one more for each connective or
negation above. Nothing but whether it is zero is asked of a level.

The text is defined twice. `Filter.textAt` follows the tree and says what the
text is. `Filter.sqlAt` writes what opens a filter at once and puts the rest off
in a list of pending pieces, the next one in front, so that a chain of many
thousand conditions, which is a tree as deep as the chain is long, needs no deep
recursion. It counts levels in a machine word with checked arithmetic. Below the
last level there is none for the operands of a connective or a negation, and a run
that comes to one there breaks off without a text.
-/

import WhereClause.Filter

namespace WhereClause

namespace Filter

/-- The text of a comparison of a field with a value. -/
def conditionText (field : Field) (comparison : Comparison) (value : Literal) : String :=
  field.name ++ " " ++ comparison.sql ++ " " ++ value.sql

/-- The texts of some values, with commas between them. -/
def listText : List Literal → String
  | [] => ""
  | first :: rest => rest.foldl (fun text value => text ++ ", " ++ value.sql) first.sql

/-- The text of a membership test. -/
def oneOfText (field : Field) (values : List Literal) : String :=
  field.name ++ " IN (" ++ listText values ++ ")"

/-- The text between the two sides of a connective. -/
def separator (connective : Connective) : String :=
  " " ++ connective.sql ++ " "

/-- Put parentheses around a text unless it stands at level zero. -/
def wrap (level : Nat) (text : String) : String :=
  if 0 < level then "(" ++ text ++ ")" else text

/-- The text of a filter at a level, by recursion on the filter. -/
def textAt : Filter → Nat → String
  | .condition field comparison value, _ => conditionText field comparison value
  | .oneOf field values, _ => oneOfText field values
  | .binary connective left right, level =>
    wrap level (left.textAt (level + 1) ++ separator connective ++ right.textAt (level + 1))
  | .negation operand, level => wrap level ("NOT " ++ operand.textAt (level + 1))
  | .group inner, _ => "(" ++ inner.textAt 0 ++ ")"

/-- A part of the text that is still to be written: a text as it is, or a filter
at a level. -/
inductive Piece
  | text (text : String)
  | tree (filter : Filter) (level : UInt64)

/-- What is written of a filter at a level as soon as it is met. Leaves are
written whole. -/
def opened (level : UInt64) : Filter → String
  | .condition field comparison value => conditionText field comparison value
  | .oneOf field values => oneOfText field values
  | .binary .. => if 0 < level then "(" else ""
  | .negation _ => if 0 < level then "(NOT " else "NOT "
  | .group _ => "("

/-- What closes a connective or a negation at a level. -/
def closing (level : UInt64) : List Piece :=
  if 0 < level then [.text ")"] else []

/-- The level below a level. The last level has none below it. -/
def next? (level : UInt64) : Option UInt64 :=
  if level.toNat + 1 < UInt64.size then some (level + 1) else none

/-- What is put off when a filter is met at a level, the next piece first, unless there
is no level for its operands. -/
def deferred? (level : UInt64) : Filter → Option (List Piece)
  | .condition .. | .oneOf .. => some []
  | .binary connective left right =>
    (next? level).map fun below =>
      .tree left below :: .text (separator connective) :: .tree right below :: closing level
  | .negation operand => (next? level).map fun below => .tree operand below :: closing level
  | .group inner => some [.tree inner 0, .text ")"]

/-- More than the number of pieces that are put off for a filter and for what it
is made of. -/
def weight : Filter → Nat
  | .condition .. => 1
  | .oneOf .. => 1
  | .binary _ left right => left.weight + right.weight + 3
  | .negation operand => operand.weight + 2
  | .group inner => inner.weight + 2

/-- The weight of a piece. A filter is heavier than all that is put off for it. -/
def Piece.weight : Piece → Nat
  | .text _ => 1
  | .tree filter _ => filter.weight

/-- The weight of some pieces together. -/
def totalWeight : List Piece → Nat
  | [] => 0
  | piece :: rest => piece.weight + totalWeight rest

/-- Weights add up. -/
theorem totalWeight_append (front back : List Piece) :
    totalWeight (front ++ back) = totalWeight front + totalWeight back := by
  induction front with
  | nil => simp [totalWeight]
  | cons piece front ih => simp [totalWeight, ih, Nat.add_assoc]

/-- What is put off for a filter is lighter than the filter. -/
theorem totalWeight_deferred? {level : UInt64} {filter : Filter} {pieces : List Piece}
    (met : filter.deferred? level = some pieces) : totalWeight pieces < filter.weight := by
  have closes : totalWeight (closing level) ≤ 1 := by
    unfold closing
    split <;> simp [totalWeight, Piece.weight]
  cases filter with
  | condition | oneOf =>
      cases met
      exact Nat.zero_lt_one
  | group =>
      cases met
      simp [totalWeight, Piece.weight, weight]
  | binary | negation =>
      obtain ⟨below, -, rfl⟩ := Option.map_eq_some_iff.mp met
      simp only [totalWeight, Piece.weight, weight]
      omega

/-- Write pending pieces after a text. They are taken up from the front, and what
is put off in doing so goes back in front of the others. -/
def writePieces (written : String) : List Piece → Option String
  | [] => some written
  | .text text :: pending => writePieces (written ++ text) pending
  | .tree filter level :: pending =>
    match _ : filter.deferred? level with
    | none => none
    | some pieces => writePieces (written ++ filter.opened level) (pieces ++ pending)
termination_by pending => totalWeight pending
decreasing_by
  · simp [totalWeight, Piece.weight]
  · have lighter := totalWeight_deferred? ‹filter.deferred? level = some pieces›
    rw [totalWeight_append, totalWeight, Piece.weight]
    omega

/-- The SQL text of a filter at a level, unless the levels run out. -/
def sqlAt (filter : Filter) (level : UInt64) : Option String :=
  writePieces "" [.tree filter level]

/-- The SQL text of a whole filter. Levels that begin at zero run out only in a filter
that no memory holds, and for such a one this is the text that is meant. -/
def sql (filter : Filter) : String :=
  match filter.sqlAt 0 with
  | some text => text
  | none => filter.textAt 0

end Filter

end WhereClause
