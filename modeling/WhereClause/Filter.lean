/-
# Filters

A filter as a tree. Its leaves compare a field with a value, or ask whether the
field has one of several values; the inner nodes join, negate and group. A group
is a node of its own: parentheses that an author wrote are kept, whether they
change the meaning or not.

The tree admits leaves of any text. That the leaves of a filter read from a text
are safe to print is a property of the reader, not of this type.
-/

import WhereClause.Field
import WhereClause.Literal
import WhereClause.Operator

namespace WhereClause

/-- A filter expression. -/
inductive Filter
  /-- The field compares with the value. -/
  | condition (field : Field) (comparison : Comparison) (value : Literal)
  /-- The field has one of the values. -/
  | oneOf (field : Field) (values : List Literal)
  /-- Both filters hold, or at least one of them. -/
  | binary (connective : Connective) (left right : Filter)
  /-- The filter does not hold. -/
  | negation (operand : Filter)
  /-- A filter between parentheses. -/
  | group (inner : Filter)
  deriving DecidableEq, Repr

namespace Filter

/-- A filter under as many negations as the count says. -/
def negated : Nat → Filter → Filter
  | 0, filter => filter
  | count + 1, filter => negated count (.negation filter)

/-- The greatest number of groups of a filter that lie within one another. -/
def groupDepth : Filter → Nat
  | .condition .. => 0
  | .oneOf .. => 0
  | .binary _ left right => max left.groupDepth right.groupDepth
  | .negation operand => operand.groupDepth
  | .group inner => inner.groupDepth + 1

end Filter

end WhereClause
