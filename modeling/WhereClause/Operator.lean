/-
# Operators

The two connectives that join conditions and the six comparisons that make one,
each with the keyword that a filter uses for it and the text that stands for it
in SQL. Negation and list membership have no second spelling and are written out
where they occur.
-/

namespace WhereClause

/-- What joins two filters. -/
inductive Connective
  | and
  | or
  deriving DecidableEq, Repr

/-- The keyword of a connective in a filter. -/
def Connective.keyword : Connective → String
  | .and => "and"
  | .or => "or"

/-- The SQL keyword of a connective. -/
def Connective.sql : Connective → String
  | .and => "AND"
  | .or => "OR"

/-- How a condition compares its field with its value. -/
inductive Comparison
  | equal
  | unequal
  | greater
  | atLeast
  | less
  | atMost
  deriving DecidableEq, Repr

namespace Comparison

/-- The keyword of a comparison in a filter. -/
def keyword : Comparison → String
  | .equal => "eq"
  | .unequal => "ne"
  | .greater => "gt"
  | .atLeast => "ge"
  | .less => "lt"
  | .atMost => "le"

/-- The symbol of a comparison in SQL. -/
def sql : Comparison → String
  | .equal => "="
  | .unequal => "!="
  | .greater => ">"
  | .atLeast => ">="
  | .less => "<"
  | .atMost => "<="

end Comparison

end WhereClause
