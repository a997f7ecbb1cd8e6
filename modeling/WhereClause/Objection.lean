/-
# Objections to a field name or a value

Why a word of a filter cannot become part of the SQL text.
-/

import WhereClause.Text.Quoted

namespace WhereClause

/-- Why a field name or a value is refused. -/
inductive Objection
  /-- The word, here in the form in which it was compared, is reserved. -/
  | reservedWord (word : String)
  /-- The field would be called like a literal. -/
  | literalAsField (word : String)
  /-- The text is not made like a field name. -/
  | malformedName
  /-- The value holds a sequence that ends a statement or bounds a comment. -/
  | forbiddenSequence (sequence : String)
  /-- The token cannot be a value. -/
  | notAValue
  deriving DecidableEq, Repr

/-- The objection as one line of text. -/
def Objection.message : Objection → String
  | .reservedWord word => Text.quoted word ++ " is a reserved SQL keyword"
  | .literalAsField word => Text.quoted word ++ " is a literal, not a field name"
  | .malformedName => "field names may only contain ASCII letters, digits and underscores"
  | .forbiddenSequence sequence => "contains forbidden sequence " ++ Text.quoted sequence
  | .notAValue => "expected a string, number or bareword"

end WhereClause
