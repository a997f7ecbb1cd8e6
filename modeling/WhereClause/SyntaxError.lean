/-
# Syntax errors

What can be wrong with a sequence of tokens that is not a filter. An error names
the first token after which no filter is possible any more, or says what is
missing where the tokens end.
-/

import WhereClause.Field
import WhereClause.Objection
import WhereClause.Token

namespace WhereClause

/-- What is missing where the tokens end too early. -/
inductive Expectation
  | expression
  | comparisonOperator
  | listOpening
  | value
  deriving DecidableEq, Repr

/-- What is missing, as messages name it. -/
def Expectation.phrase : Expectation → String
  | .expression => "an expression"
  | .comparisonOperator => "a comparison operator"
  | .listOpening => "`(` after IN"
  | .value => "a value"

/-- An operator after which an operand must follow. -/
inductive Lead
  | negation
  | connective (joint : Connective)
  deriving DecidableEq, Repr

/-- An operator, as messages name it. -/
def Lead.phrase : Lead → String
  | .negation => "NOT"
  | .connective joint => joint.sql

/-- Why a sequence of tokens is not a filter. -/
inductive SyntaxError
  /-- A token that can neither begin an operand nor open a list of values. -/
  | unexpectedToken (found : String) (span : Span)
  /-- The tokens end where something must follow. -/
  | unexpectedEnd (expected : Expectation)
  /-- The tokens end after an operator. -/
  | missingOperand (lead : Lead)
  /-- A group is not closed after a complete expression. -/
  | unclosedGroup (opening : Span)
  /-- A list of values is closed before its first value. -/
  | emptyList (field : Field)
  /-- A list of values breaks off. -/
  | unclosedList (field : Field)
  /-- A token that cannot name a field. -/
  | invalidField (text : String) (objection : Objection)
  /-- A token that cannot be a value. -/
  | invalidValue (text : String) (objection : Objection)
  /-- A field is followed by something other than a comparison or a list. -/
  | unsupportedOperator (found : String) (span : Span)
  /-- More groups lie within one another than the limit admits. -/
  | nestingTooDeep (limit : Nat)
  /-- A complete filter is followed by another token. -/
  | trailingTokens (found : String) (span : Span)
  deriving DecidableEq, Repr

/-- The error as one line of text, unless a token in it brings line breaks. -/
def SyntaxError.message : SyntaxError → String
  | .unexpectedToken found span => "unexpected token `" ++ found ++ "` at " ++ span.display
  | .unexpectedEnd expected => "expected " ++ expected.phrase ++ ", but reached end of input"
  | .missingOperand lead =>
    "expected an expression after " ++ lead.phrase ++ ", but reached end of input"
  | .unclosedGroup opening =>
    "missing closing parenthesis for group opened at " ++ opening.display
  | .emptyList field => "IN list for field `" ++ field.name ++ "` must have at least one value"
  | .unclosedList field => "IN list for field `" ++ field.name ++ "` is not closed"
  | .invalidField text objection =>
    "invalid field name `" ++ text ++ "`: " ++ objection.message
  | .invalidValue text objection => "invalid value `" ++ text ++ "`: " ++ objection.message
  | .unsupportedOperator found span => "unsupported operator `" ++ found ++ "` at " ++ span.display
  | .nestingTooDeep limit => "exceeded maximum nesting depth of " ++ toString limit
  | .trailingTokens found span =>
    "unexpected extra tokens starting with `" ++ found ++ "` at " ++ span.display

end WhereClause
