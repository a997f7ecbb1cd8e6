/-
# From filter text to SQL

A translator takes the text of a filter to its tree and to SQL. White space
around the text is dropped; a text with nothing else in it is no filter and no
error. The length limit is looked at first, then the text is cut into tokens,
and only when all of it has been cut are the tokens read: a string that is not
closed hides every other error.
-/

import WhereClause.Filter.Sql
import WhereClause.Parser
import WhereClause.Settings
import WhereClause.Token.Lexer

namespace WhereClause

/-- Why a text is refused. -/
inductive Cause
  | unclosedString (error : UnclosedString)
  | misread (error : SyntaxError)
  | tooLong (length limit : Nat)
  deriving DecidableEq, Repr

/-- The cause as a text. -/
def Cause.message : Cause → String
  | .unclosedString error => "tokenization failed: " ++ error.message
  | .misread error => error.message
  | .tooLong length limit =>
    "filter is " ++ toString length ++ " bytes long, the limit is " ++ toString limit

/-- A text that was refused, without the white space around it, and why. -/
structure Rejection where
  filter : String
  cause : Cause
  deriving DecidableEq, Repr

namespace Rejection

/-- The rejection as a text. -/
def message (rejection : Rejection) : String :=
  "invalid OData filter " ++ Text.quoted rejection.filter ++ ": " ++ rejection.cause.message

/-- The texts of what lies behind the rejection, the nearest first. -/
def sources (rejection : Rejection) : List String :=
  match rejection.cause with
  | .unclosedString error => [rejection.cause.message, error.message]
  | cause => [cause.message]

end Rejection

/-- The choices that translating a filter depends on. -/
structure Translator where
  reserved : ReservedWords
  nestingLimit : UInt64
  lengthLimit : Option UInt64
  deriving DecidableEq, Repr

namespace Translator

/-- The translator that some settings ask for. -/
def ofSettings (settings : Settings) : Translator :=
  { reserved := .ofList settings.reservedWords
    nestingLimit := settings.nestingLimit
    lengthLimit := settings.lengthLimit }

/-- The translator with the default limits and the fixed reserved words. -/
def standard : Translator :=
  ofSettings .standard

/-- Whether a text of some length is too long, and for which limit. -/
def exceededLimit? (translator : Translator) (length : Nat) : Option Nat :=
  (translator.lengthLimit.map UInt64.toNat).filter (· < length)

/-- Read a text that has no white space around it and is not empty. -/
def read (translator : Translator) (text : String) : Except Cause Filter :=
  match translator.exceededLimit? text.utf8ByteSize with
  | some limit => .error (.tooLong text.utf8ByteSize limit)
  | none =>
    match tokenize text with
    | .error error => .error (.unclosedString error)
    | .ok tokens =>
      (Filter.ofTokens translator.reserved translator.nestingLimit.toNat tokens).mapError .misread

/-- The filter that a text writes, or none if the text is blank. -/
def parse (translator : Translator) (text : String) : Except Rejection (Option Filter) :=
  let filter := Text.trim text
  if filter.isEmpty then
    .ok none
  else
    match translator.read filter with
    | .ok tree => .ok (some tree)
    | .error cause => .error { filter, cause }

/-- The SQL text of the filter that a text writes, which is empty if the text is
blank. -/
def convert (translator : Translator) (text : String) : Except Rejection String :=
  (translator.parse text).map fun
    | some filter => filter.sql
    | none => ""

end Translator

end WhereClause
