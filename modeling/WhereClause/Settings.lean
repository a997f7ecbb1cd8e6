/-
# Settings

What a user of the library can choose: two limits, the words reserved in
addition to the fixed ones, the dialect, and tables for entities.
-/

import WhereClause.Dialect
import WhereClause.Parser
import WhereClause.TableMapping

namespace WhereClause

/-- The choices of a user. The limits are counts of a 64-bit machine; the second
counts the bytes of a filter, and without it any length is admitted. -/
structure Settings where
  nestingLimit : UInt64
  lengthLimit : Option UInt64
  reservedWords : List String
  dialect : Dialect
  tables : TableMapping
  deriving DecidableEq, Repr

/-- What holds if nothing is chosen. -/
def Settings.standard : Settings :=
  { nestingLimit := .ofNat defaultNestingLimit
    lengthLimit := none
    reservedWords := []
    dialect := .postgres
    tables := .empty }

end WhereClause
