/-
# Reserved words

Words of SQL that a filter may use neither as a field name nor as a bare value.
A fixed list is always in force, and a user of the library can add words. Case
does not matter: a word is compared in lowercase, and the added words are kept
in lowercase and without white space around them.
-/

import WhereClause.Text.Lowercase

namespace WhereClause

/-- The words reserved on top of the fixed list, in the form in which they are
compared. -/
structure ReservedWords where
  extra : List String
  deriving DecidableEq, Repr

namespace ReservedWords

/-- The fixed list. -/
def builtin : List String :=
  ["select", "insert", "update", "delete", "drop", "alter", "from", "where", "join", "order",
   "group", "having", "limit", "offset", "union", "except", "intersect"]

/-- The fixed list and nothing else. -/
def standard : ReservedWords :=
  { extra := [] }

/-- The fixed list and the given words. A word with nothing but white space in
it reserves nothing. -/
def ofList (words : List String) : ReservedWords :=
  { extra := (words.map fun word => Text.lowercase (Text.trim word)).filter (· != "") }

/-- Whether a word is reserved, in whatever case it is written. -/
def contains (reserved : ReservedWords) (word : String) : Bool :=
  let lower := Text.lowercase word
  builtin.contains lower || reserved.extra.contains lower

end ReservedWords

/-- The words that stand for a truth value or for the missing value. -/
def keywordLiterals : List String :=
  ["true", "false", "null"]

end WhereClause
