/-
# Literals

The SQL text of a value. A number is copied, `true`, `false` and `null` are put
in lowercase, and everything else becomes a quoted string, with each quote
inside it doubled.

A value that holds a statement terminator or a comment mark is refused wherever
in the text it stands, also inside a quoted string; so are the reserved words.
Only numbers escape these checks, because no number can fail them.
-/

import WhereClause.Numeral
import WhereClause.Objection
import WhereClause.Reserved
import WhereClause.Text.Doubling
import WhereClause.Text.Occurrence

namespace WhereClause

/-- A value, as SQL has it. The type itself admits any text: `Literal.ofText` is
what makes literals that are safe. -/
structure Literal where
  sql : String
  deriving DecidableEq, Repr

namespace Literal

/-- The sequences that end a statement or bound a comment, in the order in which
they are looked for. -/
def forbiddenSequences : List String :=
  [";", "--", "/*", "*/"]

/-- The first forbidden sequence, in the order of the list, that a text holds. -/
def forbiddenSequence? (text : String) : Option String :=
  forbiddenSequences.find? fun sequence => Text.occursIn sequence.toList text.toList

/-- A text without a quote at its beginning and then without one at its end. A
single quote is taken from the beginning. -/
def stripQuotes (cs : List Char) : List Char :=
  let body := match cs with
    | '\'' :: rest => rest
    | _ => cs
  if body.getLast? = some '\'' then body.dropLast else body

/-- A list of characters as a string of SQL. -/
def quote (body : List Char) : List Char :=
  '\'' :: Text.double '\'' body ++ ['\'']

/-- The literal that the text of a token stands for. A quoted string comes with
its outer quotes. -/
def ofText (reserved : ReservedWords) (text : String) : Except Objection Literal :=
  if isNumber text then
    .ok { sql := text }
  else
    let lower := Text.lowercase text
    match forbiddenSequence? lower with
    | some sequence => .error (.forbiddenSequence sequence)
    | none =>
      if reserved.contains lower then
        .error (.reservedWord lower)
      else if keywordLiterals.contains lower then
        .ok { sql := lower }
      else
        .ok { sql := String.ofList (quote (stripQuotes text.toList)) }

end Literal

end WhereClause
