/-
# SQL dialects

The dialects differ in the quote around the name of a table and in nothing else
that matters here.
-/

namespace WhereClause

/-- A dialect of SQL. -/
inductive Dialect
  | postgres
  | mysql
  | sqlite
  deriving DecidableEq, Repr

/-- A text that names no dialect. -/
structure UnknownDialect where
  text : String
  deriving DecidableEq, Repr

/-- What went wrong, as one line of text. -/
def UnknownDialect.message (error : UnknownDialect) : String :=
  "unknown SQL dialect `" ++ error.text ++ "`, expected postgres, mysql or sqlite"

namespace Dialect

/-- The name of a dialect. -/
def name : Dialect → String
  | .postgres => "postgres"
  | .mysql => "mysql"
  | .sqlite => "sqlite"

/-- The dialect with exactly the given name. -/
def ofName? (name : String) : Option Dialect :=
  [postgres, mysql, sqlite].find? (·.name == name)

/-- The dialect that a person means by a text: a name in whatever case of ASCII
letters, or the long name of the first one. -/
def ofText (text : String) : Except UnknownDialect Dialect :=
  let lower := String.ofList (text.toList.map Char.toLower)
  if lower = "postgresql" then
    .ok .postgres
  else
    match ofName? lower with
    | some dialect => .ok dialect
    | none => .error { text }

/-- The quote around the name of a table. -/
def quote : Dialect → Char
  | .postgres => '"'
  | .mysql => '\x60'
  | .sqlite => '"'

theorem ofName?_name (dialect : Dialect) : ofName? dialect.name = some dialect := by
  cases dialect <;> decide

end Dialect

end WhereClause
