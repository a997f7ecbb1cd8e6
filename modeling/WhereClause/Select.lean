/-
# SELECT statements

A filter can be wrapped in a statement that selects the rows of an entity's
table. The name of the table stands between the quotes of the dialect, with that
quote doubled inside, so no name can run into what follows it. The text of the
filter is inserted as it is.
-/

import WhereClause.Dialect
import WhereClause.Filter.Sql
import WhereClause.TableMapping
import WhereClause.Text.Doubling
import WhereClause.Text.Lowercase

namespace WhereClause

/-- Where statements are sent: a dialect, and tables for some of the entities. -/
structure Catalog where
  dialect : Dialect
  tables : TableMapping
  deriving DecidableEq, Repr

namespace Catalog

/-- The catalog of a dialect, without tables of its own. -/
def ofDialect (dialect : Dialect) : Catalog :=
  { dialect, tables := .empty }

/-- The table of an entity: the one it is mapped to, or else the name of the
entity in lowercase. -/
def tableName (catalog : Catalog) (entity : String) : String :=
  (catalog.tables.find? entity).getD (Text.lowercase entity)

/-- A name between the quotes of a dialect. -/
def quotedName (dialect : Dialect) (name : String) : String :=
  String.ofList (dialect.quote :: Text.double dialect.quote name.toList ++ [dialect.quote])

/-- The statement that selects the rows of an entity's table for which a filter
holds, or all of them. -/
def select (catalog : Catalog) (filter : Option Filter) (entity : String) : String :=
  let condition := match filter with
    | some filter => " WHERE " ++ filter.sql
    | none => ""
  "SELECT * FROM " ++ quotedName catalog.dialect (catalog.tableName entity) ++ condition

end Catalog

end WhereClause
