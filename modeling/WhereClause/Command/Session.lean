/-
# Sessions

A session answers filters one after another with the same choices. Each answer
depends on its filter alone. The filters come as the lines of a text; a blank
line gets no answer, and a filter that is refused does not end the session.
-/

import WhereClause.Command.Failure
import WhereClause.Filter.Json
import WhereClause.Select
import WhereClause.Translator

namespace WhereClause.Command

/-- What becomes of the filters of a session: they are shown as trees, or put
into statements over an entity's table, or shown as conditions. -/
structure Session where
  translator : Translator
  catalog : Catalog
  table : Option String
  showTree : Bool
  deriving DecidableEq, Repr

/-- What a program writes to its two channels. -/
structure Output where
  out : String
  err : String
  deriving DecidableEq, Repr

/-- The output of a first part and a second. -/
def Output.append (first second : Output) : Output :=
  { out := first.out ++ second.out, err := first.err ++ second.err }

namespace Session

/-- The session that some settings ask for. -/
def ofSettings (settings : Settings) (table : Option String) (showTree : Bool) : Session :=
  { translator := .ofSettings settings
    catalog := { dialect := settings.dialect, tables := settings.tables }
    table
    showTree }

/-- A filter, or the absence of one, as the session shows it. -/
def present (session : Session) (filter : Option Filter) : String :=
  if session.showTree then
    Filter.json filter
  else
    match session.table, filter with
    | some entity, filter => session.catalog.select filter entity
    | none, some filter => filter.sql
    | none, none => ""

/-- The answer to the text of a filter. -/
def answer (session : Session) (text : String) : Except Failure String :=
  match session.translator.parse text with
  | .ok filter => .ok (session.present filter)
  | .error rejection => .error { text := rejection.message, sources := rejection.sources }

/-- The lines of a text. A line ends with a line feed, or a carriage return and a
line feed; the last line may lack its end. -/
def lines (text : String) : List String :=
  let pieces := text.toList.splitOn '\n'
  let ended := pieces.dropLast.map fun piece =>
    if piece.getLast? = some '\r' then piece.dropLast else piece
  let unended := (pieces.getLast?.filter (· ≠ [])).toList
  (ended ++ unended).map String.ofList

/-- What a session begins with. -/
def banner : String :=
  "filter_sql: enter an OData filter, Ctrl-D to quit\n"

/-- What a session writes before it reads a line. -/
def prompt : String :=
  "filter> "

/-- What a session writes when it has read a line. -/
def respond (session : Session) (line : String) : Output :=
  if (Text.trim line).isEmpty then
    { out := "", err := "" }
  else
    match session.answer line with
    | .ok text => { out := text ++ "\n", err := "" }
    | .error failure => { out := "", err := failure.line }

/-- What a session writes over all lines of a text. -/
def transcript (session : Session) (input : String) : Output :=
  let start : Output := { out := banner ++ prompt, err := "" }
  (lines input).foldl
    (fun output line => (output.append (session.respond line)).append { out := prompt, err := "" })
    start

end Session

end WhereClause.Command
