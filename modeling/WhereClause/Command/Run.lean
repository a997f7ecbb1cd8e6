/-
# Running the program

What the program writes, and the code with which it ends, from its arguments,
its environment, its input and the file that the settings are in. A program with
a filter among its arguments answers it; without one it holds a session over its
input.
-/

import WhereClause.Command.Invocation
import WhereClause.Command.Session
import WhereClause.Settings.File

namespace WhereClause.Command

/-- How a run of the program ends. -/
structure Completion where
  code : UInt32
  output : Output
  deriving DecidableEq, Repr

namespace Completion

/-- The program has done what it was asked for. -/
def success (output : Output) : Completion :=
  { code := 0, output }

/-- The program has failed at what it was asked for. -/
def failure (failure : Failure) : Completion :=
  { code := 1, output := { out := "", err := failure.report } }

end Completion

/-- The text that names the program and its version. -/
def versionText : String :=
  "filter_sql 0.1.0\n"

/-- A summary of the arguments. -/
def helpText : String :=
  "Translate OData filter expressions into SQL.\n\n" ++
  "Usage: filter_sql [OPTIONS] [FILTER]\n\n" ++
  "Options:\n" ++
  "  -c, --config <FILE>      JSON configuration file\n" ++
  "  -d, --dialect <DIALECT>  SQL dialect used with --table\n" ++
  "  -t, --table <ENTITY>     Wrap the filter in a SELECT over this entity's table\n" ++
  "      --ast                Print the parsed filter as JSON instead of SQL\n" ++
  "  -h, --help               Print help\n" ++
  "  -V, --version            Print version\n"

/-- How a run ends that does not get to the end of its arguments. -/
def EarlyEnd.completion : EarlyEnd → Completion
  | .version => .success { out := versionText, err := "" }
  | .help => .success { out := helpText, err := "" }
  | .misuse error =>
    { code := 2, output := { out := "", err := "error: " ++ error.message ++ "\n" } }

namespace Invocation

/-- The settings of a run: those in the file, if there is one, with the dialect
that the arguments give. -/
def settings (invocation : Invocation) (content : String → FileContent) :
    Except Failure Settings := do
  let settings ← match invocation.settingsPath with
    | none => pure Settings.standard
    | some path =>
      match Settings.ofFile path (content path) with
      | .ok settings => pure settings
      | .error error =>
        throw { text := "loading " ++ path, sources := error.message :: error.sources }
  return { settings with dialect := invocation.dialect.getD settings.dialect }

/-- The session that a run holds, or from which it answers its one filter. -/
def session (invocation : Invocation) (content : String → FileContent) :
    Except Failure Session := do
  return .ofSettings (← invocation.settings content) invocation.table invocation.showTree

/-- How a run ends. -/
def run (invocation : Invocation) (content : String → FileContent) (input : String) :
    Completion :=
  match invocation.session content with
  | .error failure => .failure failure
  | .ok session =>
    match invocation.filter with
    | none => .success (session.transcript input)
    | some filter =>
      match session.answer filter with
      | .ok text => .success { out := text ++ "\n", err := "" }
      | .error failure => .failure failure

end Invocation

/-- How the program ends. -/
def run (arguments : List String) (environmentPath : Option String)
    (content : String → FileContent) (input : String) : Completion :=
  match Invocation.ofArguments arguments environmentPath with
  | .error early => early.completion
  | .ok invocation => invocation.run content input

end WhereClause.Command
