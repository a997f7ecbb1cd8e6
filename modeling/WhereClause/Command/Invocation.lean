/-
# The command line

The arguments of the program are read from left to right. An option that takes a
value takes it from its own argument, after an equals sign or, for the short
form, directly after the letter; or else from the next argument, unless that
looks like an option itself. A double dash makes all arguments after it
positional. Asking for the version or for help ends the reading at once, and so
does the first error.
-/

import WhereClause.Dialect

namespace WhereClause.Command

/-- What the arguments ask the program to do. -/
structure Invocation where
  settingsPath : Option String
  dialect : Option Dialect
  table : Option String
  showTree : Bool
  filter : Option String
  deriving DecidableEq, Repr

/-- An option that takes a value. -/
inductive ValueOption
  | settings
  | dialect
  | table
  deriving DecidableEq, Repr

/-- The long name of an option. -/
def ValueOption.name : ValueOption → String
  | .settings => "--config"
  | .dialect => "--dialect"
  | .table => "--table"

/-- What is wrong with the arguments. -/
inductive UsageError
  | unknownOption (argument : String)
  | missingValue (option : ValueOption)
  | unexpectedValue (flag : String)
  | repeated (option : String)
  | unknownDialect (error : UnknownDialect)
  | surplusFilter (argument : String)
  | treeOfTable
  deriving DecidableEq, Repr

/-- What is wrong, as one line of text. -/
def UsageError.message : UsageError → String
  | .unknownOption argument => "unexpected argument " ++ argument
  | .missingValue option => "a value is required for " ++ option.name
  | .unexpectedValue flag => "no value is expected for " ++ flag
  | .repeated option => option ++ " cannot be used multiple times"
  | .unknownDialect error => "invalid value for --dialect: " ++ error.message
  | .surplusFilter argument => "unexpected argument " ++ argument
  | .treeOfTable => "--ast cannot be used with --table"

/-- Why reading the arguments ended before the last one. -/
inductive EarlyEnd
  | version
  | help
  | misuse (error : UsageError)
  deriving DecidableEq, Repr

/-- The arguments read so far: what they ask for, an option that waits for its
value, and whether all that follows is positional. -/
structure Reading where
  invocation : Invocation
  pending : Option ValueOption
  positional : Bool
  deriving DecidableEq, Repr

namespace Reading

/-- No arguments read yet. -/
def start : Reading :=
  { invocation :=
      { settingsPath := none, dialect := none, table := none, showTree := false, filter := none }
    pending := none
    positional := false }

/-- Give an option its value. The path of the settings is not empty. -/
def give (reading : Reading) (option : ValueOption) (value : String) :
    Except EarlyEnd Reading := do
  let invocation := reading.invocation
  let given := match option with
    | .settings => invocation.settingsPath.isSome
    | .dialect => invocation.dialect.isSome
    | .table => invocation.table.isSome
  if given then
    throw (.misuse (.repeated option.name))
  let invocation ← match option with
    | .settings =>
      if value = "" then throw (.misuse (.missingValue option))
      else pure { invocation with settingsPath := some value }
    | .dialect =>
      match Dialect.ofText value with
      | .ok dialect => pure { invocation with dialect := some dialect }
      | .error error => throw (.misuse (.unknownDialect error))
    | .table => pure { invocation with table := some value }
  return { reading with invocation, pending := none }

/-- Note that trees are asked for. -/
def askTree (reading : Reading) : Except EarlyEnd Reading :=
  if reading.invocation.showTree then
    .error (.misuse (.repeated "--ast"))
  else
    .ok { reading with invocation := { reading.invocation with showTree := true } }

/-- Split a long option at its first equals sign. -/
def splitValue (option : List Char) : String × Option String :=
  let name := String.ofList (option.takeWhile (· != '='))
  match option.dropWhile (· != '=') with
  | _ :: value => (name, some (String.ofList value))
  | [] => (name, none)

/-- Read a long option, without its two dashes. -/
def stepLong (reading : Reading) (option : List Char) : Except EarlyEnd Reading :=
  let (name, value) := splitValue option
  let takesValue (option : ValueOption) :=
    match value with
    | some value => reading.give option value
    | none => .ok { reading with pending := some option }
  let takesNone (outcome : Except EarlyEnd Reading) :=
    if value.isSome then .error (.misuse (.unexpectedValue ("--" ++ name))) else outcome
  match name with
  | "config" => takesValue .settings
  | "dialect" => takesValue .dialect
  | "table" => takesValue .table
  | "ast" => takesNone reading.askTree
  | "version" => takesNone (.error .version)
  | "help" => takesNone (.error .help)
  | _ => .error (.misuse (.unknownOption ("--" ++ String.ofList option)))

/-- Read a short option, without its dash. What follows its letter is the
value, an equals sign before it aside. -/
def stepShort (reading : Reading) (option : List Char) : Except EarlyEnd Reading :=
  let takesValue (option : ValueOption) (attached : List Char) :=
    match attached with
    | [] => .ok { reading with pending := some option }
    | '=' :: value => reading.give option (String.ofList value)
    | value => reading.give option (String.ofList value)
  match option with
  | 'c' :: attached => takesValue .settings attached
  | 'd' :: attached => takesValue .dialect attached
  | 't' :: attached => takesValue .table attached
  | 'V' :: _ => .error .version
  | 'h' :: _ => .error .help
  | _ => .error (.misuse (.unknownOption ("-" ++ String.ofList option)))

/-- Read an argument that is no option and no value of one. -/
def stepPositional (reading : Reading) (argument : String) : Except EarlyEnd Reading :=
  if reading.invocation.filter.isSome then
    .error (.misuse (.surplusFilter argument))
  else
    .ok { reading with invocation := { reading.invocation with filter := some argument } }

/-- Fail if an option still waits for its value. -/
def settle (reading : Reading) : Except EarlyEnd Reading :=
  match reading.pending with
  | some option => .error (.misuse (.missingValue option))
  | none => .ok reading

/-- Read one argument. A dash alone does not look like an option. -/
def step (reading : Reading) (argument : String) : Except EarlyEnd Reading := do
  if reading.positional then
    (← reading.settle).stepPositional argument
  else
    match argument.toList with
    | '-' :: '-' :: [] => return { (← reading.settle) with positional := true }
    | '-' :: '-' :: option => (← reading.settle).stepLong option
    | '-' :: c :: option => (← reading.settle).stepShort (c :: option)
    | _ =>
      match reading.pending with
      | some option => reading.give option argument
      | none => reading.stepPositional argument

/-- What the arguments ask for, when all have been read. A path in the
environment stands in for one that is not among them, and may not be empty
either. -/
def finish (reading : Reading) (environmentPath : Option String) :
    Except EarlyEnd Invocation := do
  let invocation := (← reading.settle).invocation
  let settingsPath := invocation.settingsPath.or environmentPath
  if settingsPath = some "" then
    throw (.misuse (.missingValue .settings))
  if invocation.showTree && invocation.table.isSome then
    throw (.misuse .treeOfTable)
  return { invocation with settingsPath }

end Reading

/-- What some arguments ask for, with the path of the settings that the
environment gives. -/
def Invocation.ofArguments (arguments : List String) (environmentPath : Option String) :
    Except EarlyEnd Invocation := do
  (← arguments.foldlM Reading.step Reading.start).finish environmentPath

end WhereClause.Command
