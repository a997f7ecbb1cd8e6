/-
# The program

The outer layer of the command line: it fetches the arguments, the environment,
the file of the settings and the lines of the input, and writes what
`WhereClause.Command` says. A session is answered line by line.
-/

import WhereClause.Command.Run

open WhereClause
open WhereClause.Command

/-- What a path leads to in the file system. The system tells a directory from a
step beyond a file by the number of the error, which is 21 for a directory. -/
def fetchFile (path : String) : IO FileContent := do
  try
    return .bytes (← IO.FS.readBinFile path)
  catch error =>
    match error with
    | .noFileOrDirectory .. => return .missing
    | .inappropriateType _ 21 _ => return .directory
    | .inappropriateType .. => return .missing
    | .permissionDenied _ code details =>
      return .unreadable (details ++ " (os error " ++ toString code ++ ")")
    | other => return .unreadable (toString other)

/-- Write what goes to the two channels. -/
def emitOutput (output : Output) : IO Unit := do
  let out ← IO.getStdout
  let err ← IO.getStderr
  out.putStr output.out
  out.flush
  err.putStr output.err
  err.flush

/-- Hold a session over the lines of the standard input. -/
def holdSession (session : Session) : IO Unit := do
  let input ← IO.getStdin
  emitOutput { out := Session.banner, err := "" }
  repeat
    emitOutput { out := Session.prompt, err := "" }
    let text ← input.getLine
    if text.isEmpty then
      break
    for line in Session.lines text do
      emitOutput (session.respond line)

def main (arguments : List String) : IO UInt32 := do
  let environmentPath ← IO.getEnv "FILTER_SQL_CONFIG"
  match Invocation.ofArguments arguments environmentPath with
  | .error early =>
    emitOutput early.completion.output
    return early.completion.code
  | .ok invocation =>
    let content ← match invocation.settingsPath with
      | some path => fetchFile path
      | none => pure .missing
    match invocation.filter, invocation.session (fun _ => content) with
    | none, .ok session =>
      holdSession session
      return 0
    | _, _ =>
      let completion := invocation.run (fun _ => content) ""
      emitOutput completion.output
      return completion.code
