/-
# Settings in files

Settings come from a text in a program or from a file. What a path leads to is
given from outside; this module says what becomes of it. Bytes that are not
UTF-8 are a failure to read, not a malformed text.
-/

import WhereClause.Settings.Draft

namespace WhereClause

/-- What a path leads to. -/
inductive FileContent
  | missing
  | directory
  | unreadable (reason : String)
  | bytes (bytes : ByteArray)

/-- Why no settings were found. -/
inductive SettingsError
  | notFound (path : String)
  | notRead (path : String) (reason : String)
  | notUnderstood (origin : String) (fault : Settings.Fault)
  deriving DecidableEq, Repr

namespace SettingsError

/-- The error as one line of text. -/
def message : SettingsError → String
  | .notFound path => "config file not found: " ++ path
  | .notRead path reason => "cannot read config file " ++ path ++ ": " ++ reason
  | .notUnderstood origin fault => "cannot parse config " ++ origin ++ ": " ++ fault.message

/-- The texts of what lies behind the error, the nearest first. -/
def sources : SettingsError → List String
  | .notFound _ => []
  | .notRead _ reason => [reason]
  | .notUnderstood _ fault => [fault.message]

end SettingsError

namespace Settings

/-- The settings that a JSON text of the given origin writes. -/
def read (origin text : String) : Except SettingsError Settings :=
  (ofJson text).mapError (.notUnderstood origin)

/-- The settings that a JSON text in a program writes. -/
def ofText (text : String) : Except SettingsError Settings :=
  read "<inline>" text

/-- The settings in the file that a path leads to. -/
def ofFile (path : String) (content : FileContent) : Except SettingsError Settings :=
  match content with
  | .missing => .error (.notFound path)
  | .directory => .error (.notRead path "Is a directory (os error 21)")
  | .unreadable reason => .error (.notRead path reason)
  | .bytes bytes =>
    match String.fromUTF8? bytes with
    | some text => read path text
    | none => .error (.notRead path "stream did not contain valid UTF-8")

end Settings

end WhereClause
