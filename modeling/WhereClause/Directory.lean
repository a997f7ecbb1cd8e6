/-
# A directory of files

Some files in one directory, which has no directories in it, and the paths that
lead from the directory to them. Nothing is known of the directories above
except that they exist.
-/

import WhereClause.Settings.File

namespace WhereClause

/-- The files of a directory by name. -/
structure Directory where
  files : List (String × ByteArray)

namespace Directory

/-- Where the first steps of a path have led. -/
inductive Place
  | here
  | above
  | file (bytes : ByteArray)

/-- Take one step of a path. A file leads nowhere, not even to itself. -/
def walk (directory : Directory) (place : Place) (name : String) : Option Place :=
  match place with
  | .file _ => none
  | .here =>
    if name = "" ∨ name = "." then
      some .here
    else if name = ".." then
      some .above
    else
      (directory.files.lookup name).map .file
  | .above => if name = "" ∨ name = "." ∨ name = ".." then some .above else none

/-- What a path leads to. A path that begins with a slash begins far above. -/
def find (directory : Directory) (path : String) : FileContent :=
  let names := (path.toList.splitOn '/').map String.ofList
  let origin : Place := if path.toList.head? = some '/' then .above else .here
  if path = "" then
    .missing
  else
    match names.foldlM directory.walk origin with
    | none => .missing
    | some (.file bytes) => .bytes bytes
    | some _ => .directory

end Directory

end WhereClause
