/-
# Field names

A filter names fields in camel case, in Pascal case or in snake case; SQL gets
snake case. Only ASCII letters, digits and underscores make up a name, so a name
needs no quoting in SQL, and names that SQL would read as something else are
refused.
-/

import WhereClause.Objection
import WhereClause.Reserved

namespace WhereClause

/-- The name of a column, as SQL has it. The type itself admits any text:
`Field.ofName` is what makes names that are safe. -/
structure Field where
  name : String
  deriving DecidableEq, Repr

namespace Field

/-- Whether an underscore goes between two neighbouring characters: where a
capital follows a small letter or a digit. -/
def isHump (before after : Char) : Bool :=
  (before.isLower || before.isDigit) && after.isUpper

/-- Set the humps of a name apart, behind what is already written, which stands in
reverse in `done`. The name is searched from left to right, and the search goes on
behind both characters of a hump that it has found. -/
def separateHumpsFrom (done : List Char) : List Char → List Char
  | [] => done.reverse
  | [last] => (last :: done).reverse
  | before :: c :: rest =>
    if isHump before c then
      separateHumpsFrom (c :: '_' :: before :: done) rest
    else
      separateHumpsFrom (before :: done) (c :: rest)

/-- A name with its humps set apart by underscores. -/
def separateHumps (cs : List Char) : List Char :=
  separateHumpsFrom [] cs

/-- A name in snake case: its humps are set apart, and all of it is lowercased. -/
def snakeCase (name : String) : String :=
  String.ofList (Text.lowercaseChars (separateHumps name.toList))

/-- Whether a name may begin with the character. -/
def isNameStart (c : Char) : Bool :=
  c.isAlpha || c == '_'

/-- Whether a name may go on with the character. -/
def isNamePart (c : Char) : Bool :=
  c.isAlphanum || c == '_'

/-- Whether a list of characters is made like a field name. -/
def isName : List Char → Bool
  | [] => false
  | c :: rest => isNameStart c && rest.all isNamePart

/-- The field that a word of a filter names. The snake case form of the word is
what must be neither reserved nor a literal. -/
def ofName (reserved : ReservedWords) (word : String) : Except Objection Field :=
  if !isName word.toList then
    .error .malformedName
  else
    let name := snakeCase word
    if reserved.contains name then
      .error (.reservedWord name)
    else if keywordLiterals.contains name then
      .error (.literalAsField name)
    else
      .ok { name }

end Field

end WhereClause
