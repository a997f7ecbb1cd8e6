/-
# Settings under construction

Settings are read from a JSON text, lexeme by lexeme, each taking what has been
read so far to the next draft or to an error. The text is an object, whose
members may come in any order and may be missing, or an array of their values in
a fixed order, which may break off. A member that is missing keeps its default.

What is wrong with a text is found in reading order: a member of the wrong type
is reported although the text may not even be JSON after it.
-/

import WhereClause.Json.Lexeme
import WhereClause.Settings

namespace WhereClause.Settings

open Json (Lexeme)

/-- A member of the settings. -/
inductive Entry
  | nestingLimit
  | lengthLimit
  | reservedWords
  | dialect
  | tables
  deriving DecidableEq, Repr

namespace Entry

/-- The key of a member. -/
def key : Entry → String
  | .nestingLimit => "max_nesting_depth"
  | .lengthLimit => "max_filter_length"
  | .reservedWords => "reserved_keywords"
  | .dialect => "dialect"
  | .tables => "table_mapping"

/-- The members, in the order of the array form. -/
def all : List Entry :=
  [nestingLimit, lengthLimit, reservedWords, dialect, tables]

/-- The member with a given key. -/
def ofKey? (key : String) : Option Entry :=
  all.find? (·.key == key)

theorem ofKey?_key (entry : Entry) : ofKey? entry.key = some entry := by
  cases entry <;> decide

end Entry

/-- What a value in some place of the settings must be. -/
inductive Shape
  | settings
  | natural
  | list
  | text
  | table
  | unit
  | variantName
  deriving DecidableEq, Repr

/-- A shape, as messages name it. -/
def Shape.phrase : Shape → String
  | .settings => "struct TranslatorConfig"
  | .natural => "usize"
  | .list => "a sequence"
  | .text => "a string"
  | .table => "a map"
  | .unit => "unit"
  | .variantName => "variant identifier"

/-- What is wrong with a text that should be settings. -/
inductive Fault
  /-- The text is not JSON, or has something in a place where nothing of the kind
  may stand. -/
  | malformed
  /-- A value begins with a lexeme that does not begin the shape expected. -/
  | wrongShape (found : Lexeme) (expected : Shape)
  | negativeNumber (magnitude : Nat)
  | unknownKey (key : String)
  | repeatedEntry (entry : Entry)
  | unknownDialect (name : String)
  deriving DecidableEq, Repr

/-- Several names, each between backquotes, with commas between them. -/
def listedNames (names : List String) : String :=
  ", ".intercalate (names.map fun name => "`" ++ name ++ "`")

/-- A lexeme that begins a value, as messages describe the value. -/
def describeValue : Lexeme → String
  | .null => "null"
  | .boolean true => "boolean `true`"
  | .boolean false => "boolean `false`"
  | .number (.natural value) => "integer `" ++ toString value.toNat ++ "`"
  | .number (.negative magnitude) => "integer `-" ++ toString magnitude ++ "`"
  | .number (.real text) => "floating point `" ++ text ++ "`"
  | .string text => "string " ++ Text.quoted text
  | .openBracket => "sequence"
  | .openBrace => "map"
  | _ => ""

/-- What is wrong, as one line of text. -/
def Fault.message : Fault → String
  | .malformed => "malformed JSON"
  | .wrongShape found expected =>
    "invalid type: " ++ describeValue found ++ ", expected " ++ expected.phrase
  | .negativeNumber magnitude =>
    "invalid value: integer `-" ++ toString magnitude ++ "`, expected usize"
  | .unknownKey key =>
    "unknown field `" ++ key ++ "`, expected one of " ++ listedNames (Entry.all.map Entry.key)
  | .repeatedEntry entry => "duplicate field `" ++ entry.key ++ "`"
  | .unknownDialect name =>
    "unknown variant `" ++ name ++ "`, expected one of "
      ++ listedNames ([Dialect.postgres, .mysql, .sqlite].map Dialect.name)

/-- The fault at a lexeme that does not begin a value of the expected shape. A
lexeme that begins no value at all makes the text malformed. -/
def Fault.unfit (found : Lexeme) (expected : Shape) : Fault :=
  match found with
  | .closeBrace | .closeBracket | .colon | .comma | .broken => .malformed
  | _ => .wrongShape found expected

/-- The members read so far. -/
structure Members where
  nestingLimit : Option UInt64
  lengthLimit : Option (Option UInt64)
  reservedWords : Option (List String)
  dialect : Option Dialect
  tables : Option TableMapping
  deriving DecidableEq, Repr

namespace Members

/-- No members. -/
def empty : Members :=
  { nestingLimit := none
    lengthLimit := none
    reservedWords := none
    dialect := none
    tables := none }

/-- Whether a member has been read. -/
def has (members : Members) : Entry → Bool
  | .nestingLimit => members.nestingLimit.isSome
  | .lengthLimit => members.lengthLimit.isSome
  | .reservedWords => members.reservedWords.isSome
  | .dialect => members.dialect.isSome
  | .tables => members.tables.isSome

/-- The settings with these members and the defaults of the others. -/
def settings (members : Members) : Settings :=
  { nestingLimit := members.nestingLimit.getD standard.nestingLimit
    lengthLimit := members.lengthLimit.getD standard.lengthLimit
    reservedWords := members.reservedWords.getD standard.reservedWords
    dialect := members.dialect.getD standard.dialect
    tables := members.tables.getD standard.tables }

end Members

/-- How the members are laid out: by key, or by place, with the members whose
places are still to come. -/
inductive Layout
  | keyed
  | placed (remaining : List Entry)
  deriving DecidableEq, Repr

/-- What must come next. A flag tells whether the list, the map or the whole may
be closed here, which it may not after a comma. -/
inductive Phase
  | start
  | key (closable : Bool)
  | keyColon (entry : Entry)
  | value (entry : Entry)
  | place (closable : Bool)
  | separator
  /-- In the list of reserved words, whose words stand in reverse. -/
  | word (words : List String) (closable : Bool)
  | wordSeparator (words : List String)
  /-- In the map from entities to tables. -/
  | entity (tables : TableMapping) (closable : Bool)
  | entityColon (tables : TableMapping) (entity : String)
  | table (tables : TableMapping) (entity : String)
  | tableSeparator (tables : TableMapping)
  /-- In a dialect that is written as an object with one key. -/
  | variant
  | variantColon (dialect : Dialect)
  | variantValue (dialect : Dialect)
  | variantEnd (dialect : Dialect)
  | finished
  deriving DecidableEq, Repr

/-- Settings under construction. -/
structure Draft where
  members : Members
  layout : Layout
  phase : Phase
  deriving DecidableEq, Repr

namespace Draft

/-- Nothing read yet. -/
def start : Draft :=
  { members := .empty, layout := .keyed, phase := .start }

/-- The draft with the same members where something else comes next. -/
def expect (draft : Draft) (phase : Phase) : Except Fault Draft :=
  .ok { draft with phase }

/-- The draft that the value of a member leads to. -/
def accept (draft : Draft) (members : Members) : Except Fault Draft :=
  .ok { draft with members, phase := .separator }

/-- A lexeme in the place of a number. -/
def readNatural (found : Lexeme) : Except Fault UInt64 :=
  match found with
  | .number (.natural value) => .ok value
  | .number (.negative magnitude) => .error (.negativeNumber magnitude)
  | _ => .error (.unfit found .natural)

/-- A lexeme in the place of a text. -/
def readText (found : Lexeme) : Except Fault String :=
  match found with
  | .string text => .ok text
  | _ => .error (.unfit found .text)

/-- A text in the place of the name of a dialect. -/
def readDialect (name : String) : Except Fault Dialect :=
  match Dialect.ofName? name with
  | some dialect => .ok dialect
  | none => .error (.unknownDialect name)

/-- The first lexeme of the value of a member. -/
def stepValue (draft : Draft) (entry : Entry) (found : Lexeme) :
    Except Fault Draft :=
  match entry with
  | .nestingLimit => do
    draft.accept { draft.members with nestingLimit := some (← readNatural found) }
  | .lengthLimit =>
    match found with
    | .null => draft.accept { draft.members with lengthLimit := some none }
    | _ => do draft.accept { draft.members with lengthLimit := some (some (← readNatural found)) }
  | .reservedWords =>
    match found with
    | .openBracket => draft.expect (.word [] true)
    | _ => .error (.unfit found .list)
  | .dialect =>
    match found with
    | .string name => do
      draft.accept { draft.members with dialect := some (← readDialect name) }
    | .openBrace => draft.expect .variant
    | _ => .error .malformed
  | .tables =>
    match found with
    | .openBrace => draft.expect (.entity .empty true)
    | _ => .error (.unfit found .table)

/-- A key of the object. -/
def stepKey (draft : Draft) (key : String) : Except Fault Draft :=
  match Entry.ofKey? key with
  | none => .error (.unknownKey key)
  | some entry =>
    if draft.members.has entry then
      .error (.repeatedEntry entry)
    else
      draft.expect (.keyColon entry)

/-- A lexeme after the value of a member. -/
def stepSeparator (draft : Draft) (found : Lexeme) : Except Fault Draft :=
  match draft.layout, found with
  | .keyed, .comma => draft.expect (.key false)
  | .keyed, .closeBrace => draft.expect .finished
  | .placed _, .comma => draft.expect (.place false)
  | .placed _, .closeBracket => draft.expect .finished
  | _, _ => .error .malformed

/-- A lexeme where the value of the next place begins. -/
def stepPlace (draft : Draft) (closable : Bool) (found : Lexeme) :
    Except Fault Draft :=
  match draft.layout, found, closable with
  | _, .closeBracket, true => draft.expect .finished
  | .placed (entry :: remaining), _, _ =>
    stepValue { draft with layout := .placed remaining } entry found
  | _, _, _ => .error .malformed

/-- What a lexeme does to a draft. -/
def step (draft : Draft) (found : Lexeme) : Except Fault Draft :=
  match draft.phase with
  | .start =>
    match found with
    | .openBrace => .ok { draft with layout := .keyed, phase := .key true }
    | .openBracket => .ok { draft with layout := .placed Entry.all, phase := .place true }
    | _ => .error (.unfit found .settings)
  | .key closable =>
    match found, closable with
    | .string key, _ => draft.stepKey key
    | .closeBrace, true => draft.expect .finished
    | _, _ => .error .malformed
  | .keyColon entry =>
    match found with
    | .colon => draft.expect (.value entry)
    | _ => .error .malformed
  | .value entry => draft.stepValue entry found
  | .place closable => draft.stepPlace closable found
  | .separator => draft.stepSeparator found
  | .word words closable =>
    match found, closable with
    | .closeBracket, true =>
      draft.accept { draft.members with reservedWords := some words.reverse }
    | _, _ => do draft.expect (.wordSeparator ((← readText found) :: words))
  | .wordSeparator words =>
    match found with
    | .comma => draft.expect (.word words false)
    | .closeBracket => draft.accept { draft.members with reservedWords := some words.reverse }
    | _ => .error .malformed
  | .entity tables closable =>
    match found, closable with
    | .string entity, _ => draft.expect (.entityColon tables entity)
    | .closeBrace, true => draft.accept { draft.members with tables := some tables }
    | _, _ => .error .malformed
  | .entityColon tables entity =>
    match found with
    | .colon => draft.expect (.table tables entity)
    | _ => .error .malformed
  | .table tables entity => do
    draft.expect (.tableSeparator (tables.insert entity (← readText found)))
  | .tableSeparator tables =>
    match found with
    | .comma => draft.expect (.entity tables false)
    | .closeBrace => draft.accept { draft.members with tables := some tables }
    | _ => .error .malformed
  | .variant =>
    match found with
    | .string name => do draft.expect (.variantColon (← readDialect name))
    | _ => .error (.unfit found .variantName)
  | .variantColon dialect =>
    match found with
    | .colon => draft.expect (.variantValue dialect)
    | _ => .error .malformed
  | .variantValue dialect =>
    match found with
    | .null => draft.expect (.variantEnd dialect)
    | _ => .error (.unfit found .unit)
  | .variantEnd dialect =>
    match found with
    | .closeBrace => draft.accept { draft.members with dialect := some dialect }
    | _ => .error .malformed
  | .finished => .error .malformed

/-- The settings that a draft amounts to if no lexeme follows. -/
def finish (draft : Draft) : Except Fault Settings :=
  match draft.phase with
  | .finished => .ok draft.members.settings
  | _ => .error .malformed

end Draft

/-- The settings that a sequence of lexemes writes. -/
def ofLexemes (lexemes : List Lexeme) : Except Fault Settings := do
  (← lexemes.foldlM Draft.step Draft.start).finish

/-- The settings that a JSON text writes. -/
def ofJson (text : String) : Except Fault Settings :=
  ofLexemes (Json.lexemes text)

end WhereClause.Settings
