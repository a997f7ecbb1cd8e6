/-
# Tokens of the filter language

A token is a word, a quoted string or a punctuation mark of a filter, with the
place where it stands. Places are counted in the bytes of the UTF-8 form.

Keywords are told from other words by their letters alone, in either case; only
the case of ASCII letters is disregarded.
-/

import WhereClause.Operator

namespace WhereClause

/-- A stretch of a text, from the byte `start` up to but not including the byte
`stop`. -/
structure Span where
  start : Nat
  stop : Nat
  deriving DecidableEq, Repr

/-- The two ends of a span, as messages show them. -/
def Span.display (span : Span) : String :=
  toString span.start ++ ".." ++ toString span.stop

/-- What a token is. A word is an identifier unless it is a keyword or a number. -/
inductive TokenKind
  | identifier
  | string
  | number
  | opening
  | closing
  | comma
  | membership
  | negation
  | connective (connective : Connective)
  | comparison (comparison : Comparison)
  deriving DecidableEq, Repr

namespace TokenKind

/-- The name of a kind, as messages show it. -/
def name : TokenKind → String
  | .identifier => "Identifier"
  | .string => "String"
  | .number => "Number"
  | .opening => "LParen"
  | .closing => "RParen"
  | .comma => "Comma"
  | .membership => "In"
  | .negation => "Not"
  | .connective .and => "And"
  | .connective .or => "Or"
  | .comparison .equal => "Eq"
  | .comparison .unequal => "Ne"
  | .comparison .greater => "Gt"
  | .comparison .atLeast => "Ge"
  | .comparison .less => "Lt"
  | .comparison .atMost => "Le"

/-- Every kind, in the order of the type. -/
def all : List TokenKind :=
  [.identifier, .string, .number, .opening, .closing, .comma, .membership, .negation,
   .connective .and, .connective .or, .comparison .equal, .comparison .unequal,
   .comparison .greater, .comparison .atLeast, .comparison .less, .comparison .atMost]

/-- The kind with a given name, if there is one. -/
def ofName? (name : String) : Option TokenKind :=
  all.find? (·.name == name)

/-- The keywords, in lowercase, and the kinds of the tokens that they make. -/
def keywords : List (String × TokenKind) :=
  [("in", .membership), ("not", .negation), ("and", .connective .and), ("or", .connective .or),
   ("eq", .comparison .equal), ("ne", .comparison .unequal), ("gt", .comparison .greater),
   ("ge", .comparison .atLeast), ("lt", .comparison .less), ("le", .comparison .atMost)]

/-- The kind of the keyword that a word spells, if it spells one. -/
def keyword? (word : String) : Option TokenKind :=
  keywords.lookup (String.ofList (word.toList.map Char.toLower))

/-- Whether a token of this kind may stand where a value is expected. -/
def isValue : TokenKind → Bool
  | .identifier | .string | .number => true
  | _ => false

/-- Every kind is listed, so a kind can be found by its name. -/
theorem mem_all (kind : TokenKind) : kind ∈ all := by
  rcases kind with _ | _ | _ | _ | _ | _ | _ | _ | (_ | _) | (_ | _ | _ | _ | _ | _) <;> decide

theorem ofName?_name (kind : TokenKind) : ofName? kind.name = some kind := by
  rcases kind with _ | _ | _ | _ | _ | _ | _ | _ | (_ | _) | (_ | _ | _ | _ | _ | _) <;> decide

end TokenKind

/-- A unit of a filter. For a quoted string the text keeps the outer quotes and
has one quote for every pair inside; for all else it is the text as written. -/
structure Token where
  kind : TokenKind
  text : String
  span : Span
  deriving DecidableEq, Repr

/-- A token as a diagnostic shows it. -/
def Token.display (token : Token) : String :=
  token.kind.name ++ " `" ++ token.text ++ "` at " ++ token.span.display

end WhereClause
