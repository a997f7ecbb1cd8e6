/-
# Reading by recursive descent

A draft is read in one pass over the tokens. The same filters are read by functions that
call one another, one for each part of an expression: a disjunction reads conjunctions, a
conjunction reads operands, an operand is a condition or a group, and inside of a group
stands a disjunction again.

The functions share a cursor. Where it stands and how many groups it counts as open are
machine words, which wrap around. The count goes up in front of a group and down behind it,
also when reading inside of it has failed; only a group that is refused is not counted down
again. The cursor remembers whether the count has ever wrapped around.
-/

import WhereClause.Parser

namespace WhereClause

/-- Where reading stands, and the number of groups that count as open. `wrapped` says that
this number has at some time been taken past an end of its range. -/
structure Cursor where
  position : UInt64
  depth : UInt64
  wrapped : Bool
  deriving DecidableEq, Repr

namespace Cursor

/-- One token further. -/
def advance (cursor : Cursor) : Cursor :=
  { cursor with position := cursor.position + 1 }

/-- One group more is open. -/
def deepen (cursor : Cursor) : Cursor :=
  { cursor with
    depth := cursor.depth + 1
    wrapped := cursor.wrapped || cursor.depth + 1 < cursor.depth }

/-- One group less is open. -/
def leave (cursor : Cursor) : Cursor :=
  { cursor with
    depth := cursor.depth - 1
    wrapped := cursor.wrapped || cursor.depth < cursor.depth - 1 }

end Cursor

/-- What reads from a cursor on, answers or fails, and leaves the cursor somewhere. -/
abbrev Reader : Type → Type :=
  EStateM SyntaxError Cursor

/-- A parser by recursive descent: what it reads, which words are reserved, the greatest
number of groups within one another, and its cursor. -/
structure Descent where
  reserved : ReservedWords
  tokens : List Token
  limit : UInt64
  cursor : Cursor
  deriving DecidableEq, Repr

namespace Descent

/-- A parser in front of some tokens, under the default limit. -/
def ofTokens (reserved : ReservedWords) (tokens : List Token) : Descent :=
  { reserved, tokens, limit := .ofNat defaultNestingLimit
    cursor := { position := 0, depth := 0, wrapped := false } }

/-- The parser under another limit. -/
def withLimit (descent : Descent) (limit : UInt64) : Descent :=
  { descent with limit }

/-- The token at the cursor, if one is left. -/
def peek (tokens : List Token) : Reader (Option Token) :=
  return tokens[(← get).position.toNat]?

/-- The token at the cursor, which is moved past it. -/
def next (tokens : List Token) : Reader (Option Token) := do
  let token? ← peek tokens
  if token?.isSome then modify Cursor.advance
  return token?

/-- Move past a token of the given kind, if one stands at the cursor. -/
def accept (tokens : List Token) (kind : TokenKind) : Reader Bool := do
  let token? ← peek tokens
  let here := token?.any (·.kind = kind)
  if here then modify Cursor.advance
  return here

/-- Whether no token is left. -/
def isAtEnd (tokens : List Token) : Reader Bool :=
  return tokens.length ≤ (← get).position.toNat

/-- Read the inside of a group. -/
def nested {α : Type} (limit : UInt64) (inside : Reader α) : Reader α := fun cursor =>
  let deeper := cursor.deepen
  if limit < deeper.depth then
    .error (.nestingTooDeep limit.toNat) deeper
  else
    match inside deeper with
    | .ok read after => .ok read after.leave
    | .error error after => .error error after.leave

/-- Read a value. -/
def value (reserved : ReservedWords) (tokens : List Token) : Reader Literal := do
  let some token ← next tokens | throw (.unexpectedEnd .value)
  if token.kind.isValue then
    match Literal.ofText reserved token.text with
    | .ok value => return value
    | .error objection => throw (.invalidValue token.text objection)
  else
    throw (.invalidValue token.text .notAValue)

/-- Read the values of a list and its closing parenthesis. Those in front of the cursor stand
in `values`, in reverse. Each turn of the loop uses up a token, so there are at most `turns`
of them if no more tokens are left. -/
def values (reserved : ReservedWords) (tokens : List Token) (field : Field) :
    (turns : Nat) → (values : List Literal) → Reader (List Literal)
  | 0, values => return values.reverse
  | turns + 1, before => do
    if ← isAtEnd tokens then throw (.unclosedList field)
    let last ← value reserved tokens
    if ← accept tokens .comma then
      values reserved tokens field turns (last :: before)
    else if ← accept tokens .closing then
      return (last :: before).reverse
    else
      throw (.unclosedList field)

/-- Read a list of values behind its keyword. -/
def list (reserved : ReservedWords) (tokens : List Token) (field : Field) : Reader Filter := do
  let some token ← next tokens | throw (.unexpectedEnd .listOpening)
  if token.kind ≠ .opening then throw (.unexpectedToken token.text token.span)
  if (← peek tokens).any (·.kind = .closing) then throw (.emptyList field)
  return .oneOf field (← values reserved tokens field tokens.length [])

/-- Read a field. It is only asked for where a token is left. -/
def field (reserved : ReservedWords) (tokens : List Token) : Reader Field := do
  let some token ← next tokens | throw (.unexpectedEnd .expression)
  match token.kind with
  | .identifier =>
    match Field.ofName reserved token.text with
    | .ok field => return field
    | .error objection => throw (.invalidField token.text objection)
  | .string | .number => throw (.invalidField token.text .malformedName)
  | _ => throw (.unexpectedToken token.text token.span)

/-- Read a field and what it is compared with. -/
def condition (reserved : ReservedWords) (tokens : List Token) : Reader Filter := do
  let named ← field reserved tokens
  let some token ← peek tokens | throw (.unexpectedEnd .comparisonOperator)
  match token.kind with
  | .membership =>
    modify Cursor.advance
    list reserved tokens named
  | .comparison comparison =>
    modify Cursor.advance
    return .condition named comparison (← value reserved tokens)
  | _ => throw (.unsupportedOperator token.text token.span)

/-- Read a condition, or a group with an expression in it. -/
def primary (reserved : ReservedWords) (tokens : List Token) (limit : UInt64)
    (expression : Reader Filter) : Reader Filter := do
  let some token ← peek tokens | throw (.unexpectedEnd .expression)
  if token.kind = .opening then
    modify Cursor.advance
    let inner ← nested limit expression
    if ← accept tokens .closing then
      return .group inner
    else
      throw (.unclosedGroup token.span)
  else
    condition reserved tokens

/-- Count negations up to the operand behind them. The count is a machine word of 32 bits
with a sign, and it wraps around as the count of a draft does. -/
def negations (tokens : List Token) : (turns : Nat) → (count : Int32) → Reader Int32
  | 0, count => return count
  | turns + 1, count => do
    if ← accept tokens .negation then
      if ← isAtEnd tokens then throw (.missingOperand .negation)
      negations tokens turns (count + 1)
    else
      return count

/-- Read an operand with the negations in front of it. -/
def operand (tokens : List Token) (primary : Reader Filter) : Reader Filter := do
  let count ← negations tokens tokens.length 0
  return (← primary).negated count.toInt.toNat

/-- Read on behind `left` as long as the connective follows. -/
def chainFrom (tokens : List Token) (joint : Connective) (part : Reader Filter) :
    (turns : Nat) → (left : Filter) → Reader Filter
  | 0, left => return left
  | turns + 1, left => do
    if ← accept tokens (.connective joint) then
      if ← isAtEnd tokens then throw (.missingOperand (.connective joint))
      chainFrom tokens joint part turns (.binary joint left (← part))
    else
      return left

/-- Read parts with a connective between them. They nest to the left. -/
def chain (tokens : List Token) (joint : Connective) (part : Reader Filter) : Reader Filter := do
  chainFrom tokens joint part tokens.length (← part)

/-- Read an expression. A group uses up a token, so no more than `levels` of them lie within
one another if no more tokens are left. -/
def expression (reserved : ReservedWords) (tokens : List Token) (limit : UInt64) :
    (levels : Nat) → Reader Filter
  | 0 => throw (.unexpectedEnd .expression)
  | levels + 1 =>
    chain tokens .or <| chain tokens .and <| operand tokens <|
      primary reserved tokens limit (expression reserved tokens limit levels)

/-- Read an expression that takes up all tokens that are left. -/
def whole (reserved : ReservedWords) (tokens : List Token) (limit : UInt64) :
    Reader Filter := do
  if ← isAtEnd tokens then throw (.unexpectedEnd .expression)
  let filter ← expression reserved tokens limit tokens.length
  match ← peek tokens with
  | some token => throw (.trailingTokens token.text token.span)
  | none => return filter

/-- Read a filter that takes up all tokens that are left. -/
def parse (descent : Descent) : Except SyntaxError Filter × Descent :=
  match whole descent.reserved descent.tokens descent.limit descent.cursor with
  | .ok filter cursor => (.ok filter, { descent with cursor })
  | .error error cursor => (.error error, { descent with cursor })

end Descent

end WhereClause
