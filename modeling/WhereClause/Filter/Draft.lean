/-
# Filters under construction

A filter is read from its tokens in one pass, each token taking what has been
read so far, a draft, to the next draft or to an error. The grammar is

    expression  := conjunction (OR conjunction)*
    conjunction := operand (AND operand)*
    operand     := NOT* (`(` expression `)` | condition)
    condition   := FIELD COMPARISON value | FIELD IN `(` value (`,` value)* `)`

with both chains nesting to the left. A draft holds the groups that are open,
the chains of the innermost one, and what has been read of the operand that
comes next.

Each step looks at one token only, so an error is found at the first token that
no filter can have in its place. Some errors use that token up and some leave it
to be read; this shows when reading goes on after an error.
-/

import WhereClause.Filter
import WhereClause.SyntaxError

namespace WhereClause.Filter

/-- What has been read of the expression around an operand: the alternatives to
its left, the conjunction to its left, and how often it is negated. The count of
negations is a machine word of 32 bits with a sign. -/
structure Chains where
  alternatives : Option Filter
  conjunction : Option Filter
  negations : Int32
  deriving DecidableEq, Repr

namespace Chains

/-- The beginning of an expression. -/
def empty : Chains :=
  { alternatives := none, conjunction := none, negations := 0 }

/-- One more negation in front of the operand. The count wraps around behind the
greatest one, which is what unchecked arithmetic makes of it; checked arithmetic
breaks off at the 2 ^ 31st negation, with no filter and no error. -/
def negate (chains : Chains) : Chains :=
  { chains with negations := chains.negations + 1 }

/-- The conjunction that ends with the given operand. A count of negations that
is not positive negates nothing. -/
def conjoin (chains : Chains) (operand : Filter) : Filter :=
  let negated := operand.negated chains.negations.toInt.toNat
  match chains.conjunction with
  | none => negated
  | some left => .binary .and left negated

/-- The expression that ends with the given operand. -/
def close (chains : Chains) (operand : Filter) : Filter :=
  let conjunction := chains.conjoin operand
  match chains.alternatives with
  | none => conjunction
  | some left => .binary .or left conjunction

/-- The chains in front of the operand that follows the given one after a
connective. -/
def extend (chains : Chains) (operand : Filter) : Connective → Chains
  | .and => { chains with conjunction := some (chains.conjoin operand), negations := 0 }
  | .or => { empty with alternatives := some (chains.close operand) }

end Chains

/-- What has been read of an operand, and so what must come next. The values of
a list stand in reverse. -/
inductive Phase
  /-- Nothing, perhaps after an operator. -/
  | operand (lead : Option Lead)
  /-- A field. -/
  | field (field : Field)
  /-- A field and a comparison. -/
  | comparison (field : Field) (comparison : Comparison)
  /-- A field and the keyword of a list. -/
  | membership (field : Field)
  /-- A list, opened but without a value. -/
  | listStart (field : Field)
  /-- A list up to a value. -/
  | listValue (field : Field) (values : List Literal)
  /-- A list up to a comma. -/
  | listComma (field : Field) (values : List Literal)
  /-- All of it. -/
  | complete (operand : Filter)
  deriving DecidableEq, Repr

/-- A group that is open: where its parenthesis stands, and the chains in front
of it. -/
structure OpenGroup where
  opening : Span
  outside : Chains
  deriving DecidableEq, Repr

/-- A filter under construction. The innermost open group comes first. -/
structure Draft where
  groups : List OpenGroup
  chains : Chains
  phase : Phase
  deriving DecidableEq, Repr

/-- What reading depends on besides the tokens: the reserved words, the greatest
number of groups within one another, and how many count as open from the start. -/
structure Rules where
  reserved : ReservedWords
  limit : Nat
  depth : Nat
  deriving DecidableEq, Repr

/-- What a token does to a draft: it extends it, or it is an error, and then it
is used up or left to be read. -/
inductive Step
  | advance (draft : Draft)
  | stopAfter (error : SyntaxError)
  | stopBefore (error : SyntaxError)
  deriving DecidableEq, Repr

namespace Draft

/-- Nothing read yet. -/
def start : Draft :=
  { groups := [], chains := .empty, phase := .operand none }

/-- The step for a token in the place of a value. -/
def stepValue (reserved : ReservedWords) (token : Token) (next : Literal → Draft) : Step :=
  if token.kind.isValue then
    match Literal.ofText reserved token.text with
    | .ok value => .advance (next value)
    | .error objection => .stopAfter (.invalidValue token.text objection)
  else
    .stopAfter (.invalidValue token.text .notAValue)

/-- The step for a token in the place of an operand. -/
def stepOperand (rules : Rules) (draft : Draft) (token : Token) : Step :=
  match token.kind with
  | .negation =>
    .advance { draft with chains := draft.chains.negate, phase := .operand (some .negation) }
  | .opening =>
    if rules.limit < rules.depth + draft.groups.length + 1 then
      .stopAfter (.nestingTooDeep rules.limit)
    else
      .advance
        { groups := { opening := token.span, outside := draft.chains } :: draft.groups
          chains := .empty
          phase := .operand none }
  | .identifier =>
    match Field.ofName rules.reserved token.text with
    | .ok field => .advance { draft with phase := .field field }
    | .error objection => .stopAfter (.invalidField token.text objection)
  | .string | .number => .stopAfter (.invalidField token.text .malformedName)
  | _ => .stopAfter (.unexpectedToken token.text token.span)

/-- The step for a token after a field. -/
def stepOperator (draft : Draft) (field : Field) (token : Token) : Step :=
  match token.kind with
  | .comparison comparison => .advance { draft with phase := .comparison field comparison }
  | .membership => .advance { draft with phase := .membership field }
  | _ => .stopBefore (.unsupportedOperator token.text token.span)

/-- The error at a token that cannot stand after a complete operand. -/
def surplus (draft : Draft) (token : Token) : SyntaxError :=
  match draft.groups with
  | [] => .trailingTokens token.text token.span
  | innermost :: _ => .unclosedGroup innermost.opening

/-- The step for a token after a complete operand. -/
def stepComplete (draft : Draft) (operand : Filter) (token : Token) : Step :=
  match token.kind with
  | .connective connective =>
    .advance
      { draft with
        chains := draft.chains.extend operand connective
        phase := .operand (some (.connective connective)) }
  | .closing =>
    match draft.groups with
    | [] => .stopBefore (draft.surplus token)
    | innermost :: outer =>
      .advance
        { groups := outer
          chains := innermost.outside
          phase := .complete (.group (draft.chains.close operand)) }
  | _ => .stopBefore (draft.surplus token)

/-- What a token does to a draft. -/
def step (rules : Rules) (draft : Draft) (token : Token) : Step :=
  match draft.phase with
  | .operand _ => draft.stepOperand rules token
  | .field field => draft.stepOperator field token
  | .comparison field comparison =>
    stepValue rules.reserved token fun value =>
      { draft with phase := .complete (.condition field comparison value) }
  | .membership field =>
    match token.kind with
    | .opening => .advance { draft with phase := .listStart field }
    | _ => .stopAfter (.unexpectedToken token.text token.span)
  | .listStart field =>
    match token.kind with
    | .closing => .stopBefore (.emptyList field)
    | _ =>
      stepValue rules.reserved token fun value =>
        { draft with phase := .listValue field [value] }
  | .listValue field values =>
    match token.kind with
    | .comma => .advance { draft with phase := .listComma field values }
    | .closing => .advance { draft with phase := .complete (.oneOf field values.reverse) }
    | _ => .stopBefore (.unclosedList field)
  | .listComma field values =>
    stepValue rules.reserved token fun value =>
      { draft with phase := .listValue field (value :: values) }
  | .complete operand => draft.stepComplete operand token

/-- The filter that a draft amounts to if no token follows. -/
def finish (draft : Draft) : Except SyntaxError Filter :=
  match draft.phase with
  | .operand none => .error (.unexpectedEnd .expression)
  | .operand (some lead) => .error (.missingOperand lead)
  | .field _ => .error (.unexpectedEnd .comparisonOperator)
  | .comparison _ _ => .error (.unexpectedEnd .value)
  | .membership _ => .error (.unexpectedEnd .listOpening)
  | .listStart field => .error (.unclosedList field)
  | .listValue field _ => .error (.unclosedList field)
  | .listComma field _ => .error (.unclosedList field)
  | .complete operand =>
    match draft.groups with
    | [] => .ok (draft.chains.close operand)
    | innermost :: _ => .error (.unclosedGroup innermost.opening)

/-- Read tokens onto a draft, answering the outcome and the tokens that are left
to be read. -/
def run (rules : Rules) (draft : Draft) : List Token → Except SyntaxError Filter × List Token
  | [] => (draft.finish, [])
  | token :: rest =>
    match draft.step rules token with
    | .advance next => next.run rules rest
    | .stopAfter error => (.error error, rest)
    | .stopBefore error => (.error error, token :: rest)

end Draft

end WhereClause.Filter
