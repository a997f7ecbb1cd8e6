/-
# Reading filters from tokens

A parser reads one filter from the tokens that are left. It can be asked again
after an error, and then goes on from where that error was found; one thing is
carried along besides the place. A group that was refused for lying too deep
counts as open from then on, so each such refusal leaves one group less for what
follows.
-/

import WhereClause.Filter.Draft

namespace WhereClause

/-- The greatest number of groups within one another, unless another is given. -/
def defaultNestingLimit : Nat :=
  10

/-- The tokens that are left to be read, and what reading them depends on. -/
structure Parser where
  rules : Filter.Rules
  rest : List Token
  deriving DecidableEq, Repr

namespace Parser

/-- A parser in front of some tokens, under the default limit. -/
def ofTokens (reserved : ReservedWords) (tokens : List Token) : Parser :=
  { rules := { reserved, limit := defaultNestingLimit, depth := 0 }, rest := tokens }

/-- The parser under another limit. -/
def withLimit (parser : Parser) (limit : Nat) : Parser :=
  { parser with rules := { parser.rules with limit } }

/-- The number of groups that count as open after an outcome. -/
def depthAfter (depth : Nat) : Except SyntaxError Filter → Nat
  | .error (.nestingTooDeep _) => depth + 1
  | _ => depth

/-- Read a filter that takes up all tokens that are left. -/
def parse (parser : Parser) : Except SyntaxError Filter × Parser :=
  let (outcome, rest) := Filter.Draft.start.run parser.rules parser.rest
  (outcome,
    { rules := { parser.rules with depth := depthAfter parser.rules.depth outcome }, rest })

end Parser

/-- The filter that a sequence of tokens writes. -/
def Filter.ofTokens (reserved : ReservedWords) (limit : Nat) (tokens : List Token) :
    Except SyntaxError Filter :=
  ((Parser.ofTokens reserved tokens).withLimit limit).parse.1

end WhereClause
