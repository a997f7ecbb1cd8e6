/-
# The values of a filter and the tokens that gave them

No value token is lost, none is read twice, and none changes its place: the values
of a filter, from left to right, are the readings of its value tokens, in the order
of the tokens.

A word may name a field or give a value, and which of the two shows only in the
token after it. The invariant of the run therefore leaves the last token out while
that token is a field whose operator has not been read.
-/

import Mathlib.Data.List.Forall2
import WhereClause.Proofs.Draft.Induction

namespace WhereClause

/-- Whether a token of this kind turns the word in front of it into a field. -/
def TokenKind.isOperator : TokenKind → Bool
  | .comparison _ | .membership => true
  | _ => false

/-- The tokens that stand for values: the words and strings with no operator right
behind them. -/
def valueTokens : List Token → List Token
  | [] => []
  | token :: rest =>
    if token.kind.isValue && !rest.head?.any (·.kind.isOperator) then token :: valueTokens rest
    else valueTokens rest

namespace Filter

/-- The values of a filter, from left to right. -/
def literals : Filter → List Literal
  | .condition _ _ value => [value]
  | .oneOf _ values => values
  | .binary _ left right => left.literals ++ right.literals
  | .negation operand => operand.literals
  | .group inner => inner.literals

/-- The values to the left of an operand. -/
def Chains.literals (chains : Chains) : List Literal :=
  chains.alternatives.elim [] Filter.literals ++ chains.conjunction.elim [] Filter.literals

/-- The values that have been read of an operand. -/
def Phase.literals : Phase → List Literal
  | .listValue _ values | .listComma _ values => values.reverse
  | .complete whole => whole.literals
  | _ => []

/-- The values to the left of what stands in the innermost of some groups. -/
def groupLiterals : List OpenGroup → List Literal
  | [] => []
  | innermost :: outer => groupLiterals outer ++ innermost.outside.literals

/-- The values of everything in a draft, from left to right. -/
def Draft.literals (draft : Draft) : List Literal :=
  groupLiterals draft.groups ++ draft.chains.literals ++ draft.phase.literals

/-- Negations have no values of their own. -/
theorem literals_negated (count : Nat) (filter : Filter) :
    (filter.negated count).literals = filter.literals := by
  induction count generalizing filter with
  | zero => rfl
  | succ count ih => exact ih (.negation filter)

namespace Chains

/-- The values of an expression are those of its chains and of the last operand. -/
theorem literals_close (chains : Chains) (operand : Filter) :
    (chains.close operand).literals = chains.literals ++ operand.literals := by
  obtain ⟨alternatives, conjunction, negations⟩ := chains
  cases alternatives <;> cases conjunction <;>
    simp [close, conjoin, literals, Filter.literals, literals_negated]

/-- An operand brings its values to the chains that a connective extends. -/
theorem literals_extend (chains : Chains) (operand : Filter) (connective : Connective) :
    (chains.extend operand connective).literals = chains.literals ++ operand.literals := by
  cases connective with
  | or => simp [extend, empty, literals, literals_close]
  | and =>
      obtain ⟨alternatives, conjunction, negations⟩ := chains
      cases conjunction <;> simp [extend, conjoin, literals, Filter.literals, literals_negated]

end Chains

/-- Tokens that do not begin with an operator bring their values to those before. -/
theorem valueTokens_append (front : List Token) {back : List Token}
    (begins : back.head?.any (·.kind.isOperator) = false) :
    valueTokens (front ++ back) = valueTokens front ++ valueTokens back := by
  induction front with
  | nil => rfl
  | cons token rest ih =>
      have follows : (rest ++ back).head?.any (·.kind.isOperator) =
          rest.head?.any (·.kind.isOperator) := by
        cases rest with
        | nil => simpa using begins
        | cons => rfl
      rw [List.cons_append, valueTokens, valueTokens, follows, ih]
      split <;> rfl

section Matching

variable {R : Token → Literal → Prop} {settled : List Token} {token : Token}
  {values : List Literal}

/-- A token that is neither a value nor an operator changes nothing. -/
theorem forall₂_mark (given : List.Forall₂ R (valueTokens settled) values)
    (notValue : token.kind.isValue = false) (notOperator : token.kind.isOperator = false) :
    List.Forall₂ R (valueTokens (settled ++ [token])) values := by
  rw [valueTokens_append settled (by simpa using notOperator)]
  simpa [valueTokens, notValue] using given

/-- A value comes after the values before it. -/
theorem forall₂_value {value : Literal} (given : List.Forall₂ R (valueTokens settled) values)
    (isValue : token.kind.isValue = true) (gives : R token value) :
    List.Forall₂ R (valueTokens (settled ++ [token])) (values ++ [value]) := by
  have notOperator : token.kind.isOperator = false := by
    cases kind : token.kind with
    | comparison => simp [kind, TokenKind.isValue] at isValue
    | membership => simp [kind, TokenKind.isValue] at isValue
    | _ => rfl
  rw [valueTokens_append settled (by simpa using notOperator)]
  have single : valueTokens [token] = [token] := by simp [valueTokens, isValue]
  rw [single]
  exact List.rel_append given (.cons gives .nil)

/-- A field is no value once its operator has been read. -/
theorem forall₂_operator {named : Token} (given : List.Forall₂ R (valueTokens settled) values)
    (isField : named.kind = .identifier) (isOperator : token.kind.isOperator = true) :
    List.Forall₂ R (valueTokens (settled ++ [named] ++ [token])) values := by
  have notValue : token.kind.isValue = false := by
    cases kind : token.kind with
    | comparison => rfl
    | membership => rfl
    | _ => simp [kind, TokenKind.isOperator] at isOperator
  rw [List.append_assoc, valueTokens_append settled (by simp [isField, TokenKind.isOperator])]
  simpa [valueTokens, isOperator, notValue] using given

end Matching

/-- All tokens that have been read are settled, but for a last one that names a field. -/
def Settled (done settled : List Token) : Phase → Prop
  | .field _ => ∃ named : Token, named.kind = .identifier ∧ done = settled ++ [named]
  | _ => done = settled

/-- The values of a draft are given by the value tokens among the settled ones. -/
def Draft.Accounts (reserved : ReservedWords) (done : List Token) (draft : Draft) : Prop :=
  ∃ settled, Settled done settled draft.phase ∧
    List.Forall₂ (Draft.Gives reserved) (valueTokens settled) draft.literals

/-- A token keeps the account of the values. -/
theorem Draft.Accounts.advance {rules : Rules} {done : List Token} {draft next : Draft}
    {token : Token} (accounts : draft.Accounts rules.reserved done)
    (advances : Draft.Advances rules draft token next) :
    next.Accounts rules.reserved (done ++ [token]) := by
  obtain ⟨settled, state, given⟩ := accounts
  cases advances with
  | negate groups chains lead kind =>
      obtain rfl := state
      exact ⟨_, rfl, forall₂_mark given (by rw [kind]; rfl) (by rw [kind]; rfl)⟩
  | openGroup groups chains lead kind room =>
      obtain rfl := state
      refine ⟨_, rfl, forall₂_mark ?_ (by rw [kind]; rfl) (by rw [kind]; rfl)⟩
      simpa [Draft.literals, groupLiterals, Chains.literals, Chains.empty, Phase.literals]
        using given
  | nameField groups chains lead kind named =>
      obtain rfl := state
      exact ⟨_, ⟨token, kind, rfl⟩, given⟩
  | compare groups chains field kind =>
      obtain ⟨named, isField, rfl⟩ := state
      exact ⟨_, rfl, forall₂_operator given isField (by rw [kind]; rfl)⟩
  | beginMembership groups chains field kind =>
      obtain ⟨named, isField, rfl⟩ := state
      exact ⟨_, rfl, forall₂_operator given isField (by rw [kind]; rfl)⟩
  | compareWith groups chains field comparison gives =>
      obtain rfl := state
      refine ⟨_, rfl, ?_⟩
      have more := forall₂_value given gives.1 gives
      simpa [Draft.literals, Phase.literals, Filter.literals] using more
  | openList groups chains field kind =>
      obtain rfl := state
      exact ⟨_, rfl, forall₂_mark given (by rw [kind]; rfl) (by rw [kind]; rfl)⟩
  | firstValue groups chains field gives =>
      obtain rfl := state
      refine ⟨_, rfl, ?_⟩
      have more := forall₂_value given gives.1 gives
      simpa [Draft.literals, Phase.literals] using more
  | separate groups chains field values kind =>
      obtain rfl := state
      exact ⟨_, rfl, forall₂_mark given (by rw [kind]; rfl) (by rw [kind]; rfl)⟩
  | closeList groups chains field values kind =>
      obtain rfl := state
      exact ⟨_, rfl, forall₂_mark given (by rw [kind]; rfl) (by rw [kind]; rfl)⟩
  | nextValue groups chains field values gives =>
      obtain rfl := state
      refine ⟨_, rfl, ?_⟩
      have more := forall₂_value given gives.1 gives
      simpa [Draft.literals, Phase.literals] using more
  | join groups chains operand kind =>
      obtain rfl := state
      refine ⟨_, rfl, forall₂_mark ?_ (by rw [kind]; rfl) (by rw [kind]; rfl)⟩
      simpa [Draft.literals, Phase.literals, Chains.literals_extend] using given
  | closeGroup innermost groups chains operand kind =>
      obtain rfl := state
      refine ⟨_, rfl, forall₂_mark ?_ (by rw [kind]; rfl) (by rw [kind]; rfl)⟩
      simpa [Draft.literals, groupLiterals, Phase.literals, Filter.literals,
        Chains.literals_close] using given

/-- The values of every draft are accounted for. -/
theorem Draft.Reaches.accounts {rules : Rules} {done : List Token} {draft : Draft}
    (reached : Draft.Reaches rules Draft.start done draft) :
    draft.Accounts rules.reserved done := by
  induction reached with
  | start => exact ⟨[], rfl, .nil⟩
  | advance _ advances ih => exact ih.advance advances

/-- The value tokens that a parser reads give the values of its filter, one each and in
order. -/
theorem literals_of_parse {parser : Parser} {filter : Filter}
    (parsed : parser.parse.1 = .ok filter) :
    List.Forall₂ (Draft.Gives parser.rules.reserved) (valueTokens parser.rest)
      filter.literals := by
  obtain ⟨last, reached, finished⟩ := reaches_of_parse parsed
  obtain ⟨chains, operand, rfl, rfl⟩ := Draft.finish_eq_ok_iff.mp finished
  obtain ⟨settled, rfl, given⟩ := reached.accounts
  rw [Chains.literals_close]
  simpa [Draft.literals, groupLiterals, Phase.literals] using given

end Filter

end WhereClause
