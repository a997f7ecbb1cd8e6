/-
# Reading does not see places and spellings

Two sequences of tokens that differ only in where the tokens stand and in how keywords are
spelled are read alike: both are the same filter, or the same is wrong with both. What differs
shows in the errors only, which report places and quote the token at fault, and it is just what
differed in the tokens.

This is a relation between two runs. The drafts differ in the places of their open groups and
in nothing else, and a token that is alike for both of them makes the same step on each side.
-/

import WhereClause.Parser
import WhereClause.Proofs.Token.Seam

namespace WhereClause

/-- The texts are the same, or they spell the same keyword. -/
def Respells (text other : String) : Prop :=
  text = other ∨ ∃ kind, TokenKind.keyword? text = some kind ∧ TokenKind.keyword? other = some kind

/-- The tokens differ at most in their places and in the spelling of a keyword. -/
structure Token.Recased (token other : Token) : Prop extends Token.Alike token other where
  spelling : Respells token.text other.text

/-- The same is wrong. The errors differ at most in places and in the spelling of a keyword
that they report. -/
inductive SyntaxError.Alike : SyntaxError → SyntaxError → Prop
  | refl (error : SyntaxError) : Alike error error
  | unexpectedToken {found found' : String} (span span' : Span) : Respells found found' →
      Alike (.unexpectedToken found span) (.unexpectedToken found' span')
  | unclosedGroup (opening opening' : Span) :
      Alike (.unclosedGroup opening) (.unclosedGroup opening')
  | invalidValue {text text' : String} (objection : Objection) : Respells text text' →
      Alike (.invalidValue text objection) (.invalidValue text' objection)
  | unsupportedOperator {found found' : String} (span span' : Span) : Respells found found' →
      Alike (.unsupportedOperator found span) (.unsupportedOperator found' span')
  | trailingTokens {found found' : String} (span span' : Span) : Respells found found' →
      Alike (.trailingTokens found span) (.trailingTokens found' span')

namespace Filter

/-- Both are the same filter, or the same is wrong with both. -/
inductive OutcomesAlike : Except SyntaxError Filter → Except SyntaxError Filter → Prop
  | ok (filter : Filter) : OutcomesAlike (.ok filter) (.ok filter)
  | error {error error' : SyntaxError} : error.Alike error' →
      OutcomesAlike (.error error) (.error error')

/-- The same has been read, apart from the places of groups. -/
structure Draft.Alike (draft other : Draft) : Prop where
  groups : List.Forall₂ (fun first second => first.outside = second.outside)
    draft.groups other.groups
  chains : draft.chains = other.chains
  phase : draft.phase = other.phase

/-- The steps have the same effect. -/
inductive Step.Alike : Step → Step → Prop
  | advance {next next' : Draft} : next.Alike next' → Alike (.advance next) (.advance next')
  | stopAfter {error error' : SyntaxError} : error.Alike error' →
      Alike (.stopAfter error) (.stopAfter error')
  | stopBefore {error error' : SyntaxError} : error.Alike error' →
      Alike (.stopBefore error) (.stopBefore error')

namespace Draft

variable {rules : Rules} {draft other : Draft} {token token' : Token}

theorem Alike.refl (draft : Draft) : draft.Alike draft :=
  ⟨List.forall₂_same.mpr fun _ _ => rfl, rfl, rfl⟩

/-- In the place of a value only kinds and texts of values are looked at. -/
theorem stepValue_alike {reserved : ReservedWords} {next next' : Literal → Draft}
    (same : token.Recased token') (nexts : ∀ value, (next value).Alike (next' value)) :
    (stepValue reserved token next).Alike (stepValue reserved token' next') := by
  unfold stepValue
  rw [← same.kind]
  cases isValue : token.kind.isValue with
  | false => exact .stopAfter (.invalidValue _ same.spelling)
  | true =>
      rw [← same.text isValue]
      cases Literal.ofText reserved token.text with
      | ok value => exact .advance (nexts value)
      | error objection => exact .stopAfter (.refl _)

theorem stepOperand_alike (alike : draft.Alike other) (same : token.Recased token') :
    (draft.stepOperand rules token).Alike (other.stepOperand rules token') := by
  obtain ⟨groups, chains, phase⟩ := draft
  obtain ⟨groups', chains', phase'⟩ := other
  obtain ⟨groups, rfl, rfl⟩ := alike
  have text := same.text
  unfold stepOperand
  rw [← same.kind]
  cases kind : token.kind with
  | negation => exact .advance ⟨groups, rfl, rfl⟩
  | opening =>
      simp only
      rw [← groups.length_eq]
      split
      · exact .stopAfter (.refl _)
      · exact .advance ⟨.cons rfl groups, rfl, rfl⟩
  | identifier =>
      rw [kind] at text
      simp only [← text rfl]
      cases Field.ofName rules.reserved token.text with
      | ok named => exact .advance ⟨groups, rfl, rfl⟩
      | error objection => exact .stopAfter (.refl _)
  | string | number =>
      rw [kind] at text
      simp only [← text rfl]
      exact .stopAfter (.refl _)
  | _ => exact .stopAfter (.unexpectedToken _ _ same.spelling)

theorem stepOperator_alike (alike : draft.Alike other) (named : Field)
    (same : token.Recased token') :
    (draft.stepOperator named token).Alike (other.stepOperator named token') := by
  unfold stepOperator
  rw [← same.kind]
  cases token.kind with
  | comparison sign => exact .advance { alike with phase := rfl }
  | membership => exact .advance { alike with phase := rfl }
  | _ => exact .stopBefore (.unsupportedOperator _ _ same.spelling)

/-- A token too many is reported with its place, or with that of an open group. -/
theorem surplus_alike (alike : draft.Alike other) (same : token.Recased token') :
    (draft.surplus token).Alike (other.surplus token') := by
  obtain ⟨groups, chains, phase⟩ := draft
  obtain ⟨groups', chains', phase'⟩ := other
  cases alike.groups with
  | nil => exact .trailingTokens _ _ same.spelling
  | cons _ _ => exact .unclosedGroup _ _

theorem stepComplete_alike (alike : draft.Alike other) (operand : Filter)
    (same : token.Recased token') :
    (draft.stepComplete operand token).Alike (other.stepComplete operand token') := by
  have surplus := surplus_alike alike same
  obtain ⟨groups, chains, phase⟩ := draft
  obtain ⟨groups', chains', phase'⟩ := other
  obtain ⟨groups, rfl, rfl⟩ := alike
  unfold stepComplete
  rw [← same.kind]
  cases token.kind with
  | connective joint => exact .advance ⟨groups, rfl, rfl⟩
  | closing =>
      cases groups with
      | nil => exact .stopBefore surplus
      | cons outside groups => exact .advance ⟨groups, outside, rfl⟩
  | _ => exact .stopBefore surplus

/-- Tokens that are alike make the same step on drafts that are alike. -/
theorem step_alike (alike : draft.Alike other) (same : token.Recased token') :
    (draft.step rules token).Alike (other.step rules token') := by
  have phases := alike.phase
  unfold step
  rw [← phases]
  cases phase : draft.phase with
  | operand lead => exact stepOperand_alike alike same
  | field named => exact stepOperator_alike alike named same
  | comparison named sign => exact stepValue_alike same fun _ => { alike with phase := rfl }
  | membership named =>
      simp only
      rw [← same.kind]
      cases token.kind with
      | opening => exact .advance { alike with phase := rfl }
      | _ => exact .stopAfter (.unexpectedToken _ _ same.spelling)
  | listStart named =>
      simp only
      rw [← same.kind]
      cases token.kind with
      | closing => exact .stopBefore (.refl _)
      | _ => exact stepValue_alike same fun _ => { alike with phase := rfl }
  | listValue named values =>
      simp only
      rw [← same.kind]
      cases token.kind with
      | comma => exact .advance { alike with phase := rfl }
      | closing => exact .advance { alike with phase := rfl }
      | _ => exact .stopBefore (.refl _)
  | listComma named values => exact stepValue_alike same fun _ => { alike with phase := rfl }
  | complete operand => exact stepComplete_alike alike operand same

theorem finish_alike (alike : draft.Alike other) :
    OutcomesAlike draft.finish other.finish := by
  obtain ⟨groups, chains, phase⟩ := draft
  obtain ⟨groups', chains', phase'⟩ := other
  obtain ⟨groups, rfl, rfl⟩ := alike
  cases phase with
  | operand lead => cases lead <;> exact .error (.refl _)
  | complete operand =>
      cases groups with
      | nil => exact .ok _
      | cons _ _ => exact .error (.unclosedGroup _ _)
  | _ => exact .error (.refl _)

/-- Runs over tokens that are alike have the same outcome. -/
theorem run_alike {tokens others : List Token} (same : List.Forall₂ Token.Recased tokens others)
    (alike : draft.Alike other) :
    OutcomesAlike (draft.run rules tokens).1 (other.run rules others).1 := by
  -- the drafts are left free, as each token takes both of them on
  induction same generalizing draft other with
  | nil => exact finish_alike alike
  | @cons token token' tokens others same _ ih =>
      have steps : (draft.step rules token).Alike (other.step rules token') :=
        step_alike alike same
      rw [run, run]
      generalize draft.step rules token = step, other.step rules token' = step' at steps
      cases steps with
      | advance nexts => exact ih nexts
      | stopAfter errors => exact .error errors
      | stopBefore errors => exact .error errors

end Draft

/-- Tokens that are alike are read alike. -/
theorem ofTokens_alike {tokens others : List Token}
    (same : List.Forall₂ Token.Recased tokens others) (reserved : ReservedWords) (limit : Nat) :
    OutcomesAlike (ofTokens reserved limit tokens) (ofTokens reserved limit others) :=
  Draft.run_alike same (.refl .start)

end Filter

end WhereClause
