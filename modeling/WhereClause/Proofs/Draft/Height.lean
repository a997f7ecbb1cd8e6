/-
# How high a filter can be

Every connective, every negation and every group of a filter comes from a token of
its own. So a filter is no higher than its tokens are many, and the levels of its
text, which are counted in a machine word, cannot run out.

The count is kept along the run: what a draft has in it and what it has promised,
an open group or the connective in front of the next operand, grows by at most one
with each token.
-/

import WhereClause.Proofs.Draft.Induction
import WhereClause.Proofs.Filter.Rendering

namespace WhereClause.Filter

/-- The number of connectives, negations and groups of a filter. -/
def operators : Filter → Nat
  | .condition .. => 0
  | .oneOf .. => 0
  | .binary _ left right => left.operators + right.operators + 1
  | .negation operand => operand.operators + 1
  | .group inner => inner.operators + 1

/-- A filter is no higher than it has operators. -/
theorem height_le_operators (filter : Filter) : filter.height ≤ filter.operators := by
  induction filter with
  | condition => exact Nat.le_refl _
  | oneOf => exact Nat.le_refl _
  | binary connective left right ihLeft ihRight =>
      simp only [height, operators]
      omega
  | negation operand ih => exact Nat.succ_le_succ ih
  | group inner ih => exact Nat.succ_le_succ ih

/-- Each negation is an operator. -/
theorem operators_negated (count : Nat) (filter : Filter) :
    (filter.negated count).operators = filter.operators + count := by
  induction count generalizing filter with
  | zero => rfl
  | succ count ih =>
      rw [negated, ih, operators]
      omega

/-- The operators to the left of an operand, with the connective that joins it to
them. -/
def leftOperators : Option Filter → Nat
  | none => 0
  | some left => left.operators + 1

/-- The operators that chains bring to an operand. -/
def Chains.operators (chains : Chains) : Nat :=
  leftOperators chains.alternatives + leftOperators chains.conjunction +
    chains.negations.toInt.toNat

/-- The operators of an operand that has been read. -/
def Phase.operators : Phase → Nat
  | .complete whole => whole.operators
  | _ => 0

/-- The operators that open groups bring to a filter, themselves among them. -/
def groupOperators : List OpenGroup → Nat
  | [] => 0
  | innermost :: outer => innermost.outside.operators + 1 + groupOperators outer

/-- The operators of everything in a draft. -/
def Draft.operators (draft : Draft) : Nat :=
  groupOperators draft.groups + draft.chains.operators + draft.phase.operators

namespace Chains

/-- Closing chains puts what they have on top of the operand. -/
theorem operators_close (chains : Chains) (operand : Filter) :
    (chains.close operand).operators = chains.operators + operand.operators := by
  obtain ⟨alternatives, conjunction, negations⟩ := chains
  cases alternatives <;> cases conjunction <;>
    simp only [close, conjoin, operators, Filter.operators, leftOperators, operators_negated] <;>
    omega

/-- The connective that extends chains is one more operator. -/
theorem operators_extend (chains : Chains) (operand : Filter) (connective : Connective) :
    (chains.extend operand connective).operators = chains.operators + operand.operators + 1 := by
  have none : Int32.toInt 0 = 0 := rfl
  cases connective with
  | or =>
      simp only [extend, empty, operators, leftOperators, operators_close, none]
      omega
  | and =>
      obtain ⟨alternatives, conjunction, negations⟩ := chains
      cases conjunction <;>
        simp only [extend, conjoin, operators, Filter.operators, leftOperators,
          operators_negated, none] <;>
        omega

/-- A negation is at most one more operator. The count can come round to a negative
number, which negates nothing. -/
theorem operators_negate (chains : Chains) : chains.negate.operators ≤ chains.operators + 1 := by
  have counted : (chains.negations + 1).toInt.toNat ≤ chains.negations.toInt.toNat + 1 := by
    have least := chains.negations.le_toInt
    have greatest := chains.negations.toInt_lt
    rw [Int32.toInt_add, Int.bmod]
    have one : Int32.toInt 1 = 1 := rfl
    rw [one]
    split <;> omega
  simp only [negate, operators]
  omega

end Chains

/-- A token brings at most one operator. -/
theorem Draft.Advances.operators_le {rules : Rules} {draft next : Draft} {token : Token}
    (advances : Draft.Advances rules draft token next) :
    next.operators ≤ draft.operators + 1 := by
  cases advances with
  | negate groups chains lead kind =>
      have counted := chains.operators_negate
      simp only [Draft.operators, Phase.operators]
      omega
  | join groups chains operand kind =>
      simp only [Draft.operators, Phase.operators, Chains.operators_extend]
      omega
  | openGroup groups chains lead kind room =>
      have nothing : Chains.empty.operators = 0 := rfl
      simp only [Draft.operators, groupOperators, Phase.operators, nothing]
      omega
  | closeGroup innermost groups chains operand kind =>
      simp only [Draft.operators, groupOperators, Phase.operators, Filter.operators,
        Chains.operators_close]
      omega
  | _ => exact Nat.le_succ _

/-- A draft has no more operators than tokens have been read. -/
theorem Draft.Reaches.operators_le {rules : Rules} {done : List Token} {draft : Draft}
    (reached : Draft.Reaches rules Draft.start done draft) : draft.operators ≤ done.length := by
  induction reached with
  | start => exact Nat.le_refl _
  | advance _ advances ih =>
      have grown := advances.operators_le
      rw [List.length_append, List.length_singleton]
      omega

/-- A filter is no higher than the tokens that it was read from are many. -/
theorem height_le_of_parse {parser : Parser} {filter : Filter}
    (parsed : parser.parse.1 = .ok filter) : filter.height ≤ parser.rest.length := by
  obtain ⟨last, reached, finished⟩ := reaches_of_parse parsed
  obtain ⟨chains, operand, rfl, rfl⟩ := Draft.finish_eq_ok_iff.mp finished
  have counted : chains.operators + operand.operators ≤ parser.rest.length := by
    have total := reached.operators_le
    simpa [Draft.operators, groupOperators, Phase.operators] using total
  have low := height_le_operators (chains.close operand)
  rw [Chains.operators_close] at low
  exact Nat.le_trans low counted

end WhereClause.Filter
