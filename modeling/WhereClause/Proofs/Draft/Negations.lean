/-
# Negations in a row

The negations in front of an operand are counted where they stand, and they are put around the
operand once it is complete. The counter is a word of 32 bits with a sign, so it counts up to
`2 ^ 31 - 1`. What the next negation does depends on how the arithmetic is compiled. If it is
unchecked, the count wraps around and is negative, and a count that is not positive negates
nothing: of `2 ^ 31` negations not one is left in the filter. That is the count taken here. If
it is checked, reading breaks off at that negation with neither a filter nor an error. Either
way the negations come out right where there are fewer of them, and nowhere else.

Apart from the count, negations in front of tokens change nothing in the way the tokens are
read: the same groups are opened, the same operands completed and joined. So what is read as an
operand is read as the same operand behind negations, and all that is left to know is the count
at its end.
-/

import WhereClause.Proofs.Acceptance
import WhereClause.Proofs.Draft.Limit

namespace WhereClause.Filter

/-! ### The negations that tokens begin with -/

/-- The filter is an operand: a comparison, a list or a group. -/
def IsOperand : Filter → Prop
  | .condition .. | .oneOf .. | .group _ => True
  | .binary .. | .negation _ => False

/-- All of the tokens are negations. -/
def AllNegate (tokens : List Token) : Prop :=
  ∀ token ∈ tokens, token.kind = .negation

/-- The number of negations that the tokens begin with. -/
def negationsAhead (tokens : List Token) : Nat :=
  (tokens.takeWhile fun token => token.kind = .negation).length

/-- How often a counter of this many negations negates. -/
def counted (count : Nat) : Nat :=
  (Int32.ofNat count).toInt.toNat

section Counting

variable {negations tokens : List Token} {token : Token} {filter : Filter} {count : Nat}

theorem allNegate_concat : AllNegate (tokens ++ [token]) ↔
    AllNegate tokens ∧ token.kind = .negation := by
  simp only [AllNegate, List.forall_mem_append, List.forall_mem_singleton]

/-- Negations in front of tokens add to those that the tokens begin with. -/
theorem negationsAhead_append (negate : AllNegate negations) (tokens : List Token) :
    negationsAhead (negations ++ tokens) = negations.length + negationsAhead tokens := by
  have all : ∀ token ∈ negations, decide (token.kind = .negation) = true :=
    fun token there => decide_eq_true (negate token there)
  rw [negationsAhead, List.takeWhile_append_of_pos all, List.length_append, negationsAhead]

/-- They are all there are in front of something else. -/
theorem negationsAhead_of_head? (other : ∀ token ∈ tokens.head?, token.kind ≠ .negation) :
    negationsAhead tokens = 0 := by
  cases tokens with
  | nil => rfl
  | cons token rest =>
      have differs : token.kind ≠ .negation := other token rfl
      simp only [negationsAhead, List.takeWhile_cons, differs, decide_false, Bool.false_eq_true,
        if_false, List.length_nil]

/-- Another token at the end is one more negation in front if nothing but negations stands
there. -/
theorem negationsAhead_concat_of_allNegate (negate : AllNegate (tokens ++ [token])) :
    negationsAhead (tokens ++ [token]) = negationsAhead tokens + 1 := by
  have length {all : List Token} (negate : AllNegate all) : negationsAhead all = all.length := by
    simpa [negationsAhead] using negationsAhead_append negate []
  rw [length negate, length (allNegate_concat.mp negate).1, List.length_append,
    List.length_singleton]

/-- Otherwise it is none. -/
theorem negationsAhead_concat_of_not (other : ¬ AllNegate (tokens ++ [token])) :
    negationsAhead (tokens ++ [token]) = negationsAhead tokens := by
  induction tokens with
  | nil =>
      refine negationsAhead_of_head? fun first there negates => other ?_
      obtain rfl : token = first := by simpa using there
      simpa [AllNegate] using negates
  | cons first rest ih =>
      simp only [negationsAhead, List.cons_append, List.takeWhile_cons]
      split
      · next negates =>
          have within : ¬ AllNegate (rest ++ [token]) := by
            intro negate
            exact other (List.forall_mem_cons.mpr ⟨of_decide_eq_true negates, negate⟩)
          exact congrArg (· + 1) (ih within)
      · rfl

/-- The counter is right as long as it stays below its range. -/
theorem counted_eq_iff : counted count = count ↔ count < 2 ^ 31 := by
  constructor
  · intro right
    have bound := (Int32.ofNat count).toInt_lt
    rw [counted] at right
    omega
  · intro small
    rw [counted, Int32.toInt_ofNat_of_lt small, Int.toNat_natCast]

/-- A filter that is negated is no operand. -/
theorem isOperand_of_negated (operand : (filter.negated count).IsOperand) : count = 0 := by
  induction count generalizing filter with
  | zero => rfl
  | succ count ih =>
      -- the innermost negation is still there if no other is
      obtain rfl := ih operand
      exact operand.elim

/-- Negations can be counted. -/
theorem leadingNegations_negated (count : Nat) (filter : Filter) :
    (filter.negated count).leadingNegations = filter.leadingNegations + count := by
  induction count generalizing filter with
  | zero => rfl
  | succ count ih =>
      have inner := ih (.negation filter)
      rw [leadingNegations] at inner
      rw [negated, inner]
      omega

theorem negated_inj {other : Nat} :
    filter.negated count = filter.negated other ↔ count = other := by
  constructor
  · intro same
    have leading := congrArg leadingNegations same
    rw [leadingNegations_negated, leadingNegations_negated] at leading
    exact Nat.add_left_cancel leading
  · rintro rfl
    rfl

end Counting

namespace Chains

variable {chains : Chains} {operand : Filter}

/-- Nothing but negations stands to the left of the operand. -/
def Alone (chains : Chains) : Prop :=
  chains.alternatives = none ∧ chains.conjunction = none

theorem not_alone_extend (operand : Filter) (joint : Connective) :
    ¬ (chains.extend operand joint).Alone := by
  cases joint with
  | and => exact fun alone => nomatch alone.2
  | or => exact fun alone => nomatch alone.1

/-- Then the negations are all that is put around it. -/
theorem Alone.close_eq (alone : chains.Alone) :
    chains.close operand = operand.negated chains.negations.toInt.toNat := by
  simp only [close, conjoin, alone.1, alone.2]

/-- An operand that is read as a whole filter stands alone, and is not negated. -/
theorem alone_of_close (undivided : (chains.close operand).IsOperand) :
    chains.Alone ∧ chains.close operand = operand := by
  obtain ⟨alternatives, conjunction, negations⟩ := chains
  cases alternatives with
  | some left => exact undivided.elim
  | none =>
      cases conjunction with
      | some left => exact undivided.elim
      | none =>
          have none : negations.toInt.toNat = 0 := isOperand_of_negated undivided
          refine ⟨⟨rfl, rfl⟩, ?_⟩
          simp only [close, conjoin, none, negated]

end Chains

namespace Draft

section Outermost

variable {rules : Rules} {draft next : Draft} {token : Token} {done : List Token}

/-- The chains outside of all groups. -/
def outermost (draft : Draft) : Chains :=
  draft.levels.getLast (List.cons_ne_nil _ _)

/-- An operand is to come, outside of all groups. -/
def AwaitsOutside (draft : Draft) : Prop :=
  draft.groups = [] ∧ ∃ lead, draft.phase = .operand lead

theorem not_awaitsOutside_of_group {innermost : OpenGroup} {groups : List OpenGroup}
    (inside : draft.groups = innermost :: groups) : ¬ draft.AwaitsOutside := by
  rintro ⟨outside, -⟩
  rw [inside] at outside
  cases outside

theorem not_awaitsOutside_of_phase (other : ∀ lead, draft.phase ≠ .operand lead) :
    ¬ draft.AwaitsOutside := by
  rintro ⟨-, lead, awaits⟩
  exact other lead awaits

/-- Outside of all groups a token is counted as a negation, or it joins the operand to the next
one, or it changes nothing, and then the operand has begun. -/
theorem Advances.outermost_cases (advances : Advances rules draft token next) :
    (draft.AwaitsOutside ∧ token.kind = .negation ∧
      next.AwaitsOutside ∧ next.outermost = draft.outermost.negate) ∨
    ((draft.AwaitsOutside → token.kind ≠ .negation) ∧
      ¬ next.AwaitsOutside ∧ next.outermost = draft.outermost) ∨
    ¬ next.outermost.Alone := by
  cases advances with
  | negate groups chains lead kind =>
      cases groups with
      | nil => exact .inl ⟨⟨rfl, lead, rfl⟩, kind, ⟨rfl, _, rfl⟩, rfl⟩
      | cons innermost groups =>
          exact .inr (.inl ⟨fun awaits => absurd awaits (not_awaitsOutside_of_group rfl),
            not_awaitsOutside_of_group rfl, rfl⟩)
  | openGroup groups chains lead kind =>
      exact .inr (.inl ⟨fun _ => by rw [kind]; decide, not_awaitsOutside_of_group rfl, rfl⟩)
  | nameField _ _ _ kind =>
      exact .inr (.inl ⟨fun _ => by rw [kind]; decide, not_awaitsOutside_of_phase nofun, rfl⟩)
  | join groups chains operand kind =>
      cases groups with
      | nil => exact .inr (.inr (Chains.not_alone_extend operand _))
      | cons innermost groups =>
          exact .inr (.inl ⟨fun awaits => absurd awaits (not_awaitsOutside_of_group rfl),
            not_awaitsOutside_of_group rfl, rfl⟩)
  | compare | beginMembership | compareWith | openList | firstValue | separate | closeList
  | nextValue | closeGroup =>
      exact .inr (.inl ⟨fun awaits => absurd awaits (not_awaitsOutside_of_phase nofun),
        not_awaitsOutside_of_phase nofun, rfl⟩)

/-- As long as an operand stands alone, the count is that of the negations which the tokens
begin with, and the operand has begun with the first token that is not one. -/
structure Counts (done : List Token) (draft : Draft) : Prop where
  count : draft.outermost.negations = Int32.ofNat (negationsAhead done)
  awaits : draft.AwaitsOutside ↔ AllNegate done

/-- A token leaves it counted. -/
theorem Counts.advance (counts : draft.outermost.Alone → draft.Counts done)
    (advances : Advances rules draft token next) (alone : next.outermost.Alone) :
    next.Counts (done ++ [token]) := by
  rcases advances.outermost_cases with
    ⟨awaits, negates, awaits', same⟩ | ⟨begins, begun, same⟩ | joined
  · have before := counts (by rw [same] at alone; exact alone)
    have negate : AllNegate (done ++ [token]) :=
      allNegate_concat.mpr ⟨before.awaits.mp awaits, negates⟩
    refine ⟨?_, iff_of_true awaits' negate⟩
    rw [same, negationsAhead_concat_of_allNegate negate, Chains.negate, before.count,
      Int32.ofNat_add]
    rfl
  · have before := counts (by rwa [same] at alone)
    have other : ¬ AllNegate (done ++ [token]) := by
      intro negate
      obtain ⟨earlier, negates⟩ := allNegate_concat.mp negate
      exact begins (before.awaits.mpr earlier) negates
    refine ⟨?_, iff_of_false begun other⟩
    rw [same, negationsAhead_concat_of_not other, before.count]
  · exact absurd alone joined

/-- So it is counted in every draft that a run comes by. -/
theorem Reaches.counts (reached : Reaches rules .start done draft)
    (alone : draft.outermost.Alone) : draft.Counts done := by
  induction reached with
  | start => exact ⟨rfl, iff_of_true ⟨rfl, none, rfl⟩ nofun⟩
  | advance _ advances ih => exact Counts.advance ih advances alone

end Outermost

section Ahead

variable {rules : Rules} {start middle last : Draft} {first second : List Token}

/-- One after the other, tokens lead from the first draft to the last. -/
theorem Reaches.trans (reached : Reaches rules start first middle)
    (further : Reaches rules middle second last) : Reaches rules start (first ++ second) last := by
  induction further with
  | start => simpa using reached
  | advance _ advances ih => simpa using ih.advance advances

/-- Behind negations an operand is to come, and nothing else has been read. -/
theorem reaches_of_allNegate (negate : AllNegate first) (chains : Chains) (lead : Option Lead) :
    ∃ later lead', later.alternatives = chains.alternatives ∧
      later.conjunction = chains.conjunction ∧
      Reaches rules ⟨[], chains, .operand lead⟩ first ⟨[], later, .operand lead'⟩ := by
  induction first generalizing chains lead with
  | nil => exact ⟨chains, lead, rfl, rfl, .start⟩
  | cons token rest ih =>
      obtain ⟨negates, negate⟩ := List.forall_mem_cons.mp negate
      obtain ⟨later, lead', alternatives, conjunction, reached⟩ :=
        ih negate chains.negate (some .negation)
      have begun : Reaches rules ⟨[], chains, .operand lead⟩ [token] _ :=
        .advance .start (.negate [] chains lead negates)
      exact ⟨later, lead', alternatives, conjunction, begun.trans reached⟩

end Ahead

end Draft

section Negations

variable {reserved : ReservedWords} {limit : Nat} {negations tokens : List Token}
  {filter : Filter}

/-- Behind negations an operand is negated as often as the counter of all of them says. -/
theorem ofTokens_append_of_allNegate (negate : AllNegate negations)
    (read : ofTokens reserved limit tokens = .ok filter) (operand : filter.IsOperand) :
    ofTokens reserved limit (negations ++ tokens) =
      .ok (filter.negated (counted (negationsAhead (negations ++ tokens)))) := by
  obtain ⟨last, reached, finished⟩ := reaches_of_parse read
  obtain ⟨chains, whole, rfl, rfl⟩ := Draft.finish_eq_ok_iff.mp finished
  obtain ⟨alone, closes⟩ := Chains.alone_of_close operand
  rw [closes]
  obtain ⟨later, lead, alternatives, conjunction, ahead⟩ :=
    @Draft.reaches_of_allNegate ⟨reserved, limit, 0⟩ negations negate .empty none
  -- that an operand stands alone is not changed by the negations
  have lasting : Draft.Lasting fun first second => first.Alone → second.Alone :=
    ⟨id, fun operand joint _ joined => absurd joined (Chains.not_alone_extend operand joint)⟩
  have same : Draft.Behind (fun first second => first.Alone → second.Alone) .start
      ⟨[], later, .operand lead⟩ :=
    ⟨.inr ⟨⟨none, rfl⟩, lead, rfl⟩, rfl, .outermost fun _ => ⟨alternatives, conjunction⟩⟩
  obtain ⟨last', reached', behind, -⟩ := reached.behind lasting same (Nat.zero_le _)
  obtain ⟨chains', rfl, related⟩ := behind.complete
  have alone' : chains'.Alone := related alone
  have both := ahead.trans reached'
  have count : chains'.negations = _ := (both.counts alone').count
  have ended : ofTokens reserved limit (negations ++ tokens) = .ok (chains'.close whole) :=
    both.run_eq_finish
  rw [ended, alone'.close_eq, count]
  rfl

/-- Negations in front of an operand negate it as often as the counter of all of them says.
This is as often as they stand there if the counter has room for them, and not otherwise.
Tokens that begin with negations themselves and are read as an operand all the same have made
the counter, which nothing checks, come round already. -/
theorem ofTokens_negations (negate : AllNegate negations)
    (read : ofTokens reserved limit tokens = .ok filter) (operand : filter.IsOperand) :
    ofTokens reserved limit (negations ++ tokens) =
        .ok (filter.negated (counted (negations.length + negationsAhead tokens))) ∧
      ((∀ token ∈ tokens.head?, token.kind ≠ .negation) →
        (ofTokens reserved limit (negations ++ tokens) = .ok (filter.negated negations.length) ↔
          negations.length < 2 ^ 31)) := by
  have whole := ofTokens_append_of_allNegate negate read operand
  rw [negationsAhead_append negate] at whole
  refine ⟨whole, fun begins => ?_⟩
  rw [whole, negationsAhead_of_head? begins, Nat.add_zero, Except.ok.injEq, negated_inj,
    counted_eq_iff]

/-- The token of a negation. -/
def notToken : Token :=
  ⟨.negation, "not", ⟨0, 3⟩⟩

/-- The tokens of `a eq 1`. -/
def comparisonTokens : List Token :=
  [⟨.identifier, "a", ⟨4, 5⟩⟩, ⟨.comparison .equal, "eq", ⟨6, 8⟩⟩, ⟨.number, "1", ⟨9, 10⟩⟩]

/-- Two negations of a comparison. -/
theorem ofTokens_negations_twice :
    AllNegate [notToken, notToken] ∧
      ofTokens .standard 0 comparisonTokens = .ok (.condition ⟨"a"⟩ .equal ⟨"1"⟩) ∧
      (Filter.condition ⟨"a"⟩ .equal ⟨"1"⟩).IsOperand ∧
      ofTokens .standard 0 ([notToken, notToken] ++ comparisonTokens) =
        .ok (.negation (.negation (.condition ⟨"a"⟩ .equal ⟨"1"⟩))) := by
  have negate : AllNegate [notToken, notToken] := by
    simp [AllNegate, notToken]
  have read : ofTokens .standard 0 comparisonTokens = .ok (.condition ⟨"a"⟩ .equal ⟨"1"⟩) := rfl
  have begins : ∀ token ∈ comparisonTokens.head?, token.kind ≠ .negation := by decide
  have whole := (ofTokens_negations negate read True.intro).2 begins
  exact ⟨negate, read, True.intro, whole.mpr (by decide)⟩

/-- Of `2 ^ 31` negations in front of a comparison none is left, as the count wraps around
without a check. With checked arithmetic there is no filter at all, since reading breaks off at
the last of them. -/
theorem ofTokens_negations_lost :
    AllNegate (List.replicate (2 ^ 31) notToken) ∧
      ofTokens .standard 0 comparisonTokens = .ok (.condition ⟨"a"⟩ .equal ⟨"1"⟩) ∧
      ofTokens .standard 0 (List.replicate (2 ^ 31) notToken ++ comparisonTokens) =
        .ok (.condition ⟨"a"⟩ .equal ⟨"1"⟩) ∧
      ofTokens .standard 0 (List.replicate (2 ^ 31) notToken ++ comparisonTokens) ≠
        .ok ((Filter.condition ⟨"a"⟩ .equal ⟨"1"⟩).negated (2 ^ 31)) := by
  have negate : AllNegate (List.replicate (2 ^ 31) notToken) := by
    intro token there
    rw [List.eq_of_mem_replicate there]
    rfl
  have read : ofTokens .standard 0 comparisonTokens = .ok (.condition ⟨"a"⟩ .equal ⟨"1"⟩) := rfl
  have whole := ofTokens_append_of_allNegate negate read True.intro
  have lost :
      counted (negationsAhead (List.replicate (2 ^ 31) notToken ++ comparisonTokens)) = 0 := by
    rw [negationsAhead_append negate, List.length_replicate]
    rfl
  rw [lost] at whole
  refine ⟨negate, read, whole, fun kept => ?_⟩
  rw [whole, Except.ok.injEq] at kept
  have none : 0 = 2 ^ 31 := negated_inj.mp kept
  exact absurd none (by decide)

end Negations

end WhereClause.Filter
