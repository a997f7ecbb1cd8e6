/-
# The trees that a parser builds

The type of filters admits every tree, but a parser does not build every one. A tree in
which a disjunction stands below a conjunction, say, or a conjunction to the right of
one, comes about only with a group between the two. In other words each tree is a part
of an expression as it stands, and the parentheses of its groups are all that it needs.

That no more negations stand in a row than the counter of the parser can count belongs
to this description, since another tree could not be read again.
-/

import WhereClause.Proofs.Acceptance

namespace WhereClause.Filter

open Grammar

/-- The filter is this part of an expression, with no parentheses but those of its
groups. -/
inductive Shaped : Part → Filter → Prop
  | condition (field : Field) (comparison : Comparison) (value : Literal) :
      Shaped .primary (.condition field comparison value)
  | oneOf (field : Field) (values : List Literal) : Shaped .primary (.oneOf field values)
  | group {inner : Filter} : Shaped (.chain .or) inner → Shaped .primary (.group inner)
  | operand {inner : Filter} (count : Nat) :
      count < 2 ^ 31 → Shaped .primary inner → Shaped .operand (inner.negated count)
  | first {joint : Connective} {operand : Filter} :
      Shaped (Part.joinedBy joint) operand → Shaped (.chain joint) operand
  | join {joint : Connective} {left right : Filter} :
      Shaped (.chain joint) left → Shaped (Part.joinedBy joint) right →
      Shaped (.chain joint) (.binary joint left right)

/-! ### Negations in a row -/

/-- Negating a filter adds to the negations in front of it. -/
theorem negationRun_negated_le (count : Nat) (filter : Filter) :
    (filter.negated count).negationRun ≤
      max filter.negationRun (filter.leadingNegations + count) := by
  induction count generalizing filter with
  | zero => exact Nat.le_max_left _ _
  | succ count ih =>
      have inner := ih (.negation filter)
      simp only [negationRun, leadingNegations] at inner
      rw [negated]
      omega

/-- There is no negation in front of a primary. -/
theorem Shaped.leadingNegations_eq_zero {filter : Filter} (shaped : Shaped .primary filter) :
    filter.leadingNegations = 0 := by
  cases shaped with
  | condition | oneOf | group => rfl

/-- Nowhere in such a filter are there more negations in a row than the counter takes. -/
theorem Shaped.negationRun_lt {part : Part} {filter : Filter} (shaped : Shaped part filter) :
    filter.negationRun < 2 ^ 31 := by
  induction shaped with
  | condition | oneOf => exact Nat.two_pow_pos 31
  | group _ ih => exact ih
  | @operand inner count few primary ih =>
      have added := negationRun_negated_le count inner
      rw [primary.leadingNegations_eq_zero, Nat.zero_add] at added
      omega
  | first _ ih => exact ih
  | join _ _ ihLeft ihRight => exact Nat.max_lt.mpr ⟨ihLeft, ihRight⟩

/-! ### What a parser builds -/

namespace Chains

/-- The filters to the left of an operand are a disjunction and a conjunction. -/
structure Shaped (chains : Chains) : Prop where
  alternatives : ∀ left, chains.alternatives = some left → Filter.Shaped (.chain .or) left
  conjunction : ∀ left, chains.conjunction = some left → Filter.Shaped (.chain .and) left

variable {chains : Chains} {operand : Filter}

theorem shaped_empty : empty.Shaped := by
  constructor <;> exact nofun

/-- An operand ends a conjunction. The counter of negations is a word of 32 bits with a
sign. -/
theorem Shaped.conjoin (shaped : chains.Shaped) (primary : Filter.Shaped .primary operand) :
    Filter.Shaped (.chain .and) (chains.conjoin operand) := by
  have few : chains.negations.toInt.toNat < 2 ^ 31 := by
    have least := chains.negations.toInt_lt
    omega
  have negated : Filter.Shaped (Part.joinedBy .and)
      (operand.negated chains.negations.toInt.toNat) := .operand _ few primary
  unfold Chains.conjoin
  split
  · exact .first negated
  · next left there => exact .join (shaped.conjunction left there) negated

/-- And with it a disjunction. -/
theorem Shaped.close (shaped : chains.Shaped) (primary : Filter.Shaped .primary operand) :
    Filter.Shaped (.chain .or) (chains.close operand) := by
  have conjoined : Filter.Shaped (Part.joinedBy .or) (chains.conjoin operand) :=
    shaped.conjoin primary
  unfold Chains.close
  split
  · exact .first conjoined
  · next left there => exact .join (shaped.alternatives left there) conjoined

/-- A connective leaves one of the two to its left. -/
theorem Shaped.extend (shaped : chains.Shaped) (primary : Filter.Shaped .primary operand)
    (joint : Connective) : (chains.extend operand joint).Shaped := by
  cases joint with
  | and =>
      refine ⟨shaped.alternatives, fun left there => ?_⟩
      cases there
      exact shaped.conjoin primary
  | or =>
      refine ⟨fun left there => ?_, nofun⟩
      cases there
      exact shaped.close primary

end Chains

namespace Draft

/-- All trees in a draft are parts of an expression in their places. -/
structure Shaped (draft : Draft) : Prop where
  groups : ∀ group ∈ draft.groups, group.outside.Shaped
  chains : draft.chains.Shaped
  phase : ∀ operand, draft.phase = .complete operand → Filter.Shaped .primary operand

variable {rules : Rules} {draft next : Draft} {token : Token} {done : List Token}

/-- A token keeps them so. -/
theorem Shaped.advance (shaped : draft.Shaped) (advances : Advances rules draft token next) :
    next.Shaped := by
  obtain ⟨groups, chains, phase⟩ := shaped
  cases advances with
  | negate => exact ⟨groups, ⟨chains.alternatives, chains.conjunction⟩, nofun⟩
  | openGroup =>
      exact ⟨List.forall_mem_cons.mpr ⟨chains, groups⟩, Chains.shaped_empty, nofun⟩
  | compareWith =>
      refine ⟨groups, chains, fun operand complete => ?_⟩
      cases complete
      exact .condition _ _ _
  | closeList =>
      refine ⟨groups, chains, fun operand complete => ?_⟩
      cases complete
      exact .oneOf _ _
  | join => exact ⟨groups, chains.extend (phase _ rfl) _, nofun⟩
  | closeGroup =>
      obtain ⟨outside, outer⟩ := List.forall_mem_cons.mp groups
      refine ⟨outer, outside, fun operand complete => ?_⟩
      cases complete
      exact .group (chains.close (phase _ rfl))
  | nameField | compare | beginMembership | openList | firstValue | separate | nextValue =>
      exact ⟨groups, chains, nofun⟩

/-- So they are in every draft that a run comes by. -/
theorem Reaches.shaped (reached : Reaches rules .start done draft) : draft.Shaped := by
  induction reached with
  | start => exact ⟨nofun, Chains.shaped_empty, nofun⟩
  | advance _ advances ih => exact ih.advance advances

end Draft

/-- Whatever a parser reads, its filter is an expression as it stands. -/
theorem shaped_of_parse {parser : Parser} {filter : Filter}
    (parsed : parser.parse.1 = .ok filter) : Shaped (.chain .or) filter := by
  obtain ⟨last, reached, finished⟩ := reaches_of_parse parsed
  have shaped := reached.shaped
  obtain ⟨chains, operand, rfl, rfl⟩ := Draft.finish_eq_ok_iff.mp finished
  exact shaped.chains.close (shaped.phase operand rfl)

end WhereClause.Filter
