/-
# Reading inside other groups

A filter is read inside of open groups as it is read outside of them, as long as the
limit leaves room for its own groups. Where there is no room, reading fails at the first
group that lies too deep, and with no other error.

Both follow from one relation between two drafts: what has been read is the same, but
around the second draft more groups are open. It is kept by every token that extends the
first draft, if the deepest group of that draft fits. How deep that is can be told from
the draft at any time: the count never falls, only opening a group makes it rise, and at
the end it is the depth of the filter.
-/

import WhereClause.Proofs.Draft.Induction
import WhereClause.Proofs.Rejection
import WhereClause.Proofs.Token.Seam

namespace WhereClause.Filter

/-! ### How deep the groups of a draft lie -/

/-- The depth of what stands to the left of an operand. -/
def leftDepth (left : Option Filter) : Nat :=
  left.elim 0 groupDepth

/-- The depth of the filters in some chains. -/
def Chains.groupDepth (chains : Chains) : Nat :=
  max (leftDepth chains.alternatives) (leftDepth chains.conjunction)

/-- The depth of an operand that has been read. -/
def Phase.groupDepth : Phase → Nat
  | .complete whole => whole.groupDepth
  | _ => 0

/-- The greatest number of groups within one another, counting the open ones and those
that have been closed in front of them. -/
def openDepth : List OpenGroup → Nat
  | [] => 0
  | innermost :: outer =>
    max (outer.length + max innermost.outside.groupDepth 1) (openDepth outer)

/-- The greatest number of groups within one another in all that has been read. -/
def Draft.groupDepth (draft : Draft) : Nat :=
  max (openDepth draft.groups)
    (draft.groups.length + max draft.chains.groupDepth draft.phase.groupDepth)

/-- Negations do not count. -/
theorem groupDepth_negated (count : Nat) (filter : Filter) :
    (filter.negated count).groupDepth = filter.groupDepth := by
  induction count generalizing filter with
  | zero => rfl
  | succ count ih => exact ih (.negation filter)

namespace Chains

/-- Connectives do not count either. -/
theorem groupDepth_conjoin (chains : Chains) (operand : Filter) :
    (chains.conjoin operand).groupDepth =
      max (leftDepth chains.conjunction) operand.groupDepth := by
  unfold conjoin
  cases chains.conjunction <;> simp [leftDepth, Filter.groupDepth, groupDepth_negated]

theorem groupDepth_close (chains : Chains) (operand : Filter) :
    (chains.close operand).groupDepth = max chains.groupDepth operand.groupDepth := by
  have conjoined := chains.groupDepth_conjoin operand
  unfold close groupDepth
  cases chains.alternatives with
  | none => simp [leftDepth, conjoined]
  | some left => simp [leftDepth, conjoined, Filter.groupDepth, Nat.max_assoc]

theorem groupDepth_extend (chains : Chains) (operand : Filter) (joint : Connective) :
    (chains.extend operand joint).groupDepth = max chains.groupDepth operand.groupDepth := by
  cases joint with
  | and => simp [extend, groupDepth, leftDepth, groupDepth_conjoin, Nat.max_assoc]
  | or => simp [extend, empty, groupDepth, leftDepth, groupDepth_close]

end Chains

namespace Draft

variable {rules rules' : Rules} {start draft next : Draft} {token : Token}

theorem length_le_groupDepth (draft : Draft) : draft.groups.length ≤ draft.groupDepth :=
  Nat.le_trans (Nat.le_add_right _ _) (Nat.le_max_right _ _)

/-- Only opening a group makes a draft deeper, and not deeper than the groups that are
then open. -/
theorem Advances.groupDepth_eq (advances : Advances rules draft token next) :
    next.groupDepth = draft.groupDepth ∨
      token.kind = .opening ∧ (∃ lead, draft.phase = .operand lead) ∧
        next.groupDepth = max draft.groupDepth (draft.groups.length + 1) := by
  cases advances with
  | openGroup groups chains lead kind =>
      refine .inr ⟨kind, ⟨lead, rfl⟩, ?_⟩
      have nothing : Chains.empty.groupDepth = 0 := rfl
      simp only [groupDepth, openDepth, Phase.groupDepth, nothing, List.length_cons]
      omega
  | closeGroup innermost groups chains operand =>
      left
      simp only [groupDepth, openDepth, Phase.groupDepth, Filter.groupDepth,
        Chains.groupDepth_close, List.length_cons]
      omega
  | join groups chains operand =>
      left
      simp only [groupDepth, Phase.groupDepth, Chains.groupDepth_extend]
      omega
  | closeList | compareWith => exact .inl rfl
  | negate | nameField | compare | beginMembership | openList | firstValue | separate | nextValue =>
      exact .inl rfl

/-- A draft never becomes less deep. -/
theorem Advances.groupDepth_le (advances : Advances rules draft token next) :
    draft.groupDepth ≤ next.groupDepth := by
  rcases advances.groupDepth_eq with same | ⟨-, -, deeper⟩
  · exact Nat.le_of_eq same.symm
  · rw [deeper]
    exact Nat.le_max_left _ _

/-! ### Two drafts, one of them inside other groups -/

/-- The same has been read, apart from the places of groups, and around the second draft
the groups of `outer` are open as well. -/
structure Inside (outer : List OpenGroup) (draft within : Draft) : Prop where
  groups : ∃ inner, within.groups = inner ++ outer ∧
    List.Forall₂ (fun first second => first.outside = second.outside) draft.groups inner
  chains : within.chains = draft.chains
  phase : within.phase = draft.phase

/-- The groups of the inner draft are open in the other one, besides the outer ones. -/
theorem Inside.length_groups {outer : List OpenGroup} {within : Draft}
    (inside : Inside outer draft within) :
    within.groups.length = draft.groups.length + outer.length := by
  obtain ⟨inner, split, same⟩ := inside.groups
  rw [split, List.length_append, same.length_eq]

/-- What gives a value gives it under all rules with the same reserved words. -/
theorem Gives.of_alike {other : Token} {value : Literal}
    (given : Gives rules.reserved token value) (alike : token.Alike other)
    (words : rules'.reserved = rules.reserved) : Gives rules'.reserved other value := by
  obtain ⟨isValue, read⟩ := given
  exact ⟨alike.kind ▸ isValue, by rw [words, ← alike.text isValue, read]⟩

/-- A token that extends a draft extends it in the same way inside other groups, where
there is room for the groups of the new draft. -/
theorem Advances.inside {outer : List OpenGroup} {within : Draft} {other : Token}
    (advances : Advances rules draft token next) (inside : Inside outer draft within)
    (alike : token.Alike other) (words : rules'.reserved = rules.reserved)
    (room : rules'.depth + outer.length + next.groups.length ≤ rules'.limit) :
    ∃ next', Advances rules' within other next' ∧ Inside outer next next' := by
  obtain ⟨groups', chains', phase'⟩ := within
  obtain ⟨⟨inner, split, same⟩, chained, phased⟩ := inside
  simp only at split chained phased
  subst split chained phased
  have like {kind : TokenKind} (is : token.kind = kind) : other.kind = kind := alike.kind ▸ is
  cases advances with
  | negate groups chains lead kind =>
      exact ⟨_, .negate _ _ _ (like kind), ⟨inner, rfl, same⟩, rfl, rfl⟩
  | openGroup groups chains lead kind =>
      have counted : groups.length = inner.length := same.length_eq
      have fits : rules'.depth + (inner ++ outer).length + 1 ≤ rules'.limit := by
        rw [List.length_append]
        simp only [List.length_cons] at room
        omega
      exact ⟨_, .openGroup _ _ _ (like kind) fits,
        ⟨⟨other.span, chains⟩ :: inner, rfl, .cons rfl same⟩, rfl, rfl⟩
  | nameField groups chains lead kind named =>
      have text : token.text = other.text := alike.text (by rw [kind]; rfl)
      rw [text, ← words] at named
      exact ⟨_, .nameField _ _ _ (like kind) named, ⟨inner, rfl, same⟩, rfl, rfl⟩
  | compare groups chains field kind =>
      exact ⟨_, .compare _ _ _ (like kind), ⟨inner, rfl, same⟩, rfl, rfl⟩
  | beginMembership groups chains field kind =>
      exact ⟨_, .beginMembership _ _ _ (like kind), ⟨inner, rfl, same⟩, rfl, rfl⟩
  | compareWith groups chains field sign given =>
      exact ⟨_, .compareWith _ _ _ _ (given.of_alike alike words), ⟨inner, rfl, same⟩, rfl, rfl⟩
  | openList groups chains field kind =>
      exact ⟨_, .openList _ _ _ (like kind), ⟨inner, rfl, same⟩, rfl, rfl⟩
  | firstValue groups chains field given =>
      exact ⟨_, .firstValue _ _ _ (given.of_alike alike words), ⟨inner, rfl, same⟩, rfl, rfl⟩
  | separate groups chains field values kind =>
      exact ⟨_, .separate _ _ _ _ (like kind), ⟨inner, rfl, same⟩, rfl, rfl⟩
  | closeList groups chains field values kind =>
      exact ⟨_, .closeList _ _ _ _ (like kind), ⟨inner, rfl, same⟩, rfl, rfl⟩
  | nextValue groups chains field values given =>
      exact ⟨_, .nextValue _ _ _ _ (given.of_alike alike words), ⟨inner, rfl, same⟩, rfl, rfl⟩
  | join groups chains operand kind =>
      exact ⟨_, .join _ _ _ (like kind), ⟨inner, rfl, same⟩, rfl, rfl⟩
  | closeGroup innermost groups chains operand kind =>
      cases same with
      | @cons _ innermost' _ inner outside same =>
          exact ⟨_, .closeGroup innermost' (inner ++ outer) _ _ (like kind),
            ⟨inner, rfl, same⟩, outside.symm, rfl⟩

/-- A group that is opened where there is no room for it ends the run. -/
theorem run_openGroup_of_full {draft : Draft} {lead : Option Lead} {rest : List Token}
    (opens : token.kind = .opening) (awaits : draft.phase = .operand lead)
    (full : rules.limit < rules.depth + draft.groups.length + 1) :
    (draft.run rules (token :: rest)).1 = .error (.nestingTooDeep rules.limit) := by
  apply run_cons_of_error?
  simp [step, stepOperand, awaits, opens, full, Step.error?]

section Reaches

variable {outer : List OpenGroup} {within : Draft} {done others : List Token}

/-- Tokens that lead to a draft lead to it inside other groups too, as far as there is room
for its groups. Where there is not, they lead to the refusal of the first group that does
not fit. -/
theorem Reaches.inside (reached : Reaches rules start done draft)
    (inside : Inside outer start within) (alike : List.Forall₂ Token.Alike done others)
    (words : rules'.reserved = rules.reserved)
    (room : rules'.depth + outer.length + start.groupDepth ≤ rules'.limit) :
    (rules'.depth + outer.length + draft.groupDepth ≤ rules'.limit →
      ∃ last, Reaches rules' within others last ∧ Inside outer draft last) ∧
    (rules'.limit < rules'.depth + outer.length + draft.groupDepth →
      ∀ rest, (within.run rules' (others ++ rest)).1 = .error (.nestingTooDeep rules'.limit)) := by
  induction reached generalizing others with
  | start =>
      cases alike
      refine ⟨fun _ => ⟨within, .start, inside⟩, fun deep => ?_⟩
      omega
  | @advance done draft next token _ advances ih =>
      obtain ⟨read, more, alikeRead, alikeMore, rfl⟩ := Token.alike_append alike
      obtain ⟨last, none, alikeLast, nothing, rfl⟩ := List.forall₂_cons_left_iff.mp alikeMore
      obtain rfl := List.forall₂_nil_left_iff.mp nothing
      have deepens := advances.groupDepth_eq
      have grows := advances.groupDepth_le
      have counted := next.length_le_groupDepth
      refine ⟨fun fits => ?_, fun deep rest => ?_⟩
      · obtain ⟨draft', reached', inside'⟩ := (ih alikeRead).1 (by omega)
        obtain ⟨next', advances', inside''⟩ :=
          advances.inside inside' alikeLast words (by omega)
        exact ⟨next', reached'.advance advances', inside''⟩
      · rw [List.append_assoc]
        -- either something that was read before is too deep, or it is the new group
        by_cases before : rules'.limit < rules'.depth + outer.length + draft.groupDepth
        · exact (ih alikeRead).2 before _
        · rcases deepens with same | ⟨opens, ⟨lead, awaits⟩, deeper⟩
          · omega
          · obtain ⟨draft', reached', inside'⟩ := (ih alikeRead).1 (by omega)
            have nested := inside'.length_groups
            rw [reached'.run_append]
            apply run_openGroup_of_full (alikeLast.kind ▸ opens) (inside'.phase.trans awaits)
            omega

end Reaches

section Group

variable {reserved : ReservedWords} {limit : Nat} {tokens others : List Token}
  {inner : Filter}

/-- The last draft of a filter is as deep as the filter. -/
theorem groupDepth_of_finish {filter : Filter} (finished : draft.finish = .ok filter) :
    draft.groupDepth = filter.groupDepth := by
  obtain ⟨chains, operand, rfl, rfl⟩ := finish_eq_ok_iff.mp finished
  rw [Chains.groupDepth_close, groupDepth]
  simp [openDepth, Phase.groupDepth]

theorem groupDepth_start : Draft.start.groupDepth = 0 :=
  rfl

/-- Nothing has been read, outside of all groups and behind a parenthesis. -/
theorem inside_start (outer : List OpenGroup) :
    Inside outer .start ⟨outer, .empty, .operand none⟩ :=
  ⟨⟨[], rfl, .nil⟩, rfl, rfl⟩

/-- Wherever an operand may stand, the tokens are the group of the filter. Where the limit
leaves no room for it, they are refused for that reason. -/
structure MakesGroup (rules : Rules) (inner : Filter) (tokens : List Token) : Prop where
  reads : ∀ groups chains lead rest,
    rules.depth + groups.length + 1 + inner.groupDepth ≤ rules.limit →
      run rules ⟨groups, chains, .operand lead⟩ (tokens ++ rest) =
        run rules ⟨groups, chains, .complete (.group inner)⟩ rest
  refuses : ∀ groups chains lead rest,
    rules.limit < rules.depth + groups.length + 1 + inner.groupDepth →
      (run rules ⟨groups, chains, .operand lead⟩ (tokens ++ rest)).1 =
        .error (.nestingTooDeep rules.limit)

/-- The tokens of a filter, between parentheses. -/
theorem makesGroup_of_ofTokens (read : ofTokens reserved limit tokens = .ok inner)
    (words : rules.reserved = reserved)
    (alike : List.Forall₂ Token.Alike (.bare .opening :: tokens ++ [.bare .closing]) others) :
    MakesGroup rules inner others := by
  obtain ⟨last, reached, finished⟩ := reaches_of_parse read
  have deep := groupDepth_of_finish finished
  obtain ⟨first, second, alikeFirst, alikeSecond, rfl⟩ := Token.alike_append alike
  obtain ⟨opening, within, same, alikeInner, rfl⟩ := List.forall₂_cons_left_iff.mp alikeFirst
  obtain ⟨closing, none, same', nothing, rfl⟩ := List.forall₂_cons_left_iff.mp alikeSecond
  obtain rfl := List.forall₂_nil_left_iff.mp nothing
  have opens : opening.kind = .opening := same.kind.symm
  have closes : closing.kind = .closing := same'.kind.symm
  constructor
  · intro groups chains lead rest room
    have fits : rules.depth + groups.length + 1 ≤ rules.limit := by omega
    have opened := Advances.openGroup groups chains lead opens fits
    obtain ⟨last', reached', ⟨split, chained, phased⟩⟩ :=
      (reached.inside (inside_start (⟨opening.span, chains⟩ :: groups)) alikeInner words
        (by rw [groupDepth_start, List.length_cons]; omega)).1
        (by rw [deep, List.length_cons]; omega)
    -- the last draft inside the group has only the outer groups open
    obtain ⟨ends, operand, rfl, rfl⟩ := finish_eq_ok_iff.mp finished
    obtain ⟨none, split, nothing⟩ := split
    cases nothing
    obtain ⟨groups', chains', phase'⟩ := last'
    simp only [List.nil_append] at split chained phased
    subst split chained phased
    rw [List.append_assoc, List.cons_append, opened.run_cons, reached'.run_append,
      List.singleton_append, (Advances.closeGroup _ groups _ operand closes).run_cons]
  · intro groups chains lead rest full
    rw [List.append_assoc, List.cons_append]
    by_cases fits : rules.depth + groups.length + 1 ≤ rules.limit
    · have opened := Advances.openGroup groups chains lead opens fits
      rw [opened.run_cons]
      exact (reached.inside (inside_start (⟨opening.span, chains⟩ :: groups)) alikeInner words
        (by rw [groupDepth_start, List.length_cons]; omega)).2
        (by rw [deep, List.length_cons]; omega) _
    · exact run_openGroup_of_full opens rfl (Nat.lt_of_not_le fits)

end Group

end Draft

end WhereClause.Filter
