/-
# What the limit on groups decides

A limit is looked at in one place only, where a group is opened. So raising it changes no
answer but a refusal of a group, and whether there is one is decided by the filter that is
read without it: by the greatest number of its groups that lie within one another.

Nothing else adds to that number. Filters that are strung together, negated and joined by
connectives as often as one likes, make up a filter whose groups lie as deep as those of
the deepest among them.
-/

import WhereClause.Proofs.Draft.Nesting

namespace WhereClause

/-- The error as it is reported under a limit. -/
def SyntaxError.underLimit (limit : Nat) : SyntaxError → SyntaxError
  | .nestingTooDeep _ => .nestingTooDeep limit
  | error => error

namespace Filter

namespace Draft

/-! ### Two runs under different limits -/

section Steps

variable {rules rules' : Rules} {draft next : Draft} {token : Token} {error : SyntaxError}

/-- The token is the parenthesis of a group. -/
def Opens (draft : Draft) (token : Token) : Prop :=
  (∃ lead, draft.phase = .operand lead) ∧ token.kind = .opening

/-- Where a group begins, it is opened if there is room for it. -/
theorem step_of_opens (opens : draft.Opens token) :
    draft.step rules token =
      if rules.limit < rules.depth + draft.groups.length + 1 then
        .stopAfter (.nestingTooDeep rules.limit)
      else
        .advance ⟨⟨token.span, draft.chains⟩ :: draft.groups, .empty, .operand none⟩ := by
  obtain ⟨⟨lead, awaits⟩, opens⟩ := opens
  simp only [step, awaits, stepOperand, opens]

/-- Everywhere else the limit is not looked at, and no group is refused. -/
theorem step_of_not_opens (words : rules'.reserved = rules.reserved)
    (inside : ¬ draft.Opens token) :
    draft.step rules' token = draft.step rules token ∧
      ∀ limit, (draft.step rules token).error? ≠ some (.nestingTooDeep limit) := by
  obtain ⟨groups, chains, phase⟩ := draft
  constructor
  · cases phase with
    | operand lead =>
        cases kind : token.kind with
        | opening => exact absurd ⟨⟨lead, rfl⟩, kind⟩ inside
        | _ => simp only [step, stepOperand, kind, words]
    | field | comparison | membership | listStart | listValue | listComma | complete =>
        simp only [step, words]
  · intro limit refused
    have opens : token.kind = .opening := isAbout_of_step refused
    cases phase with
    | operand lead => exact inside ⟨⟨lead, rfl⟩, opens⟩
    | field | membership | listValue =>
        simp [step, stepOperator, opens, Step.error?] at refused
    | complete =>
        cases groups <;> simp [step, stepComplete, surplus, opens, Step.error?] at refused
    | comparison | listStart | listComma =>
        simp [step, stepValue, opens, TokenKind.isValue, Step.error?] at refused

/-- A greater limit changes nothing but the refusal of a group. -/
theorem run_of_limit_le (words : rules'.reserved = rules.reserved)
    (depth : rules'.depth = rules.depth) (le : rules.limit ≤ rules'.limit) (draft : Draft)
    (tokens : List Token) :
    draft.run rules' tokens = draft.run rules tokens ∨
      (draft.run rules tokens).1 = .error (.nestingTooDeep rules.limit) := by
  induction tokens generalizing draft with
  | nil => exact .inl rfl
  | cons token tokens ih =>
      by_cases opens : draft.Opens token
      · rw [run, run, step_of_opens opens, step_of_opens opens]
        by_cases full : rules.limit < rules.depth + draft.groups.length + 1
        · right
          simp only [full, if_true]
        · have room : ¬ rules'.limit < rules'.depth + draft.groups.length + 1 := by omega
          simp only [full, room, if_false]
          exact ih _
      · have same := (step_of_not_opens words opens).1
        rw [run, run, same]
        cases draft.step rules token with
        | advance next => exact ih next
        | stopAfter | stopBefore => exact .inl rfl

/-- Only refusals of groups are reported differently. -/
theorem underLimit_eq (limit : Nat) (other : ∀ cut, error ≠ .nestingTooDeep cut) :
    error.underLimit limit = error := by
  cases error with
  | nestingTooDeep cut => exact absurd rfl (other cut)
  | _ => rfl

/-- A limit counts for as many groups as it leaves room for. Where as many are open already as
the limit is greater, the run is the same, apart from the limit that a refusal reports. -/
theorem run_of_room_eq (words : rules'.reserved = rules.reserved)
    (room : rules'.limit - rules'.depth = rules.limit - rules.depth) (draft : Draft)
    (tokens : List Token) :
    draft.run rules' tokens =
      ((draft.run rules tokens).1.mapError (·.underLimit rules'.limit),
        (draft.run rules tokens).2) := by
  induction tokens generalizing draft with
  | nil =>
      rw [run, run]
      cases finished : draft.finish with
      | ok filter => rfl
      | error error =>
          have atEnd := isAtEnd_of_finish finished
          have same : error.underLimit rules'.limit = error := by
            refine underLimit_eq _ fun cut deep => ?_
            rw [deep] at atEnd
            exact atEnd
          simp only [Except.mapError, same]
  | cons token tokens ih =>
      by_cases opens : draft.Opens token
      · rw [run, run, step_of_opens opens, step_of_opens opens]
        by_cases full : rules.limit < rules.depth + draft.groups.length + 1
        · have full' : rules'.limit < rules'.depth + draft.groups.length + 1 := by omega
          simp only [full, full', if_true, Except.mapError, SyntaxError.underLimit]
        · have fits : ¬ rules'.limit < rules'.depth + draft.groups.length + 1 := by omega
          simp only [full, fits, if_false]
          exact ih _
      · obtain ⟨same, other⟩ := step_of_not_opens words opens
        rw [run, run, same]
        cases stepped : draft.step rules token with
        | advance next => exact ih next
        | stopAfter error | stopBefore error =>
            have kept : error.underLimit rules'.limit = error := by
              refine underLimit_eq _ fun cut deep => other cut ?_
              rw [stepped, deep]
              rfl
            simp only [Except.mapError, kept]

end Steps

/-! ### Two drafts, one of them behind an operator -/

/-- The chains of the innermost group and of all around it, the innermost first. -/
def levels (draft : Draft) : List Chains :=
  draft.chains :: draft.groups.map OpenGroup.outside

/-- Two lists of chains that are the same up to the last ones, which are related. -/
inductive SameWithin (related : Chains → Chains → Prop) : List Chains → List Chains → Prop
  | outermost {first second : Chains} :
      related first second → SameWithin related [first] [second]
  | within (chains : Chains) {levels levels' : List Chains} :
      SameWithin related levels levels' → SameWithin related (chains :: levels) (chains :: levels')

/-- The same has been read since the beginning of an expression, in front of which there may
be more in the second draft: as many groups are open, and the chains of all but the outermost
level are the same. Those of the outermost level are related in the given way. -/
structure Behind (related : Chains → Chains → Prop) (draft later : Draft) : Prop where
  phase : later.phase = draft.phase ∨
    (∃ lead, draft.phase = .operand lead) ∧ ∃ lead, later.phase = .operand lead
  groups : later.groups.length = draft.groups.length
  levels : SameWithin related draft.levels later.levels

/-- Chains that are related stay so when the same tokens follow. -/
structure Lasting (related : Chains → Chains → Prop) : Prop where
  negate {first second : Chains} : related first second → related first.negate second.negate
  extend {first second : Chains} (operand : Filter) (joint : Connective) :
    related first second → related (first.extend operand joint) (second.extend operand joint)

section Behind

variable {rules : Rules} {start draft next later : Draft} {token : Token} {done : List Token}
  {related : Chains → Chains → Prop}

/-- What happens to the innermost level happens on both sides, also if it is outermost. -/
theorem SameWithin.change {first first' : Chains} {rest rest' : List Chains}
    (same : SameWithin related (first :: rest) (first' :: rest')) {change : Chains → Chains}
    (kept : ∀ {first second}, related first second → related (change first) (change second)) :
    SameWithin related (change first :: rest) (change first' :: rest') := by
  cases same with
  | outermost alike => exact .outermost (kept alike)
  | within _ same => exact .within _ same

/-- A token does the same to both drafts. -/
theorem Advances.behind (lasting : Lasting related) (advances : Advances rules draft token next)
    (same : Behind related draft later) :
    ∃ next', Advances rules later token next' ∧ Behind related next next' := by
  obtain ⟨groups', chains', phase'⟩ := later
  obtain ⟨phase, groups, levels⟩ := same
  simp only [Draft.levels] at phase groups levels
  cases advances with
  | negate _ _ lead kind =>
      obtain ⟨lead', rfl⟩ : ∃ lead', phase' = .operand lead' :=
        phase.elim (⟨lead, ·⟩) (·.2)
      exact ⟨_, .negate _ _ _ kind, .inl rfl, groups, levels.change lasting.negate⟩
  | openGroup _ _ lead kind room =>
      obtain ⟨lead', rfl⟩ : ∃ lead', phase' = .operand lead' :=
        phase.elim (⟨lead, ·⟩) (·.2)
      exact ⟨_, .openGroup _ _ _ kind (by rwa [groups]), .inl rfl, congrArg (· + 1) groups,
        .within .empty levels⟩
  | nameField _ _ lead kind named =>
      obtain ⟨lead', rfl⟩ : ∃ lead', phase' = .operand lead' :=
        phase.elim (⟨lead, ·⟩) (·.2)
      exact ⟨_, .nameField _ _ _ kind named, .inl rfl, groups, levels⟩
  | compare _ _ _ kind =>
      obtain rfl := phase.resolve_right (by simp)
      exact ⟨_, .compare _ _ _ kind, .inl rfl, groups, levels⟩
  | beginMembership _ _ _ kind =>
      obtain rfl := phase.resolve_right (by simp)
      exact ⟨_, .beginMembership _ _ _ kind, .inl rfl, groups, levels⟩
  | compareWith _ _ _ _ given =>
      obtain rfl := phase.resolve_right (by simp)
      exact ⟨_, .compareWith _ _ _ _ given, .inl rfl, groups, levels⟩
  | openList _ _ _ kind =>
      obtain rfl := phase.resolve_right (by simp)
      exact ⟨_, .openList _ _ _ kind, .inl rfl, groups, levels⟩
  | firstValue _ _ _ given =>
      obtain rfl := phase.resolve_right (by simp)
      exact ⟨_, .firstValue _ _ _ given, .inl rfl, groups, levels⟩
  | separate _ _ _ _ kind =>
      obtain rfl := phase.resolve_right (by simp)
      exact ⟨_, .separate _ _ _ _ kind, .inl rfl, groups, levels⟩
  | closeList _ _ _ _ kind =>
      obtain rfl := phase.resolve_right (by simp)
      exact ⟨_, .closeList _ _ _ _ kind, .inl rfl, groups, levels⟩
  | nextValue _ _ _ _ given =>
      obtain rfl := phase.resolve_right (by simp)
      exact ⟨_, .nextValue _ _ _ _ given, .inl rfl, groups, levels⟩
  | @join _ _ operand _ connective kind =>
      obtain rfl := phase.resolve_right (by simp)
      exact ⟨_, .join _ _ _ kind, .inl rfl, groups,
        levels.change (lasting.extend operand connective)⟩
  | closeGroup innermost outer chains operand kind =>
      obtain rfl := phase.resolve_right (by simp)
      obtain ⟨innermost', outer', rfl⟩ := List.exists_cons_of_length_eq_add_one groups
      cases levels with
      | within _ levels =>
          exact ⟨_, .closeGroup _ _ _ _ kind, .inl rfl, Nat.succ.inj groups, levels⟩

/-- A group that is opened lies within all that are open. -/
theorem Advances.groupDepth_of_opens (advances : Advances rules draft token next)
    (opens : draft.Opens token) :
    next.groupDepth = max draft.groupDepth (draft.groups.length + 1) := by
  obtain ⟨⟨lead, awaits⟩, opens⟩ := opens
  have deeper := advances.groupDepth_eq
  have grown : draft.groups.length + 1 ≤ next.groupDepth := by
    refine Nat.le_trans (Nat.le_of_eq ?_) next.length_le_groupDepth
    cases advances with
    | openGroup => rfl
    | negate _ _ _ kind | nameField _ _ _ kind =>
        rw [kind] at opens
        cases opens
    | _ => cases awaits
  have grows := advances.groupDepth_le
  omega

/-- No other token makes a draft deeper. -/
theorem Advances.groupDepth_of_not_opens (advances : Advances rules draft token next)
    (inside : ¬ draft.Opens token) : next.groupDepth = draft.groupDepth :=
  advances.groupDepth_eq.resolve_right fun deeper => inside ⟨deeper.2.1, deeper.1⟩

theorem Behind.opens_iff (same : Behind related draft later) :
    later.Opens token ↔ draft.Opens token := by
  have awaits : (∃ lead, later.phase = .operand lead) ↔ ∃ lead, draft.phase = .operand lead := by
    rcases same.phase with alike | ⟨first, second⟩
    · rw [alike]
    · exact iff_of_true second first
  exact and_congr awaits Iff.rfl

/-- Behind a complete operand outside all groups, too, the operand is complete. -/
theorem Behind.complete {chains : Chains} {operand : Filter}
    (same : Behind related ⟨[], chains, .complete operand⟩ later) :
    ∃ chains', later = ⟨[], chains', .complete operand⟩ ∧ related chains chains' := by
  obtain ⟨groups', chains', phase'⟩ := later
  obtain ⟨phase, groups, levels⟩ := same
  obtain rfl := List.length_eq_zero_iff.mp groups
  obtain rfl := phase.resolve_right (by simp)
  cases levels with
  | outermost alike => exact ⟨chains', rfl, alike⟩
  | within _ levels => cases levels

/-- Tokens that lead to a draft lead to it behind an operator too, and the groups of both
lie as deep as they lay in front of the tokens, or as the tokens have them. -/
theorem Reaches.behind (lasting : Lasting related) (reached : Reaches rules start done draft)
    (same : Behind related start later) (shallow : start.groupDepth ≤ later.groupDepth) :
    ∃ last, Reaches rules later done last ∧ Behind related draft last ∧
      last.groupDepth = max later.groupDepth draft.groupDepth := by
  induction reached with
  | start => exact ⟨later, .start, same, (Nat.max_eq_left shallow).symm⟩
  | @advance done draft next token _ advances ih =>
      obtain ⟨last, reached, same, deep⟩ := ih
      obtain ⟨next', advances', same'⟩ := advances.behind lasting same
      refine ⟨next', reached.advance advances', same', ?_⟩
      by_cases opens : draft.Opens token
      · rw [advances.groupDepth_of_opens opens,
          advances'.groupDepth_of_opens (same.opens_iff.mpr opens), deep, same.groups,
          Nat.max_assoc]
      · rw [advances.groupDepth_of_not_opens opens,
          advances'.groupDepth_of_not_opens (mt same.opens_iff.mp opens), deep]

end Behind

end Draft

/-! ### Filters strung together -/

section Strung

variable {reserved : ReservedWords} {limit limit' depth depth' : Nat} {filter other : Filter}
  {first second tokens : List Token} {token : Token}

/-- What has been read is a filter, and as deep as the filter is what is read behind it. -/
theorem exists_behind (chains : Chains) (lead : Option Lead)
    (read : ofTokens reserved limit tokens = .ok filter) :
    ∃ whole, (Draft.run ⟨reserved, limit, 0⟩ ⟨[], chains, .operand lead⟩ tokens).1 = .ok whole ∧
      whole.groupDepth = max chains.groupDepth filter.groupDepth := by
  obtain ⟨last, reached, finished⟩ := reaches_of_parse read
  have same : Draft.Behind (fun _ _ => True) .start ⟨[], chains, .operand lead⟩ :=
    ⟨.inr ⟨⟨none, rfl⟩, lead, rfl⟩, rfl, .outermost True.intro⟩
  have lasting : Draft.Lasting fun _ _ => True := ⟨fun _ => True.intro, fun _ _ _ => True.intro⟩
  obtain ⟨last', reached', behind, deep⟩ := reached.behind lasting same (Nat.zero_le _)
  rw [Draft.groupDepth_of_finish finished] at deep
  obtain ⟨ends, operand, rfl, rfl⟩ := Draft.finish_eq_ok_iff.mp finished
  obtain ⟨ends', rfl, -⟩ := behind.complete
  have finished' : Draft.finish ⟨[], ends', .complete operand⟩ = .ok (ends'.close operand) := rfl
  refine ⟨ends'.close operand, reached'.run_eq_finish, ?_⟩
  rw [← Draft.groupDepth_of_finish finished', deep]
  simp [Draft.groupDepth, openDepth, Phase.groupDepth]

/-- A negation in front of a filter makes a filter that is as deep. -/
theorem exists_negated (negates : token.kind = .negation)
    (read : ofTokens reserved limit tokens = .ok filter) :
    ∃ whole, ofTokens reserved limit (token :: tokens) = .ok whole ∧
      whole.groupDepth = filter.groupDepth := by
  obtain ⟨whole, ran, deep⟩ := exists_behind Chains.empty.negate (some .negation) read
  refine ⟨whole, ?_, by rw [deep]; exact Nat.max_eq_right (Nat.zero_le _)⟩
  have negated : Draft.start.run ⟨reserved, limit, 0⟩ (token :: tokens) = _ :=
    (Draft.Advances.negate [] .empty none negates).run_cons tokens
  exact (congrArg Prod.fst negated).trans ran

/-- A connective between two filters makes a filter that is as deep as the deeper one. -/
theorem exists_joined {joint : Connective} (joins : token.kind = .connective joint)
    (read : ofTokens reserved limit first = .ok filter)
    (read' : ofTokens reserved limit second = .ok other) :
    ∃ whole, ofTokens reserved limit (first ++ token :: second) = .ok whole ∧
      whole.groupDepth = max filter.groupDepth other.groupDepth := by
  obtain ⟨last, reached, finished⟩ := reaches_of_parse read
  obtain ⟨chains, operand, rfl, rfl⟩ := Draft.finish_eq_ok_iff.mp finished
  obtain ⟨whole, ran, deep⟩ :=
    exists_behind (chains.extend operand joint) (some (.connective joint)) read'
  refine ⟨whole, ?_, by rw [deep, Chains.groupDepth_extend, Chains.groupDepth_close]⟩
  have joined := (Draft.Advances.join [] chains operand joins
    : Draft.Advances ⟨reserved, limit, 0⟩ _ _ _).run_cons second
  exact (congrArg Prod.fst ((reached.run_append (token :: second)).trans joined)).trans ran

/-- The tokens are those of filters, in any number, that are negated and joined by
connectives, and this is the depth of the deepest of them. -/
inductive Strung (reserved : ReservedWords) (limit : Nat) : Nat → List Token → Prop
  | alone {tokens : List Token} {filter : Filter} :
      ofTokens reserved limit tokens = .ok filter → Strung reserved limit filter.groupDepth tokens
  | negated {depth : Nat} {token : Token} {tokens : List Token} :
      token.kind = .negation → Strung reserved limit depth tokens →
      Strung reserved limit depth (token :: tokens)
  | joined {depth depth' : Nat} {token : Token} {joint : Connective} {first second : List Token} :
      token.kind = .connective joint → Strung reserved limit depth first →
      Strung reserved limit depth' second →
      Strung reserved limit (max depth depth') (first ++ token :: second)

/-- Filters strung together are a filter, and none of them lies deeper than it lay alone. -/
theorem Strung.exists_filter (strung : Strung reserved limit depth tokens) :
    ∃ filter, ofTokens reserved limit tokens = .ok filter ∧ filter.groupDepth = depth := by
  induction strung with
  | alone read => exact ⟨_, read, rfl⟩
  | negated negates _ ih =>
      obtain ⟨filter, read, rfl⟩ := ih
      exact exists_negated negates read
  | joined joins _ _ ih ih' =>
      obtain ⟨filter, read, rfl⟩ := ih
      obtain ⟨other, read', rfl⟩ := ih'
      exact exists_joined joins read read'

end Strung

/-! ### The limit -/

section Limit

variable {reserved : ReservedWords} {limit limit' : Nat} {filter : Filter} {tokens : List Token}

/-- A filter is read under every limit that its groups keep, and refused for its depth under
every other one. -/
theorem ofTokens_under_limit (read : ofTokens reserved limit' tokens = .ok filter) :
    (filter.groupDepth ≤ limit → ofTokens reserved limit tokens = .ok filter) ∧
    (limit < filter.groupDepth →
      ofTokens reserved limit tokens = .error (.nestingTooDeep limit)) := by
  obtain ⟨last, reached, finished⟩ := reaches_of_parse read
  have deep := Draft.groupDepth_of_finish finished
  have alike : List.Forall₂ Token.Alike tokens tokens :=
    List.forall₂_same.mpr fun token _ => .refl token
  have both := @Draft.Reaches.inside _ ⟨reserved, limit, 0⟩ _ _ [] _ _ _ reached
    (Draft.inside_start []) alike rfl (by simp [Draft.groupDepth_start])
  simp only [List.length_nil, Nat.zero_add, deep] at both
  constructor
  · intro shallow
    obtain ⟨last', reached', ⟨split, chained, phased⟩⟩ := both.1 shallow
    obtain ⟨ends, operand, rfl, rfl⟩ := Draft.finish_eq_ok_iff.mp finished
    obtain ⟨none, split, nothing⟩ := split
    cases nothing
    obtain ⟨groups', chains', phase'⟩ := last'
    simp only [List.nil_append] at split chained phased
    subst split chained phased
    exact reached'.run_eq_finish
  · intro exceeds
    have refused := both.2 exceeds []
    rwa [List.append_nil] at refused

/-- The limit on groups cuts off what lies deeper, and does nothing else. Of two limits the
greater one reads what the other reads, and reports the errors that the other reports, but
for a group that is refused. What is read under the greater one is read under the other if
its groups lie no deeper than that limit within one another, and is refused for its depth if
they do. Only groups within one another count: filters that are negated and joined by
connectives, however many, are read together under the limit, and the whole is as deep as
the deepest of them. -/
theorem limit_cuts_by_depth (le : limit ≤ limit') :
    (∀ filter, ofTokens reserved limit tokens = .ok filter →
      ofTokens reserved limit' tokens = .ok filter) ∧
    (∀ error, ofTokens reserved limit tokens = .error error →
      (∀ cut, error ≠ .nestingTooDeep cut) → ofTokens reserved limit' tokens = .error error) ∧
    (∀ filter, ofTokens reserved limit' tokens = .ok filter →
      (filter.groupDepth ≤ limit → ofTokens reserved limit tokens = .ok filter) ∧
      (limit < filter.groupDepth →
        ofTokens reserved limit tokens = .error (.nestingTooDeep limit))) ∧
    ∀ depth, Strung reserved limit' depth tokens →
      ∃ filter, ofTokens reserved limit' tokens = .ok filter ∧ filter.groupDepth = depth := by
  have unchanged {outcome : Except SyntaxError Filter}
      (answered : ofTokens reserved limit tokens = outcome)
      (allowed : outcome ≠ .error (.nestingTooDeep limit)) :
      ofTokens reserved limit' tokens = outcome := by
    have runs := @Draft.run_of_limit_le ⟨reserved, limit, 0⟩ ⟨reserved, limit', 0⟩ rfl rfl le
      .start tokens
    rcases runs with same | refused
    · exact (congrArg Prod.fst same).trans answered
    · exact absurd (answered.symm.trans refused) allowed
  refine ⟨fun filter read => unchanged read nofun, fun error failed other => ?_,
    fun filter read => ofTokens_under_limit read, fun depth strung => strung.exists_filter⟩
  refine unchanged failed fun cut => ?_
  exact other limit (Except.error.inj cut)

/-- The tokens of `((a eq 1)) or not (b eq 2)`. -/
def nestedAndBeside : List Token :=
  [⟨.opening, "(", ⟨0, 1⟩⟩, ⟨.opening, "(", ⟨1, 2⟩⟩, ⟨.identifier, "a", ⟨2, 3⟩⟩,
   ⟨.comparison .equal, "eq", ⟨4, 6⟩⟩, ⟨.number, "1", ⟨7, 8⟩⟩, ⟨.closing, ")", ⟨8, 9⟩⟩,
   ⟨.closing, ")", ⟨9, 10⟩⟩, ⟨.connective .or, "or", ⟨11, 13⟩⟩, ⟨.negation, "not", ⟨14, 17⟩⟩,
   ⟨.opening, "(", ⟨18, 19⟩⟩, ⟨.identifier, "b", ⟨19, 20⟩⟩, ⟨.comparison .equal, "eq", ⟨21, 23⟩⟩,
   ⟨.number, "2", ⟨24, 25⟩⟩, ⟨.closing, ")", ⟨25, 26⟩⟩]

/-- Of three groups only two lie within one another, so a limit of two admits them, and a
limit of one does not. -/
theorem limit_cuts_by_depth_beside :
    1 ≤ 2 ∧ Strung .standard 2 2 nestedAndBeside ∧
      (∃ filter, ofTokens .standard 2 nestedAndBeside = .ok filter ∧ filter.groupDepth = 2) ∧
      ofTokens .standard 1 nestedAndBeside = .error (.nestingTooDeep 1) := by
  have first : ofTokens .standard 2 (nestedAndBeside.take 7) =
      .ok (.group (.group (.condition ⟨"a"⟩ .equal ⟨"1"⟩))) := rfl
  have second : ofTokens .standard 2 (nestedAndBeside.drop 9) =
      .ok (.group (.condition ⟨"b"⟩ .equal ⟨"2"⟩)) := rfl
  have joins : (Token.mk (.connective .or) "or" ⟨11, 13⟩).kind = .connective .or := rfl
  have strung : Strung .standard 2 2 nestedAndBeside :=
    .joined joins (.alone first) (.negated rfl (.alone second))
  obtain ⟨-, -, cuts, whole⟩ := @limit_cuts_by_depth .standard 1 2 nestedAndBeside (by decide)
  obtain ⟨filter, read, deep⟩ := whole 2 strung
  exact ⟨by decide, strung, ⟨filter, read, deep⟩, (cuts filter read).2 (by omega)⟩

end Limit

end Filter

end WhereClause
