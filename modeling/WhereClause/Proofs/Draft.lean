/-
# How drafts grow

A token that extends a draft does one of thirteen things to it. `Advances` lists
them, one constructor each, and `step_eq_advance_iff` says that the list is
complete and that nothing else is needed for a step. What holds of every draft
that a run comes by is then proved by cases on `Advances` and by induction on
`Reaches`, without looking into `Draft.step` again.
-/

import WhereClause.Parser

namespace WhereClause.Filter.Draft

/-- The token is a value, and this one. -/
def Gives (reserved : ReservedWords) (token : Token) (value : Literal) : Prop :=
  token.kind.isValue = true ∧ Literal.ofText reserved token.text = .ok value

/-- The token extends the first draft to the second one. -/
inductive Advances (rules : Rules) : Draft → Token → Draft → Prop
  | negate (groups : List OpenGroup) (chains : Chains) (lead : Option Lead) {token : Token} :
      token.kind = .negation →
      Advances rules ⟨groups, chains, .operand lead⟩ token
        ⟨groups, chains.negate, .operand (some .negation)⟩
  | openGroup (groups : List OpenGroup) (chains : Chains) (lead : Option Lead) {token : Token} :
      token.kind = .opening → rules.depth + groups.length + 1 ≤ rules.limit →
      Advances rules ⟨groups, chains, .operand lead⟩ token
        ⟨⟨token.span, chains⟩ :: groups, .empty, .operand none⟩
  | nameField (groups : List OpenGroup) (chains : Chains) (lead : Option Lead) {token : Token}
      {field : Field} :
      token.kind = .identifier → Field.ofName rules.reserved token.text = .ok field →
      Advances rules ⟨groups, chains, .operand lead⟩ token ⟨groups, chains, .field field⟩
  | compare (groups : List OpenGroup) (chains : Chains) (field : Field) {token : Token}
      {comparison : Comparison} :
      token.kind = .comparison comparison →
      Advances rules ⟨groups, chains, .field field⟩ token
        ⟨groups, chains, .comparison field comparison⟩
  | beginMembership (groups : List OpenGroup) (chains : Chains) (field : Field) {token : Token} :
      token.kind = .membership →
      Advances rules ⟨groups, chains, .field field⟩ token ⟨groups, chains, .membership field⟩
  | compareWith (groups : List OpenGroup) (chains : Chains) (field : Field)
      (comparison : Comparison) {token : Token} {value : Literal} :
      Gives rules.reserved token value →
      Advances rules ⟨groups, chains, .comparison field comparison⟩ token
        ⟨groups, chains, .complete (.condition field comparison value)⟩
  | openList (groups : List OpenGroup) (chains : Chains) (field : Field) {token : Token} :
      token.kind = .opening →
      Advances rules ⟨groups, chains, .membership field⟩ token ⟨groups, chains, .listStart field⟩
  | firstValue (groups : List OpenGroup) (chains : Chains) (field : Field) {token : Token}
      {value : Literal} :
      Gives rules.reserved token value →
      Advances rules ⟨groups, chains, .listStart field⟩ token
        ⟨groups, chains, .listValue field [value]⟩
  | separate (groups : List OpenGroup) (chains : Chains) (field : Field) (values : List Literal)
      {token : Token} :
      token.kind = .comma →
      Advances rules ⟨groups, chains, .listValue field values⟩ token
        ⟨groups, chains, .listComma field values⟩
  | closeList (groups : List OpenGroup) (chains : Chains) (field : Field) (values : List Literal)
      {token : Token} :
      token.kind = .closing →
      Advances rules ⟨groups, chains, .listValue field values⟩ token
        ⟨groups, chains, .complete (.oneOf field values.reverse)⟩
  | nextValue (groups : List OpenGroup) (chains : Chains) (field : Field) (values : List Literal)
      {token : Token} {value : Literal} :
      Gives rules.reserved token value →
      Advances rules ⟨groups, chains, .listComma field values⟩ token
        ⟨groups, chains, .listValue field (value :: values)⟩
  | join (groups : List OpenGroup) (chains : Chains) (operand : Filter) {token : Token}
      {connective : Connective} :
      token.kind = .connective connective →
      Advances rules ⟨groups, chains, .complete operand⟩ token
        ⟨groups, chains.extend operand connective, .operand (some (.connective connective))⟩
  | closeGroup (innermost : OpenGroup) (groups : List OpenGroup) (chains : Chains)
      (operand : Filter) {token : Token} :
      token.kind = .closing →
      Advances rules ⟨innermost :: groups, chains, .complete operand⟩ token
        ⟨groups, innermost.outside, .complete (.group (chains.close operand))⟩

/-- A value step extends a draft exactly with the values that the token gives. -/
theorem stepValue_eq_advance_iff {reserved : ReservedWords} {token : Token}
    {next : Literal → Draft} {after : Draft} :
    stepValue reserved token next = .advance after ↔
      ∃ value, Gives reserved token value ∧ after = next value := by
  unfold stepValue Gives
  by_cases isValue : token.kind.isValue = true
  · cases given : Literal.ofText reserved token.text with
    | ok value => simp [isValue, eq_comm]
    | error objection => simp [isValue]
  · simp [isValue]

/-- Nothing but the listed things extends a draft, and each of them does. -/
theorem step_eq_advance_iff {rules : Rules} {draft next : Draft} {token : Token} :
    draft.step rules token = .advance next ↔ Advances rules draft token next := by
  constructor
  · obtain ⟨groups, chains, phase⟩ := draft
    intro stepped
    cases phase with
    | operand lead =>
        simp only [step, stepOperand] at stepped
        split at stepped
        · next kind => cases stepped; exact .negate _ _ _ kind
        · next kind =>
            split at stepped
            · cases stepped
            · next room => cases stepped; exact .openGroup _ _ _ kind (by omega)
        · next kind =>
            split at stepped
            · next named => cases stepped; exact .nameField _ _ _ kind named
            · cases stepped
        all_goals cases stepped
    | field field =>
        simp only [step, stepOperator] at stepped
        split at stepped
        · next kind => cases stepped; exact .compare _ _ _ kind
        · next kind => cases stepped; exact .beginMembership _ _ _ kind
        · cases stepped
    | comparison field comparison =>
        obtain ⟨value, given, rfl⟩ := stepValue_eq_advance_iff.mp stepped
        exact .compareWith _ _ _ _ given
    | membership field =>
        simp only [step] at stepped
        split at stepped
        · next kind => cases stepped; exact .openList _ _ _ kind
        · cases stepped
    | listStart field =>
        simp only [step] at stepped
        split at stepped
        · cases stepped
        · obtain ⟨value, given, rfl⟩ := stepValue_eq_advance_iff.mp stepped
          exact .firstValue _ _ _ given
    | listValue field values =>
        simp only [step] at stepped
        split at stepped
        · next kind => cases stepped; exact .separate _ _ _ _ kind
        · next kind => cases stepped; exact .closeList _ _ _ _ kind
        · cases stepped
    | listComma field values =>
        obtain ⟨value, given, rfl⟩ := stepValue_eq_advance_iff.mp stepped
        exact .nextValue _ _ _ _ given
    | complete operand =>
        simp only [step, stepComplete] at stepped
        split at stepped
        · next kind => cases stepped; exact .join _ _ _ kind
        · next kind =>
            split at stepped
            · cases stepped
            · cases stepped; exact .closeGroup _ _ _ _ kind
        · cases stepped
  · intro advances
    cases advances with
    | negate _ _ _ kind => simp [step, stepOperand, kind]
    | openGroup _ _ _ kind room =>
        simp [step, stepOperand, kind, show ¬ rules.limit < _ from Nat.not_lt.mpr room]
    | nameField _ _ _ kind named => simp [step, stepOperand, kind, named]
    | compare _ _ _ kind => simp [step, stepOperator, kind]
    | beginMembership _ _ _ kind => simp [step, stepOperator, kind]
    | compareWith _ _ _ _ given => exact stepValue_eq_advance_iff.mpr ⟨_, given, rfl⟩
    | openList _ _ _ kind => simp [step, kind]
    | firstValue _ _ _ given =>
        have notClosing : token.kind ≠ .closing := by
          intro kind
          simp [Gives, kind, TokenKind.isValue] at given
        simp only [step]
        exact stepValue_eq_advance_iff.mpr ⟨_, given, rfl⟩
    | separate _ _ _ _ kind => simp [step, kind]
    | closeList _ _ _ _ kind => simp [step, kind]
    | nextValue _ _ _ _ given => exact stepValue_eq_advance_iff.mpr ⟨_, given, rfl⟩
    | join _ _ _ kind => simp [step, stepComplete, kind]
    | closeGroup _ _ _ _ kind => simp [step, stepComplete, kind]

/-- A draft amounts to a filter exactly if it ends with a complete operand outside all
groups; its chains then close on the operand. -/
theorem finish_eq_ok_iff {draft : Draft} {filter : Filter} :
    draft.finish = .ok filter ↔
      ∃ chains operand, draft = ⟨[], chains, .complete operand⟩ ∧
        filter = chains.close operand := by
  constructor
  · obtain ⟨groups, chains, phase⟩ := draft
    intro finished
    unfold finish at finished
    cases phase with
    | operand lead => cases lead <;> cases finished
    | complete operand =>
        cases groups with
        | nil =>
            cases finished
            exact ⟨chains, operand, rfl, rfl⟩
        | cons => cases finished
    | field | comparison | membership | listStart | listValue | listComma => cases finished
  · rintro ⟨chains, operand, rfl, rfl⟩
    rfl

/-- The tokens of `done` lead from the first draft to the second one. -/
inductive Reaches (rules : Rules) (start : Draft) : List Token → Draft → Prop
  | start : Reaches rules start [] start
  | advance {done : List Token} {draft next : Draft} {token : Token} :
      Reaches rules start done draft → Advances rules draft token next →
      Reaches rules start (done ++ [token]) next

/-- A run that ends with a filter has come by some last draft, which amounts to it,
and has left no token. -/
theorem Reaches.of_run {rules : Rules} {start draft : Draft} {done tokens rest : List Token}
    {filter : Filter} (reached : Reaches rules start done draft)
    (ran : draft.run rules tokens = (.ok filter, rest)) :
    ∃ last, Reaches rules start (done ++ tokens) last ∧ last.finish = .ok filter := by
  induction tokens generalizing draft done with
  | nil =>
      simp only [run, Prod.mk.injEq] at ran
      exact ⟨draft, by simpa using reached, ran.1⟩
  | cons token tokens ih =>
      rw [run] at ran
      cases stepped : draft.step rules token with
      | advance next =>
          rw [stepped] at ran
          have further := reached.advance (step_eq_advance_iff.mp stepped)
          simpa using ih further ran
      | stopAfter error => simp [stepped] at ran
      | stopBefore error => simp [stepped] at ran

/-- A step that extends a draft lets the run go on from the new one. -/
theorem Advances.run_cons {rules : Rules} {draft next : Draft} {token : Token}
    (advances : Advances rules draft token next) (rest : List Token) :
    draft.run rules (token :: rest) = next.run rules rest := by
  rw [run, step_eq_advance_iff.mpr advances]

end WhereClause.Filter.Draft
