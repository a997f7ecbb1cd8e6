/-
# Induction over what a parser builds

A filter that comes out of a parser has been put together from conditions and
lists by joining, negating and grouping, and its fields and values were given by
tokens. A property that each of these constructions keeps therefore holds of the
filter. `Filter.parse_induction` is this principle; the invariant of the run
behind it, that everything in a draft has the property already, is proved here
once for all properties.

The property may depend on the number of groups that are open around a filter,
because a group is only opened where the limit leaves room for it.
-/

import WhereClause.Proofs.Draft

namespace WhereClause.Filter

/-- Joining and negating filters keeps a property. -/
structure Chained (holds : Filter → Prop) : Prop where
  binary : ∀ {connective left right}, holds left → holds right →
    holds (.binary connective left right)
  negation : ∀ {operand}, holds operand → holds (.negation operand)

/-- Every way in which a parser builds filters keeps the property `holds` of
filters below a number of open groups, when `names` is kept of fields and `gives`
of values and only the tokens of `source` are read. -/
structure Kept (rules : Rules) (source : Token → Prop) (names : Field → Prop)
    (gives : Literal → Prop) (holds : Nat → Filter → Prop) : Prop where
  field : ∀ {token field}, source token → token.kind = .identifier →
    Field.ofName rules.reserved token.text = .ok field → names field
  value : ∀ {token value}, source token → Draft.Gives rules.reserved token value → gives value
  condition : ∀ {level field comparison value}, names field → gives value →
    holds level (.condition field comparison value)
  oneOf : ∀ {level field values}, names field → values ≠ [] → (∀ value ∈ values, gives value) →
    holds level (.oneOf field values)
  chained : ∀ level, Chained (holds level)
  group : ∀ {level inner}, rules.depth + level + 1 ≤ rules.limit → holds (level + 1) inner →
    holds level (.group inner)

/-- The filters to the left of an operand have the property. -/
def Chains.All (holds : Filter → Prop) (chains : Chains) : Prop :=
  (∀ left, chains.alternatives = some left → holds left) ∧
    ∀ left, chains.conjunction = some left → holds left

/-- What has been read of an operand has the property, or is made of fields and
values that have theirs. -/
def Phase.All (names : Field → Prop) (gives : Literal → Prop) (holds : Filter → Prop) :
    Phase → Prop
  | .operand _ => True
  | .field named | .comparison named _ | .membership named | .listStart named => names named
  | .listValue named values => names named ∧ values ≠ [] ∧ ∀ value ∈ values, gives value
  | .listComma named values => names named ∧ ∀ value ∈ values, gives value
  | .complete whole => holds whole

/-- What stands outside the open groups has the property, and there was room for
each of them. -/
def GroupsAll (rules : Rules) (holds : Nat → Filter → Prop) : List OpenGroup → Prop
  | [] => True
  | innermost :: outer =>
    rules.depth + outer.length + 1 ≤ rules.limit ∧
      innermost.outside.All (holds outer.length) ∧ GroupsAll rules holds outer

/-- Everything in a draft has the property. -/
structure Draft.All (rules : Rules) (names : Field → Prop) (gives : Literal → Prop)
    (holds : Nat → Filter → Prop) (draft : Draft) : Prop where
  groups : GroupsAll rules holds draft.groups
  chains : draft.chains.All (holds draft.groups.length)
  phase : draft.phase.All names gives (holds draft.groups.length)

namespace Chains

variable {holds : Filter → Prop}

/-- The beginning of an expression has no filter in it. -/
theorem all_empty : Chains.empty.All holds := by
  simp [All, empty]

/-- What one negation keeps, any number of them keeps. -/
theorem holds_negated (chained : Chained holds) (count : Nat) {filter : Filter}
    (held : holds filter) : holds (filter.negated count) := by
  induction count generalizing filter with
  | zero => exact held
  | succ count ih => exact ih (chained.negation held)

/-- The conjunction that ends with an operand has the property if its parts do. -/
theorem All.conjoin (chained : Chained holds) {chains : Chains} {operand : Filter}
    (all : chains.All holds) (held : holds operand) : holds (chains.conjoin operand) := by
  have negated := holds_negated chained chains.negations.toInt.toNat held
  unfold Chains.conjoin
  split
  · exact negated
  · next left there => exact chained.binary (all.2 left there) negated

/-- The expression that ends with an operand has the property if its parts do. -/
theorem All.close (chained : Chained holds) {chains : Chains} {operand : Filter}
    (all : chains.All holds) (held : holds operand) : holds (chains.close operand) := by
  have conjoined := all.conjoin chained held
  unfold Chains.close
  split
  · exact conjoined
  · next left there => exact chained.binary (all.1 left there) conjoined

/-- An operand and a connective leave chains that have the property. -/
theorem All.extend (chained : Chained holds) {chains : Chains} {operand : Filter}
    (all : chains.All holds) (held : holds operand) (connective : Connective) :
    (chains.extend operand connective).All holds := by
  cases connective with
  | and =>
      refine ⟨all.1, fun left there => ?_⟩
      cases there
      exact all.conjoin chained held
  | or =>
      refine ⟨fun left there => ?_, by simp [Chains.extend, empty]⟩
      cases there
      exact all.close chained held

end Chains

namespace Draft

variable {rules : Rules} {source : Token → Prop} {names : Field → Prop}
  {gives : Literal → Prop} {holds : Nat → Filter → Prop}

/-- What a token of the source does to a draft keeps the property. -/
theorem All.advance (kept : Kept rules source names gives holds) {draft next : Draft}
    {token : Token} (all : draft.All rules names gives holds) (read : source token)
    (advances : Advances rules draft token next) : next.All rules names gives holds := by
  obtain ⟨groups, chains, phase⟩ := all
  cases advances with
  | negate => exact ⟨groups, chains, True.intro⟩
  | openGroup _ _ _ _ room => exact ⟨⟨room, chains, groups⟩, Chains.all_empty, True.intro⟩
  | nameField _ _ _ kind named => exact ⟨groups, chains, kept.field read kind named⟩
  | compare => exact ⟨groups, chains, phase⟩
  | beginMembership => exact ⟨groups, chains, phase⟩
  | compareWith _ _ _ _ given =>
      exact ⟨groups, chains, kept.condition phase (kept.value read given)⟩
  | openList => exact ⟨groups, chains, phase⟩
  | firstValue _ _ _ given =>
      exact ⟨groups, chains, phase, by simp, by simpa using kept.value read given⟩
  | separate => exact ⟨groups, chains, phase.1, phase.2.2⟩
  | closeList _ _ _ values =>
      have given : ∀ value ∈ values.reverse, gives value := by simpa using phase.2.2
      exact ⟨groups, chains, kept.oneOf phase.1 (by simpa using phase.2.1) given⟩
  | nextValue _ _ _ _ given =>
      have first := kept.value read given
      exact ⟨groups, chains, phase.1, by simp, by simpa using ⟨first, phase.2⟩⟩
  | join _ _ _ => exact ⟨groups, chains.extend (kept.chained _) phase _, True.intro⟩
  | closeGroup =>
      obtain ⟨room, outside, outer⟩ := groups
      exact ⟨outer, outside, kept.group room (chains.close (kept.chained _) phase)⟩

/-- Everything in every draft that a run comes by has the property. -/
theorem Reaches.all (kept : Kept rules source names gives holds) {draft : Draft}
    {done : List Token} (reached : Reaches rules Draft.start done draft)
    (read : ∀ token ∈ done, source token) : draft.All rules names gives holds := by
  induction reached with
  | start => exact ⟨True.intro, Chains.all_empty, True.intro⟩
  | advance _ advances ih =>
      refine (ih fun token there => read token ?_).advance kept (read _ ?_) advances
      · exact List.mem_append_left _ there
      · simp

/-- The filter that a draft amounts to has the property if everything in it has. -/
theorem All.finish (kept : Kept rules source names gives holds) {draft : Draft} {filter : Filter}
    (all : draft.All rules names gives holds) (finished : draft.finish = .ok filter) :
    holds 0 filter := by
  obtain ⟨chains, operand, rfl, rfl⟩ := finish_eq_ok_iff.mp finished
  exact all.chains.close (kept.chained 0) all.phase

end Draft

/-- A parser that answers with a filter has come by a last draft, which amounts to
the filter. -/
theorem reaches_of_parse {parser : Parser} {filter : Filter}
    (parsed : parser.parse.1 = .ok filter) :
    ∃ last, Draft.Reaches parser.rules Draft.start parser.rest last ∧ last.finish = .ok filter := by
  have ran : Draft.start.run parser.rules parser.rest =
      (.ok filter, (Draft.start.run parser.rules parser.rest).2) :=
    Prod.ext parsed rfl
  simpa using Draft.Reaches.start.of_run ran

/-- A property that every way of building filters keeps holds of each filter that a
parser answers with. -/
theorem parse_induction {parser : Parser} {filter : Filter} {names : Field → Prop}
    {gives : Literal → Prop} {holds : Nat → Filter → Prop} (parsed : parser.parse.1 = .ok filter)
    (kept : Kept parser.rules (· ∈ parser.rest) names gives holds) : holds 0 filter := by
  obtain ⟨last, reached, finished⟩ := reaches_of_parse parsed
  exact (reached.all kept fun _ there => there).finish kept finished

/-- No more groups lie within one another in a filter than the limit leaves room for. -/
theorem groupDepth_le_of_parse {parser : Parser} {filter : Filter}
    (parsed : parser.parse.1 = .ok filter) :
    filter.groupDepth ≤ parser.rules.limit - parser.rules.depth := by
  have kept : Kept parser.rules (· ∈ parser.rest) (fun _ => True) (fun _ => True)
      (fun level filter => filter.groupDepth ≤ parser.rules.limit - (parser.rules.depth + level)) :=
    { field := fun _ _ _ => True.intro
      value := fun _ _ => True.intro
      condition := fun _ _ => Nat.zero_le _
      oneOf := fun _ _ _ => Nat.zero_le _
      chained := fun _ => ⟨fun left right => Nat.max_le.mpr ⟨left, right⟩, id⟩
      group := fun room inner => by simp only [groupDepth]; omega }
  exact parse_induction parsed kept

end WhereClause.Filter
