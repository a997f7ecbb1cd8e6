/-
# Induction over what is written of a filter

The text of a filter is put together from the texts of its leaves by a few steps: a
connective between two texts, a negation in front of one, and parentheses, which stand
for a group or are put in between levels. What each of these steps keeps, the whole
text has, whatever the levels are: nothing here depends on where the parentheses that
are put in stand. So no bound on the height of the filter is needed.
-/

import WhereClause.Proofs.Filter.Leaves
import WhereClause.Proofs.Filter.Rendering

namespace WhereClause.Filter

/-- Every step of writing a filter keeps the relation `tells` between filters and texts,
for leaves of fields with the property `names` and values with the property `gives`. -/
structure Writing (names : Field → Prop) (gives : Literal → Prop)
    (tells : Filter → String → Prop) : Prop where
  condition : ∀ {field comparison value}, names field → gives value →
    tells (.condition field comparison value) (conditionText field comparison value)
  oneOf : ∀ {field values}, names field → values ≠ [] → (∀ value ∈ values, gives value) →
    tells (.oneOf field values) (oneOfText field values)
  binary : ∀ {connective left right first second}, tells left first → tells right second →
    tells (.binary connective left right) (first ++ separator connective ++ second)
  negation : ∀ {operand text}, tells operand text → tells (.negation operand) ("NOT " ++ text)
  group : ∀ {inner text}, tells inner text → tells (.group inner) ("(" ++ text ++ ")")
  enclosed : ∀ {filter text}, tells filter text → tells filter ("(" ++ text ++ ")")

section Writing

variable {names : Field → Prop} {gives : Literal → Prop} {tells : Filter → String → Prop}

/-- Parentheses that depend on a level keep what parentheses keep. -/
theorem Writing.wrap (writing : Writing names gives tells) {filter : Filter} {text : String}
    (said : tells filter text) (level : Nat) : tells filter (Filter.wrap level text) := by
  unfold Filter.wrap
  split
  · exact writing.enclosed said
  · exact said

/-- What the steps keep holds of the text at every level. -/
theorem Writing.textAt (writing : Writing names gives tells) {filter : Filter}
    (leaves : filter.Leaves names gives) (level : Nat) :
    tells filter (filter.textAt level) := by
  induction filter generalizing level with
  | condition => exact writing.condition leaves.1 leaves.2
  | oneOf => exact writing.oneOf leaves.1 leaves.2.1 leaves.2.2
  | binary connective left right ihLeft ihRight =>
      exact writing.wrap (writing.binary (ihLeft leaves.1 _) (ihRight leaves.2 _)) _
  | negation operand ih => exact writing.wrap (writing.negation (ih leaves _)) _
  | group inner ih => exact writing.group (ih leaves 0)

/-- What the steps keep holds of the text of a whole filter. -/
theorem Writing.sql (writing : Writing names gives tells) {filter : Filter}
    (leaves : filter.Leaves names gives) : tells filter filter.sql := by
  rw [sql_eq_textAt]
  exact writing.textAt leaves 0

end Writing

end WhereClause.Filter
