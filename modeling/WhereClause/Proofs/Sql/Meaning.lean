/-
# The text of a filter reads as the filter

The renderer puts texts one after another and never looks at what is in them. That
the result says what the filter says needs three things: each leaf is read as the
lexemes that were meant and nothing in a value ends it early, the parentheses that
are put in keep every operand together, and the reader has no other choice.

The tree that is read has groups where the text has parentheses. It is stated
first, as a filter. Then each part of the text is paired with the part of the
grammar that it stands for, following the recursion of the renderer.
-/

import WhereClause.Proofs.Filter.Leaves
import WhereClause.Proofs.Filter.Rendering
import WhereClause.Proofs.Sql.Reading

namespace WhereClause

namespace Filter

/-- The filter without its groups. What groups tell apart, the tree tells apart by
itself. -/
def ungrouped : Filter → Filter
  | .condition field comparison value => .condition field comparison value
  | .oneOf field values => .oneOf field values
  | .binary connective left right => .binary connective left.ungrouped right.ungrouped
  | .negation operand => .negation operand.ungrouped
  | .group inner => inner.ungrouped

/-- Truth values of any kind, two or three or more, the tables of the connectives, and
the truth of each condition. -/
structure Valuation (Truth : Type) where
  joined : Connective → Truth → Truth → Truth
  negated : Truth → Truth
  compares : Field → Comparison → Literal → Truth
  isOneOf : Field → List Literal → Truth

/-- What a filter comes to under a valuation. -/
def truth {Truth : Type} (valuation : Valuation Truth) : Filter → Truth
  | .condition field comparison value => valuation.compares field comparison value
  | .oneOf field values => valuation.isOneOf field values
  | .binary connective left right =>
    valuation.joined connective (left.truth valuation) (right.truth valuation)
  | .negation operand => valuation.negated (operand.truth valuation)
  | .group inner => inner.truth valuation

/-- A filter in a group of its own unless it stands at level zero. -/
def enclose (level : Nat) (filter : Filter) : Filter :=
  if 0 < level then .group filter else filter

/-- The filter with a group for every pair of parentheses in its text. -/
def parenthesized : Filter → Nat → Filter
  | .condition field comparison value, _ => .condition field comparison value
  | .oneOf field values, _ => .oneOf field values
  | .binary connective left right, level =>
    enclose level
      (.binary connective (left.parenthesized (level + 1)) (right.parenthesized (level + 1)))
  | .negation operand, level => enclose level (.negation (operand.parenthesized (level + 1)))
  | .group inner, _ => .group (inner.parenthesized 0)

/-- Groups do not matter for the truth of a filter. -/
theorem truth_ungrouped {Truth : Type} (valuation : Valuation Truth) (filter : Filter) :
    filter.ungrouped.truth valuation = filter.truth valuation := by
  induction filter with
  | condition => rfl
  | oneOf => rfl
  | binary connective left right ihLeft ihRight => simp only [ungrouped, truth, ihLeft, ihRight]
  | negation operand ih => simp only [ungrouped, truth, ih]
  | group inner ih => simp only [ungrouped, truth, ih]

theorem ungrouped_enclose (level : Nat) (filter : Filter) :
    (enclose level filter).ungrouped = filter.ungrouped := by
  unfold enclose
  split <;> rfl

/-- The parentheses of the text add groups and nothing else. -/
theorem ungrouped_parenthesized (filter : Filter) (level : Nat) :
    (filter.parenthesized level).ungrouped = filter.ungrouped := by
  induction filter generalizing level with
  | condition => rfl
  | oneOf => rfl
  | binary connective left right ihLeft ihRight =>
      simp only [parenthesized, ungrouped_enclose, ungrouped, ihLeft, ihRight]
  | negation operand ih => simp only [parenthesized, ungrouped_enclose, ungrouped, ih]
  | group inner ih => simp only [parenthesized, ungrouped, ih]

end Filter

namespace Sql

open Grammar

/-! ### What the steps of writing a filter do to the lexemes -/

namespace Writes

variable {text text' : String} {lexemes lexemes' : List Lexeme}

/-- Two texts with a connective between them. -/
theorem binary (first : Writes text.toList lexemes) (second : Writes text'.toList lexemes')
    (connective : Connective) :
    Writes (text ++ Filter.separator connective ++ text').toList
      (lexemes ++ [.word connective.sql.toList] ++ lexemes') := by
  have keyword : (Lexeme.word connective.sql.toList).IsProper := by
    cases connective
    · exact ⟨by decide, Text.forall_mem_of_all rfl⟩
    · exact ⟨by decide, Text.forall_mem_of_all rfl⟩
  have whole := (first.spaced (.single keyword)).spaced second
  simpa [Filter.separator, Lexeme.spelling] using whole

/-- A text with a negation in front of it. -/
theorem negation (operand : Writes text.toList lexemes) :
    Writes ("NOT " ++ text).toList ([.word ['N', 'O', 'T']] ++ lexemes) := by
  have proper : (Lexeme.word ['N', 'O', 'T']).IsProper := ⟨by decide, Text.forall_mem_of_all rfl⟩
  simpa [Lexeme.spelling] using (Writes.single proper).spaced operand

/-- A text between parentheses. -/
theorem group (inner : Writes text.toList lexemes) :
    Writes ("(" ++ text ++ ")").toList (.opening :: lexemes ++ [.closing]) := by
  simpa using inner.enclosed

/-- A comparison of a field with a value. -/
theorem condition {field : Field} {value : Literal} {lexeme : Lexeme}
    (column : (Lexeme.word field.name.toList).IsProper) (comparison : Comparison)
    (proper : lexeme.IsProper) (spelled : lexeme.spelling = value.sql.toList) :
    Writes (Filter.conditionText field comparison value).toList
      ([.word field.name.toList] ++ [.comparison comparison] ++ [lexeme]) := by
  have sign : (Lexeme.comparison comparison).IsProper := True.intro
  have written : Writes value.sql.toList [lexeme] := by
    rw [← spelled]
    exact .single proper
  have whole := ((Writes.single column).spaced (.single sign)).spaced written
  simpa [Filter.conditionText, Lexeme.spelling, toList_sql_comparison] using whole

/-- A membership test of a field. -/
theorem oneOf {field : Field} {values : List Literal}
    (column : (Lexeme.word field.name.toList).IsProper)
    (list : Writes (Filter.listText values).toList lexemes) :
    Writes (Filter.oneOfText field values).toList
      ([.word field.name.toList] ++ [.word ['I', 'N']] ++
        (.opening :: lexemes ++ [.closing])) := by
  have proper : (Lexeme.word ['I', 'N']).IsProper := ⟨by decide, Text.forall_mem_of_all rfl⟩
  have whole := ((Writes.single column).spaced (.single proper)).spaced list.enclosed
  simpa [Filter.oneOfText, Lexeme.spelling] using whole

end Writes

/-! ### What the lexemes amount to -/

/-- Wherever the part may end, the symbols make it up and amount to the tree. -/
def Stands (part : Part) (symbols : List Symbol) (tree : Filter) : Prop :=
  ∀ rest, part.Stops rest → Derives part (symbols ++ rest) tree rest

namespace Stands

variable {symbols symbols' : List Symbol} {tree tree' : Filter}

/-- A primary is an expression. -/
theorem expression (primary : Stands .primary symbols tree) :
    Stands (.chain .or) symbols tree := by
  intro rest stops
  have operand : Derives .operand (symbols ++ rest) tree rest :=
    .primary (primary rest True.intro)
  exact .chain (.chain operand (.done _ _ _)) (.done _ _ _)

/-- Two primaries with a connective between them are an expression. -/
theorem binary (connective : Connective) (left : Stands .primary symbols tree)
    (right : Stands .primary symbols' tree') :
    Stands (.chain .or) (symbols ++ .connective connective :: symbols')
      (.binary connective tree tree') := by
  intro rest stops
  have leftOperand (middle : List Symbol) : Derives .operand (symbols ++ middle) tree middle :=
    .primary (left middle True.intro)
  have rightOperand : Derives .operand (symbols' ++ rest) tree' rest :=
    .primary (right rest True.intro)
  rw [List.append_assoc, List.cons_append]
  cases connective with
  | and =>
      exact .chain (.chain (leftOperand _) (.link rightOperand (.done _ _ _))) (.done _ _ _)
  | or =>
      have rightConjunction : Derives (.chain .and) (symbols' ++ rest) tree' rest :=
        .chain rightOperand (.done _ _ _)
      exact .chain (.chain (leftOperand _) (.done _ _ _))
        (.link rightConjunction (.done _ _ _))

/-- A primary with a negation in front of it is an expression. -/
theorem negation (operand : Stands .primary symbols tree) :
    Stands (.chain .or) (.negation :: symbols) (.negation tree) := by
  intro rest stops
  have negated : Derives .operand (.negation :: (symbols ++ rest)) (.negation tree) rest :=
    .negation (.primary (operand rest True.intro))
  exact .chain (.chain negated (.done _ _ _)) (.done _ _ _)

/-- An expression between parentheses is a primary. -/
theorem group (inner : Stands (.chain .or) symbols tree) :
    Stands .primary (.opening :: symbols ++ [.closing]) (.group tree) := by
  intro rest _
  have closing : Part.Stops (.chain .or) (Symbol.closing :: rest) := by
    simp [Part.Stops, Ends]
  simpa using Derives.group (inner (.closing :: rest) closing)

end Stands

/-- The text is divided into lexemes that make up the part and amount to the tree. -/
def Expresses (text : String) (part : Part) (tree : Filter) : Prop :=
  ∃ lexemes, Writes text.toList lexemes ∧ Stands part (lexemes.map Lexeme.symbol) tree

/-- The part of the grammar that the text of a filter makes up at a level. -/
def partAt (level : Nat) : Part :=
  if 0 < level then .primary else .chain .or

namespace Expresses

/-- A whole text that says a tree reads as the tree. -/
theorem reads {text : String} {tree : Filter} (expresses : Expresses text (.chain .or) tree) :
    Reads text tree := by
  obtain ⟨lexemes, writes, stands⟩ := expresses
  have derived := stands [] (by simp [Part.Stops, Ends])
  rw [List.append_nil] at derived
  exact ⟨lexemes, writes.lexes, derived⟩

/-- A primary may stand at any level. -/
theorem atLevel {text : String} {tree : Filter} (expresses : Expresses text .primary tree)
    (level : Nat) : Expresses text (partAt level) tree := by
  obtain ⟨lexemes, writes, stands⟩ := expresses
  refine ⟨lexemes, writes, ?_⟩
  unfold partAt
  split
  · exact stands
  · exact stands.expression

/-- Parentheses make a primary of an expression. -/
theorem group {text : String} {tree : Filter} (inner : Expresses text (.chain .or) tree) :
    Expresses ("(" ++ text ++ ")") .primary (.group tree) := by
  obtain ⟨lexemes, writes, stands⟩ := inner
  exact ⟨.opening :: lexemes ++ [.closing], writes.group, by simpa using stands.group⟩

/-- What is put in parentheses above level zero may stand at its level. -/
theorem wrap {text : String} {tree : Filter} (inside : Expresses text (.chain .or) tree)
    (level : Nat) :
    Expresses (Filter.wrap level text) (partAt level) (Filter.enclose level tree) := by
  unfold Filter.wrap partAt Filter.enclose
  split
  · exact inside.group
  · exact inside

/-- Two primaries with a connective between them are an expression. -/
theorem binary (connective : Connective) {left right : String} {tree tree' : Filter}
    (first : Expresses left .primary tree) (second : Expresses right .primary tree') :
    Expresses (left ++ Filter.separator connective ++ right) (.chain .or)
      (.binary connective tree tree') := by
  obtain ⟨lexemes, writes, stands⟩ := first
  obtain ⟨lexemes', writes', stands'⟩ := second
  have keyword : (Lexeme.word connective.sql.toList).symbol = .connective connective := by
    cases connective <;> rfl
  refine ⟨lexemes ++ [.word connective.sql.toList] ++ lexemes',
    writes.binary writes' connective, ?_⟩
  simpa [keyword] using stands.binary connective stands'

/-- A primary with a negation in front of it is an expression. -/
theorem negation {text : String} {tree : Filter} (operand : Expresses text .primary tree) :
    Expresses ("NOT " ++ text) (.chain .or) (.negation tree) := by
  obtain ⟨lexemes, writes, stands⟩ := operand
  have symbol : (Lexeme.word ['N', 'O', 'T']).symbol = .negation := rfl
  refine ⟨[.word ['N', 'O', 'T']] ++ lexemes, writes.negation, ?_⟩
  simpa [symbol] using stands.negation

/-- A comparison of a column with a value is a primary. -/
theorem condition {field : Field} {value : Literal} (column : IsColumn field)
    (comparison : Comparison) (literal : IsValue value) :
    Expresses (Filter.conditionText field comparison value) .primary
      (.condition field comparison value) := by
  obtain ⟨properField, asValue, fieldSymbol⟩ := column.symbol
  obtain ⟨lexeme, properValue, spelled, asField, valueSymbol⟩ := literal.symbol
  refine ⟨[.word field.name.toList] ++ [.comparison comparison] ++ [lexeme],
    .condition properField comparison properValue spelled, ?_⟩
  intro rest _
  simpa [fieldSymbol, valueSymbol] using
    Derives.condition field comparison value asValue asField rest

/-- The texts of the values of a list are divided into the values of the list. -/
theorem list {values : List Literal} (nonempty : values ≠ [])
    (literals : ∀ value ∈ values, IsValue value) :
    ∃ lexemes, Writes (Filter.listText values).toList lexemes ∧
      ∀ rest, Values (lexemes.map Lexeme.symbol ++ rest) values rest := by
  induction values with
  | nil => exact absurd rfl nonempty
  | cons first values ih =>
      obtain ⟨lexeme, proper, spelled, asField, symbol⟩ :=
        (literals first List.mem_cons_self).symbol
      cases values with
      | nil =>
          refine ⟨[lexeme], ?_, fun rest => ?_⟩
          · simpa [Filter.listText, spelled] using Writes.single proper
          · simpa [symbol] using Values.last asField first rest
      | cons second values =>
          obtain ⟨lexemes, writes, more⟩ := ih (List.cons_ne_nil _ _)
            fun value there => literals value (List.mem_cons_of_mem _ there)
          refine ⟨[lexeme] ++ .comma :: lexemes, ?_, fun rest => ?_⟩
          · rw [Filter.listText_cons]
            simpa [spelled] using (Writes.single proper).separated writes
          · simpa [symbol] using Values.more asField first (more rest)

/-- A membership test of a column is a primary. -/
theorem oneOf {field : Field} {values : List Literal} (column : IsColumn field)
    (nonempty : values ≠ []) (literals : ∀ value ∈ values, IsValue value) :
    Expresses (Filter.oneOfText field values) .primary (.oneOf field values) := by
  obtain ⟨properField, asValue, fieldSymbol⟩ := column.symbol
  obtain ⟨lexemes, writes, list⟩ := list nonempty literals
  have symbolIn : (Lexeme.word ['I', 'N']).symbol = .membership := rfl
  refine ⟨[.word field.name.toList] ++ [.word ['I', 'N']] ++ (.opening :: lexemes ++ [.closing]),
    .oneOf properField writes, ?_⟩
  intro rest _
  have derived := Derives.oneOf field asValue (list (.closing :: rest))
  simpa [fieldSymbol, symbolIn] using derived

end Expresses

/-- The text of a filter says the filter at every level, with a group for each pair of
parentheses. -/
theorem expresses_textAt {filter : Filter} (leaves : filter.Leaves IsColumn IsValue) (level : Nat) :
    Expresses (filter.textAt level) (partAt level) (filter.parenthesized level) := by
  induction filter generalizing level with
  | condition field comparison value =>
      exact (Expresses.condition leaves.1 comparison leaves.2).atLevel level
  | oneOf field values => exact (Expresses.oneOf leaves.1 leaves.2.1 leaves.2.2).atLevel level
  | binary connective left right ihLeft ihRight =>
      exact ((ihLeft leaves.1 (level + 1)).binary connective
        (ihRight leaves.2 (level + 1))).wrap level
  | negation operand ih => exact (ih leaves (level + 1)).negation.wrap level
  | group inner ih => exact (ih leaves 0).group.atLevel level

end Sql

end WhereClause
