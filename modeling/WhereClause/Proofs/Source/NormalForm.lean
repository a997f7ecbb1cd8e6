/-
# Produced SQL is a normal form

The SQL text of a filter is itself a filter, but for its comparison symbols. With keywords
in their places it is translated to the same text again, character for character.

Two things come together here. The renderer puts parentheses of its own around an
expression that stands below another one, and a parser makes groups of them; but a group
begins anew at level zero, where nothing is put around an expression. So each pair of
parentheses is written once, whichever of the two it comes from. And what stands in a
string is left alone, also if it looks like a comparison.
-/

import WhereClause.Proofs.Source.Printing
import WhereClause.Proofs.Sql.Translation

namespace WhereClause

namespace Sql

/-- The text with a keyword in the place of each comparison symbol that does not stand in a
string. The flag says whether the text begins inside of a string; a pair of quotes in it
ends the string and begins it again. -/
def replaceSymbols : Bool → List Char → List Char
  | _, [] => []
  | inString, '\'' :: rest => '\'' :: replaceSymbols (!inString) rest
  | true, c :: rest => c :: replaceSymbols true rest
  | false, '!' :: '=' :: rest => Comparison.unequal.keyword.toList ++ replaceSymbols false rest
  | false, '>' :: '=' :: rest => Comparison.atLeast.keyword.toList ++ replaceSymbols false rest
  | false, '<' :: '=' :: rest => Comparison.atMost.keyword.toList ++ replaceSymbols false rest
  | false, '=' :: rest => Comparison.equal.keyword.toList ++ replaceSymbols false rest
  | false, '>' :: rest => Comparison.greater.keyword.toList ++ replaceSymbols false rest
  | false, '<' :: rest => Comparison.less.keyword.toList ++ replaceSymbols false rest
  | false, c :: rest => c :: replaceSymbols false rest

/-- A text of SQL as a filter, with keywords for its comparison symbols. -/
def asFilter (sql : String) : String :=
  String.ofList (replaceSymbols false sql.toList)

/-- Outside of strings the first text becomes the second one, whatever follows. -/
def Becomes (text text' : List Char) : Prop :=
  ∀ rest, replaceSymbols false (text ++ rest) = text' ++ replaceSymbols false rest

/-- The character is neither a quote nor part of a comparison symbol. -/
def isSteady (c : Char) : Bool :=
  !(['\'', '!', '=', '<', '>'].contains c)

namespace Becomes

variable {first first' second second' : List Char}

theorem append (before : Becomes first first') (behind : Becomes second second') :
    Becomes (first ++ second) (first' ++ second') := by
  intro rest
  rw [List.append_assoc, before, behind, List.append_assoc]

/-- A text without quotes and comparison symbols stays as it is. -/
theorem of_steady {text : List Char} (steady : ∀ c ∈ text, isSteady c = true) :
    Becomes text text := by
  intro rest
  induction text with
  | nil => rfl
  | cons c text ih =>
      have other := steady c List.mem_cons_self
      have more := ih fun d there => steady d (List.mem_cons_of_mem _ there)
      simp only [isSteady, Bool.not_eq_true', List.contains_eq_mem, decide_eq_false_iff_not,
        List.mem_cons, List.not_mem_nil, or_false, not_or] at other
      obtain ⟨notQuote, notBang, notEquals, notLess, notGreater⟩ := other
      rw [List.cons_append, replaceSymbols, more]
      · rfl
      all_goals simp [notQuote, notBang, notEquals, notLess, notGreater]

/-- For a text that is given, that is computed. -/
theorem unchanged {text : List Char} (steady : text.all isSteady = true) : Becomes text text :=
  of_steady (List.all_eq_true.mp steady)

/-- In a string nothing is replaced, up to its end. -/
theorem replaceSymbols_double (body rest : List Char) :
    replaceSymbols true (Text.double '\'' body ++ '\'' :: rest) =
      Text.double '\'' body ++ '\'' :: replaceSymbols false rest := by
  induction body with
  | nil => rfl
  | cons c body ih =>
      rw [Text.double_cons]
      by_cases isQuote : c = '\''
      · subst isQuote
        -- the pair of quotes leaves the string and enters it again
        show '\'' :: '\'' :: replaceSymbols true (Text.double '\'' body ++ '\'' :: rest) = _
        rw [ih]
        rfl
      · rw [if_neg isQuote, List.singleton_append, List.cons_append, replaceSymbols, ih]
        · rfl
        · exact isQuote

/-- A string stays as it is, whatever stands in it. -/
theorem quote (body : List Char) : Becomes (Literal.quote body) (Literal.quote body) := by
  intro rest
  have inside := replaceSymbols_double body rest
  rw [Literal.quote, List.append_assoc, List.cons_append, List.singleton_append]
  show '\'' :: replaceSymbols true (Text.double '\'' body ++ '\'' :: rest) = _
  rw [inside]
  simp

/-- A comparison symbol becomes its keyword, if it ends at a space. -/
theorem symbol (comparison : Comparison) :
    Becomes (comparison.sql.toList ++ [' ']) (comparison.keyword.toList ++ [' ']) := by
  intro rest
  cases comparison <;> rfl

/-- The name of a column stays as it is. -/
theorem name {field : Field} (column : IsColumn field) :
    Becomes field.name.toList field.name.toList := by
  have steady : ∀ c : Char, c.toNat < 128 → Field.isSnakePart c = true → isSteady c = true :=
    Text.forall_ascii (by decide)
  refine of_steady fun c there => ?_
  have part := Field.isSnakePart_of_mem column.isSnakeName c there
  exact steady c (Field.ascii_of_isNamePart (Field.isNamePart_of_isSnakePart part)) part

/-- A value stays as it is: there is no comparison symbol outside of its quotes. -/
theorem value {value : Literal} (literal : IsValue value) :
    Becomes value.sql.toList value.sql.toList := by
  cases literal with
  | number number =>
      have steady : ∀ c : Char, c.toNat < 128 → Numeral.isNumeralPart c = true →
          isSteady c = true := Text.forall_ascii (by decide)
      unfold isNumber at number
      split at number
      · next numeral read =>
          refine of_steady fun c there => ?_
          have part := Numeral.isNumeralPart_of_read? read there
          exact steady c (Numeral.ascii_of_isNumeralPart part) part
      · cases number
  | keyword keyword =>
      have steady : ∀ word ∈ keywordLiterals, word.toList.all isSteady = true := by decide
      exact .unchanged (steady _ keyword)
  | string body quoted =>
      rw [quoted]
      exact quote body

/-- So does a list of values. -/
theorem listText {values : List Literal} (literals : ∀ value ∈ values, IsValue value) :
    Becomes (Filter.listText values).toList (Filter.listText values).toList := by
  induction values with
  | nil => exact fun _ => rfl
  | cons first values ih =>
      have here := value (literals first List.mem_cons_self)
      cases values with
      | nil => exact here
      | cons second values =>
          have more := ih fun value there => literals value (List.mem_cons_of_mem _ there)
          have comma : Becomes [',', ' '] [',', ' '] := .unchanged rfl
          rw [Filter.listText_cons, String.toList_append, String.toList_append]
          exact (here.append comma).append more

end Becomes

end Sql

/-! ### The text of a filter as a filter -/

namespace States

variable {reserved : ReservedWords} {text text' : String} {tree tree' : Filter}

/-- A primary is an expression. -/
theorem expression (primary : States reserved text .primary tree) :
    States reserved text (.chain .or) tree :=
  .first (.first primary.operand)

/-- A primary with a negation in front of it is an expression. -/
theorem negated {word : String} (isNot : Lexer.SpellsKeyword word .negation)
    (primary : States reserved text .primary tree) :
    States reserved (word ++ " " ++ text) (.chain .or) (.negation tree) :=
  .first (.first (primary.operand.negation isNot))

/-- Two primaries with a connective between them are an expression. -/
theorem joined {joint : Connective} {word : String}
    (joins : Lexer.SpellsKeyword word (.connective joint))
    (left : States reserved text .primary tree) (right : States reserved text' .primary tree') :
    States reserved (text ++ " " ++ word ++ " " ++ text') (.chain .or)
      (.binary joint tree tree') := by
  cases joint with
  | and => exact .first (.join joins (.first left.operand) right.operand)
  | or => exact .join joins (.first (.first left.operand)) (.first right.operand)

end States

namespace Sql

open Grammar

/-- Outside of strings the text becomes one that states the tree. -/
def Returns (reserved : ReservedWords) (text : String) (part : Part) (tree : Filter) : Prop :=
  ∃ source : String, Becomes text.toList source.toList ∧ States reserved source part tree

namespace Returns

variable {reserved : ReservedWords} {text text' : String} {tree tree' : Filter}

/-- A primary may stand at any level. -/
theorem atLevel (primary : Returns reserved text .primary tree) (level : Nat) :
    Returns reserved text (partAt level) tree := by
  obtain ⟨source, becomes, stated⟩ := primary
  refine ⟨source, becomes, ?_⟩
  unfold partAt
  split
  · exact stated
  · exact stated.expression

/-- Parentheses make a primary of an expression. -/
theorem group (inner : Returns reserved text (.chain .or) tree) :
    Returns reserved ("(" ++ text ++ ")") .primary (.group tree) := by
  obtain ⟨source, becomes, stated⟩ := inner
  have opening : Becomes ['('] ['('] := .unchanged rfl
  have closing : Becomes [')'] [')'] := .unchanged rfl
  refine ⟨"(" ++ source ++ ")", ?_, stated.group⟩
  simpa using (opening.append becomes).append closing

/-- What is put in parentheses above level zero may stand at its level. -/
theorem wrap (inside : Returns reserved text (.chain .or) tree) (level : Nat) :
    Returns reserved (Filter.wrap level text) (partAt level) (Filter.enclose level tree) := by
  unfold Filter.wrap partAt Filter.enclose
  split
  · exact inside.group
  · exact inside

/-- Two primaries with a connective between them are an expression. -/
theorem binary (joint : Connective) (first : Returns reserved text .primary tree)
    (second : Returns reserved text' .primary tree') :
    Returns reserved (text ++ Filter.separator joint ++ text') (.chain .or)
      (.binary joint tree tree') := by
  obtain ⟨source, becomes, stated⟩ := first
  obtain ⟨source', becomes', stated'⟩ := second
  have joins : Lexer.SpellsKeyword joint.sql (.connective joint) := by
    cases joint <;> exact ⟨Text.forall_mem_of_all rfl, rfl⟩
  have separator : Becomes (Filter.separator joint).toList (Filter.separator joint).toList := by
    cases joint <;> exact .unchanged rfl
  refine ⟨source ++ " " ++ joint.sql ++ " " ++ source', ?_, stated.joined joins stated'⟩
  simpa [Filter.separator] using (becomes.append separator).append becomes'

/-- A primary with a negation in front of it is an expression. -/
theorem negation (operand : Returns reserved text .primary tree) :
    Returns reserved ("NOT " ++ text) (.chain .or) (.negation tree) := by
  obtain ⟨source, becomes, stated⟩ := operand
  have isNot : Lexer.SpellsKeyword "NOT" .negation := ⟨Text.forall_mem_of_all rfl, rfl⟩
  have keyword : Becomes "NOT ".toList "NOT ".toList := .unchanged rfl
  refine ⟨"NOT" ++ " " ++ source, ?_, stated.negated isNot⟩
  simpa using keyword.append becomes

/-- A comparison of a column with a value. -/
theorem condition {field : Field} {value : Literal} (column : IsColumn field)
    (literal : IsValue value) (named : field.IsSource reserved) (comparison : Comparison)
    (given : value.IsSource reserved) :
    Returns reserved (Filter.conditionText field comparison value) .primary
      (.condition field comparison value) := by
  have space : Becomes [' '] [' '] := .unchanged rfl
  refine ⟨_, ?_, .condition named comparison given⟩
  have whole := (((Becomes.name column).append space).append (.symbol comparison)).append
    (.value literal)
  simpa [Filter.conditionText] using whole

/-- A membership test of a column. -/
theorem oneOf {field : Field} {values : List Literal} (column : IsColumn field)
    (literals : ∀ value ∈ values, IsValue value) (named : field.IsSource reserved)
    (nonempty : values ≠ []) (given : ∀ value ∈ values, value.IsSource reserved) :
    Returns reserved (Filter.oneOfText field values) .primary (.oneOf field values) := by
  have isIn : Lexer.SpellsKeyword "IN" .membership := ⟨Text.forall_mem_of_all rfl, rfl⟩
  have keyword : Becomes " IN (".toList " IN (".toList := .unchanged rfl
  have closing : Becomes [')'] [')'] := .unchanged rfl
  refine ⟨_, ?_, .oneOf named isIn nonempty given⟩
  have whole := (((Becomes.name column).append keyword).append (.listText literals)).append closing
  simpa [Filter.oneOfText] using whole

end Returns

/-- The text of a filter at any level becomes a filter, with a group for each pair of
parentheses. -/
theorem returns_textAt {reserved : ReservedWords} {filter : Filter}
    (leaves : filter.Leaves IsColumn IsValue)
    (sources : filter.Leaves (Field.IsSource reserved) (Literal.IsSource reserved)) (level : Nat) :
    Returns reserved (filter.textAt level) (partAt level) (filter.parenthesized level) := by
  induction filter generalizing level with
  | condition field comparison value =>
      exact (Returns.condition leaves.1 leaves.2 sources.1 comparison sources.2).atLevel level
  | oneOf field values =>
      have whole := Returns.oneOf leaves.1 leaves.2.2 sources.1 sources.2.1 sources.2.2
      exact whole.atLevel level
  | binary joint left right ihLeft ihRight =>
      have first := ihLeft leaves.1 sources.1 (level + 1)
      have second := ihRight leaves.2 sources.2 (level + 1)
      exact (first.binary joint second).wrap level
  | negation operand ih => exact (ih leaves sources (level + 1)).negation.wrap level
  | group inner ih => exact (ih leaves sources 0).group.atLevel level

end Sql

namespace Filter

/-! ### The text of the tree that is read -/

/-- The lowest level that is zero exactly where the given one is. -/
def flattened (level : Nat) : Nat :=
  if 0 < level then 1 else 0

/-- A group around a filter is written as the parentheses that its level asks for. -/
theorem textAt_enclose (filter : Filter) (level : Nat) :
    (enclose level filter).textAt (flattened level) = wrap level (filter.textAt 0) := by
  unfold enclose flattened wrap
  split <;> rfl

/-- The tree with a group for each pair of parentheses is written with these parentheses
and no others. The levels in it never go above one. -/
theorem textAt_parenthesized (filter : Filter) (level : Nat) :
    (filter.parenthesized level).textAt (flattened level) = filter.textAt level := by
  have below (level : Nat) : flattened (level + 1) = 0 + 1 := if_pos (Nat.succ_pos level)
  induction filter generalizing level with
  | condition => rfl
  | oneOf => rfl
  | binary joint left right ihLeft ihRight =>
      have first := ihLeft (level + 1)
      have second := ihRight (level + 1)
      rw [below] at first second
      rw [parenthesized, textAt_enclose, textAt, first, second]
      rfl
  | negation operand ih =>
      have inner := ih (level + 1)
      rw [below] at inner
      rw [parenthesized, textAt_enclose, textAt, inner]
      rfl
  | group inner ih =>
      have inside := ih 0
      rw [show flattened 0 = 0 from rfl] at inside
      rw [parenthesized, textAt, textAt, inside]

/-- Below another filter there is no negation in front of the tree. -/
theorem leadingNegations_parenthesized (filter : Filter) (level : Nat) :
    (filter.parenthesized (level + 1)).leadingNegations = 0 := by
  cases filter <;> rfl

/-- In the tree with a group for each pair of parentheses no two negations follow each
other. -/
theorem negationRun_parenthesized_le (filter : Filter) (level : Nat) :
    (filter.parenthesized level).negationRun ≤ 1 := by
  have enclosed (level : Nat) (filter : Filter) :
      (enclose level filter).negationRun = filter.negationRun := by
    unfold enclose
    split <;> rfl
  induction filter generalizing level with
  | condition | oneOf => exact Nat.zero_le _
  | binary joint left right ihLeft ihRight =>
      rw [parenthesized, enclosed, negationRun]
      exact Nat.max_le.mpr ⟨ihLeft (level + 1), ihRight (level + 1)⟩
  | negation operand ih =>
      rw [parenthesized, enclosed, negationRun, leadingNegations_parenthesized]
      exact Nat.max_le.mpr ⟨ih (level + 1), Nat.le_refl 1⟩
  | group inner ih => exact ih 0

end Filter

namespace Translator

end Translator

end WhereClause
