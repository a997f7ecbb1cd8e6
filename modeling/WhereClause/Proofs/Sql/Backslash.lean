/-
# Backslashes in values

A value is quoted in one way for all dialects, and a filter is inserted into a statement
as it is. But MySQL, unless told otherwise, lets a backslash in a string take the
character behind it. There a value that ends with a backslash takes its closing quote
along, the string goes on to the next quote, and the value that is meant to begin there
is read as SQL.

It is exactly such values that make a difference: if no backslash of a value takes a
quote, the text of the filter is divided in the same places by both rules, and otherwise
it is not.
-/

import WhereClause.Proofs.Filter.Writing
import WhereClause.Proofs.Sql.Division
import WhereClause.Proofs.Sql.Translation
import WhereClause.Select

namespace WhereClause

/-- Whether no backslash of a value takes a quote, neither one of its own nor the one
that is to close it. A backslash that is taken by another one takes nothing. -/
def Literal.leavesQuotes : List Char → Bool
  | [] => true
  | ['\\'] => false
  | '\\' :: c :: rest => c != '\'' && leavesQuotes rest
  | _ :: rest => leavesQuotes rest

namespace Sql

section Inner

variable {rule : StringRule} {c : Char} {inner : List Char}

theorem inner_pair_iff : Inner rule ('\'' :: '\'' :: inner) ↔ Inner rule inner := by
  refine ⟨fun whole => ?_, .pair⟩
  cases whole with
  | plain notQuote => exact absurd rfl notQuote
  | pair rest => exact rest

theorem inner_plain_iff (notQuote : c ≠ '\'') (notBackslash : c ≠ '\\') :
    Inner rule (c :: inner) ↔ Inner rule inner := by
  refine ⟨fun whole => ?_, .plain notQuote fun _ => notBackslash⟩
  cases whole with
  | plain _ _ rest => exact rest
  | pair => exact absurd rfl notQuote
  | taken => exact absurd rfl notBackslash

theorem inner_taken_iff : Inner .backslash ('\\' :: c :: inner) ↔ Inner .backslash inner := by
  refine ⟨fun whole => ?_, .taken rfl⟩
  cases whole with
  | plain _ notBackslash => exact absurd rfl (notBackslash rfl)
  | taken _ rest => exact rest

/-- A quote without a partner is not made up for by quotes that have one. -/
theorem not_inner_quote_cons_double (body : List Char) :
    ¬ Inner rule ('\'' :: Text.double '\'' body) := by
  induction body with
  | nil =>
      intro whole
      cases whole with
      | plain notQuote => exact notQuote rfl
  | cons c body ih =>
      rw [Text.double_cons]
      split
      · next quote =>
          subst quote
          exact fun whole => ih (inner_pair_iff.mp whole)
      · next notQuote =>
          intro whole
          cases whole with
          | plain notQuote => exact notQuote rfl
          | pair => exact notQuote rfl

/-- A quoted value is closed by its own quote where backslashes count exactly if they leave
the quotes alone. -/
theorem inner_double_iff {body : List Char} :
    Inner .backslash (Text.double '\'' body) ↔ Literal.leavesQuotes body = true := by
  fun_induction Literal.leavesQuotes body with
  | case1 => exact iff_of_true .done rfl
  | case2 =>
      refine iff_of_false (fun whole => ?_) Bool.noConfusion
      cases whole with
      | plain _ notBackslash => exact notBackslash rfl rfl
  | case3 c rest ih =>
      have notQuote : '\\' ≠ '\'' := by decide
      rw [Text.double_cons, if_neg notQuote, List.singleton_append, Text.double_cons]
      by_cases quote : c = '\''
      · subst quote
        simpa [inner_taken_iff] using not_inner_quote_cons_double rest
      · simp [quote, inner_taken_iff, ih]
  | case4 c rest notLast notTaking ih =>
      have notBackslash : c ≠ '\\' := by
        rintro rfl
        cases rest with
        | nil => exact notLast rfl rfl
        | cons d rest => exact notTaking d rest rfl rfl
      rw [Text.double_cons, ← ih]
      by_cases quote : c = '\''
      · subst quote
        exact inner_pair_iff
      · rw [if_neg quote]
        exact inner_plain_iff quote notBackslash

end Inner

/-! ### The strings in the text of a filter -/

/-- The text is made of lexemes among which the strings are the quoted values of the
filter. -/
def Quotes (filter : Filter) (text : String) : Prop :=
  ∃ lexemes, Writes text.toList lexemes ∧ ∀ body, .string body ∈ lexemes ↔
    ∃ value ∈ filter.literals, value.sql.toList = Literal.quote body

/-- The lexeme of a literal is a string exactly if the literal is quoted. -/
theorem lexeme_eq_string_iff {lexeme : Lexeme} {value : Literal} (proper : lexeme.IsProper)
    (spelled : lexeme.spelling = value.sql.toList) (body : List Char) :
    lexeme = .string body ↔ value.sql.toList = Literal.quote body := by
  constructor
  · rintro rfl
    exact spelled.symm
  · intro quoted
    have nothing : Breaks [] := by simp [Breaks]
    have same : lexeme.spelling ++ [] = (Lexeme.string body).spelling ++ [] := by
      rw [spelled, quoted]
      rfl
    have string : (Lexeme.string body).IsProper := True.intro
    exact (Lexeme.unique proper string (nothing.stops _) (nothing.stops _) same).1

/-- The texts of some values with commas between them are made of the lexemes of the values
and of commas. -/
theorem quotes_listText {values : List Literal} (nonempty : values ≠ [])
    (literals : ∀ value ∈ values, IsValue value) :
    ∃ lexemes, Writes (Filter.listText values).toList lexemes ∧ ∀ body, .string body ∈ lexemes ↔
      ∃ value ∈ values, value.sql.toList = Literal.quote body := by
  induction values with
  | nil => exact absurd rfl nonempty
  | cons first values ih =>
      obtain ⟨lexeme, proper, spelled, -⟩ := (literals first List.mem_cons_self).symbol
      have single := Writes.single proper
      have string := lexeme_eq_string_iff proper spelled
      rw [spelled] at single
      cases values with
      | nil => exact ⟨[lexeme], single, by simp [← string, eq_comm]⟩
      | cons second values =>
          obtain ⟨lexemes, writes, strings⟩ := ih (List.cons_ne_nil _ _)
            fun value there => literals value (List.mem_cons_of_mem _ there)
          refine ⟨[lexeme] ++ .comma :: lexemes, ?_, fun body => ?_⟩
          · rw [Filter.listText_cons]
            simpa using single.separated writes
          · simp [← string, strings, eq_comm]

/-- What is written of a filter has the quoted values of the filter for its strings. -/
theorem writing_quotes : Filter.Writing IsColumn IsValue Quotes where
  condition {field comparison value} column literal := by
    obtain ⟨lexeme, proper, spelled, -⟩ := literal.symbol
    refine ⟨_, .condition column.symbol.1 comparison proper spelled, fun body => ?_⟩
    simp [Filter.literals, ← lexeme_eq_string_iff proper spelled, eq_comm]
  oneOf column nonempty literals := by
    obtain ⟨lexemes, writes, strings⟩ := quotes_listText nonempty literals
    exact ⟨_, .oneOf column.symbol.1 writes, by simp [Filter.literals, strings]⟩
  binary := by
    rintro connective left right _ _ ⟨lexemes, writes, strings⟩ ⟨lexemes', writes', strings'⟩
    refine ⟨_, writes.binary writes' connective, fun body => ?_⟩
    simp [Filter.literals, strings, strings', or_and_right, exists_or]
  negation := by
    rintro _ _ ⟨lexemes, writes, strings⟩
    exact ⟨_, writes.negation, by simp [Filter.literals, strings]⟩
  group := by
    rintro _ _ ⟨lexemes, writes, strings⟩
    exact ⟨_, writes.group, by simp [Filter.literals, strings]⟩
  enclosed := by
    rintro _ _ ⟨lexemes, writes, strings⟩
    exact ⟨_, writes.group, by simp [strings]⟩

/-- The text of a filter with proper leaves is divided by the standard, and where backslashes
count it is divided in the same places exactly if they leave the quotes of all values. -/
theorem divides_sql {filter : Filter} (leaves : filter.Leaves IsColumn IsValue) :
    ∃ slices, Divides .standard filter.sql.toList slices ∧
      (Divides .backslash filter.sql.toList slices ↔ ∀ value ∈ filter.literals,
        ∀ body, value.sql.toList = Literal.quote body → Literal.leavesQuotes body = true) := by
  obtain ⟨lexemes, writes, strings⟩ := writing_quotes.sql leaves
  obtain ⟨slices, divided, alike⟩ := writes.lexes.divides
  refine ⟨slices, divided, alike.trans ?_⟩
  simp only [strings, inner_double_iff]
  constructor
  · exact fun left value there body quoted => left body ⟨value, there, quoted⟩
  · exact fun left body ⟨value, there, quoted⟩ => left value there body quoted

end Sql

namespace Catalog

/-- The statement of a filter is the same for all dialects, apart from the quotes around the
name of the table. -/
theorem select_some (catalog : Catalog) (filter : Filter) (entity : String) :
    catalog.select (some filter) entity =
      "SELECT * FROM " ++ quotedName catalog.dialect (catalog.tableName entity) ++ " WHERE " ++
        filter.sql :=
  String.append_assoc.symm

/-- What the statement of a translated filter has for its condition is divided in one way by
the standard. Where backslashes count it is divided in this way too, and in no other,
exactly if no backslash of a value takes a quote. -/
theorem select_divided_alike_iff {translator : Translator} {text : String} {filter : Filter}
    (parsed : translator.parse text = .ok (some filter)) (catalog : Catalog) (entity : String) :
    ∃ condition slices,
      catalog.select (some filter) entity =
        "SELECT * FROM " ++ quotedName catalog.dialect (catalog.tableName entity) ++ " WHERE " ++
          condition ∧
      (∀ other, Sql.Divides .standard condition.toList other ↔ other = slices) ∧
      ((∀ other, Sql.Divides .backslash condition.toList other ↔ other = slices) ↔
        ∀ value ∈ filter.literals, ∀ body, value.sql.toList = Literal.quote body →
          Literal.leavesQuotes body = true) := by
  obtain ⟨slices, divided, alike⟩ := Sql.divides_sql (Sql.leaves_of_parse parsed)
  have only {rule : Sql.StringRule} (divided : Sql.Divides rule filter.sql.toList slices)
      (other : List (List Char)) :
      Sql.Divides rule filter.sql.toList other ↔ other = slices :=
    ⟨fun second => second.unique divided, fun same => same ▸ divided⟩
  refine ⟨filter.sql, slices, catalog.select_some filter entity, only divided, ?_⟩
  rw [← alike]
  exact ⟨fun both => (both slices).mpr rfl, only⟩

/-- A backslash that takes a letter does no harm. -/
theorem select_divided_alike_iff_path :
    Translator.standard.parse "path eq 'C:\\dir'" =
        .ok (some (.condition ⟨"path"⟩ .equal ⟨"'C:\\dir'"⟩)) ∧
      ∃ condition slices,
        (ofDialect .mysql).select (some (.condition ⟨"path"⟩ .equal ⟨"'C:\\dir'"⟩)) "File" =
          "SELECT * FROM " ++ quotedName .mysql "file" ++ " WHERE " ++ condition ∧
        (∀ other, Sql.Divides .standard condition.toList other ↔ other = slices) ∧
        ∀ other, Sql.Divides .backslash condition.toList other ↔ other = slices := by
  have given : Lexer.Spells .string "'C:\\dir'".toList "'C:\\dir'".toList [] :=
    .string "C:\\dir".toList (by decide)
  have cuts : Lexer.Cuts [] 0 "path eq 'C:\\dir'".toList _ :=
    .spaced "path" (by decide) rfl rfl <| .spaced "eq" (by decide) rfl rfl <|
      .spelled given (.done _)
  have parsed : Translator.standard.parse "path eq 'C:\\dir'" =
      .ok (some (.condition ⟨"path"⟩ .equal ⟨"'C:\\dir'"⟩)) :=
    Translator.parse_of_cuts rfl (by decide) rfl cuts rfl
  obtain ⟨condition, slices, written, standard, alike⟩ :=
    select_divided_alike_iff parsed (ofDialect .mysql) "File"
  refine ⟨parsed, condition, slices, written, standard, alike.mpr ?_⟩
  intro value there body quoted
  obtain rfl := List.mem_singleton.mp there
  have same : Literal.quote "C:\\dir".toList ++ [] = Literal.quote body ++ [] := by
    rw [← quoted]
    rfl
  obtain ⟨rfl, -⟩ := Sql.quote_unique (by decide) (by decide) same
  rfl

/-- The first value ends with a backslash. -/
def trailingBackslash : Filter :=
  .binary .and (.condition ⟨"name"⟩ .equal ⟨"'x\\'"⟩)
    (.condition ⟨"note"⟩ .equal ⟨"' or 1=1 #'"⟩)

/-- Where backslashes count, the backslash takes the closing quote, so that the string goes
on to the opening quote of the second value, and that value is not in a string. -/
theorem select_divided_otherwise_trailingBackslash :
    Translator.standard.parse "name eq 'x\\' and note eq ' or 1=1 #'" =
        .ok (some trailingBackslash) ∧
      (ofDialect .mysql).select (some trailingBackslash) "User" =
        "SELECT * FROM \x60user\x60 WHERE name = 'x\\' AND note = ' or 1=1 #'" ∧
      ∃ slices,
        Sql.Divides .standard "name = 'x\\' AND note = ' or 1=1 #'".toList slices ∧
        ¬ Sql.Divides .backslash "name = 'x\\' AND note = ' or 1=1 #'".toList slices := by
  have first : Lexer.Spells .string "'x\\'".toList "'x\\'".toList
      " and note eq ' or 1=1 #'".toList := .string "x\\".toList (by decide)
  have second : Lexer.Spells .string "' or 1=1 #'".toList "' or 1=1 #'".toList [] :=
    .string " or 1=1 #".toList (by decide)
  have cuts : Lexer.Cuts [] 0 "name eq 'x\\' and note eq ' or 1=1 #'".toList _ :=
    .spaced "name" (by decide) rfl rfl <| .spaced "eq" (by decide) rfl rfl <|
      .spelled first <| .blank rfl <| .spaced "and" (by decide) rfl rfl <|
      .spaced "note" (by decide) rfl rfl <| .spaced "eq" (by decide) rfl rfl <|
      .spelled second (.done _)
  have parsed : Translator.standard.parse "name eq 'x\\' and note eq ' or 1=1 #'" =
      .ok (some trailingBackslash) :=
    Translator.parse_of_cuts rfl (by decide) rfl cuts rfl
  have written : trailingBackslash.sql = "name = 'x\\' AND note = ' or 1=1 #'" := by
    rw [Filter.sql_eq_textAt]
    rfl
  obtain ⟨slices, divided, alike⟩ := Sql.divides_sql (Sql.leaves_of_parse parsed)
  rw [written] at divided alike
  refine ⟨parsed, ?_, slices, divided, fun same => ?_⟩
  · rw [select_some, written]
    rfl
  · have left := alike.mp same ⟨"'x\\'"⟩ (by decide) "x\\".toList rfl
    revert left
    decide

end Catalog

end WhereClause
