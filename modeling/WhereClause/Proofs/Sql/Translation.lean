/-
# Translated filters mean what was written

The renderer trusts its leaves. Whatever tree is given to it, if the leaves are as
the reader makes them, the text that it writes reads as that tree and as no other,
parentheses aside. And the leaves of a translated filter are of that kind: no word
that is a keyword of SQL is taken for a field, since the keywords of filters cover
them, and setting humps apart cannot spell one either.
-/

import WhereClause.Proofs.Sql.Meaning
import WhereClause.Proofs.Translator.Values

namespace WhereClause

namespace Sql

/-- Every safe literal is a value of SQL. -/
theorem isValue_of_isSafe {value : Literal} (safe : value.IsSafe) : IsValue value := by
  cases safe with
  | number number => exact .number number
  | keyword keyword => exact .keyword keyword
  | string body quoted _ => exact .string body quoted

/-- The keywords of SQL are keywords of filters, and no underscore is in them. -/
theorem keyword_of_mem_keywords {word : String} (listed : word ∈ keywords.map Prod.fst) :
    TokenKind.keywords.lookup word ≠ none ∧ '_' ∉ word.toList := by
  have checked : ∀ word ∈ keywords.map Prod.fst,
      TokenKind.keywords.lookup word ≠ none ∧ '_' ∉ word.toList := by decide
  exact checked word listed

/-- The field that a word names is a column, unless the word is a keyword. -/
theorem isColumn_of_ofName {reserved : ReservedWords} {word : String} {field : Field}
    (notKeyword : TokenKind.keyword? word = none)
    (named : Field.ofName reserved word = .ok field) : IsColumn field := by
  refine ⟨(Field.isSafe_of_ofName named).isSnakeName, fun listed => ?_⟩
  obtain ⟨name, -, -, rfl⟩ := Field.ofName_eq_ok_iff.mp named
  obtain ⟨keyword, noUnderscore⟩ := keyword_of_mem_keywords listed
  have small := Field.map_toLower_eq_snakeCase name noUnderscore
  rw [TokenKind.keyword?, small, String.ofList_toList] at notKeyword
  exact keyword notKeyword

/-- The leaves of a translated filter are columns and values of SQL. -/
theorem leaves_of_parse {translator : Translator} {text : String} {filter : Filter}
    (parsed : translator.parse text = .ok (some filter)) : filter.Leaves IsColumn IsValue := by
  obtain ⟨tokens, cut, read⟩ := Translator.ofTokens_of_parse parsed
  apply Filter.leaves_of_parse read
  · intro token there field kind named
    exact isColumn_of_ofName (Lexer.word_of_identifier cut there kind).2 named
  · intro token _ value given
    exact isValue_of_isSafe (Literal.isSafe_of_ofText given)

end Sql

namespace Filter

/-- The text of a filter reads as the filter and in no other way, groups aside. This
holds of filters of any shape whose fields are columns and whose values are values of
SQL, and every filter that a translator answers with is of that kind, under all
settings.

The text is what the writer gives at level zero. In a filter that is 2 ^ 64 high or higher
the writer might come to the last level a machine word counts and break off. No memory
holds such a filter; a translated one is not even as high as its text is long. -/
theorem sql_reads_as_filter :
    (∀ filter : Filter, filter.Leaves Sql.IsColumn Sql.IsValue → filter.height < 2 ^ 64 →
      filter.sqlAt 0 = some filter.sql ∧
        ∃ tree : Filter, (∀ other, Sql.Reads filter.sql other ↔ other = tree) ∧
          tree.ungrouped = filter.ungrouped ∧
          ∀ {Truth : Type} (valuation : Valuation Truth),
            tree.truth valuation = filter.truth valuation) ∧
    ∀ (translator : Translator) (text : String) (filter : Filter),
      translator.parse text = .ok (some filter) →
        filter.Leaves Sql.IsColumn Sql.IsValue ∧ filter.height ≤ text.utf8ByteSize := by
  constructor
  · intro filter leaves low
    have reads : Sql.Reads filter.sql (filter.parenthesized 0) := by
      rw [sql_eq_textAt]
      exact (Sql.expresses_textAt leaves 0).reads
    have same := filter.ungrouped_parenthesized 0
    refine ⟨sqlAt_zero low, filter.parenthesized 0,
      fun other => ⟨fun second => second.unique reads, ?_⟩, same, ?_⟩
    · rintro rfl
      exact reads
    · intro Truth valuation
      rw [← truth_ungrouped, same, truth_ungrouped]
  · intro translator text filter parsed
    exact ⟨Sql.leaves_of_parse parsed, Translator.height_le_utf8ByteSize parsed⟩

/-- A filter with a value that tries to leave its quotes, below two connectives. -/
def hostileValue : Filter :=
  .binary .and
    (.binary .or (.condition ⟨"user_name"⟩ .equal ⟨"'x'') or (''1'"⟩)
      (.oneOf ⟨"age"⟩ [⟨"30"⟩, ⟨"null"⟩]))
    (.negation (.condition ⟨"active"⟩ .unequal ⟨"true"⟩))

/-- The hostile value stays inside its quotes, and a comparison with a quoted string is
translated to a filter of the kind that the text of filters is faithful to. -/
theorem sql_reads_as_filter_hostileValue :
    hostileValue.Leaves Sql.IsColumn Sql.IsValue ∧ hostileValue.height < 2 ^ 64 ∧
      hostileValue.sqlAt 0 = some hostileValue.sql ∧
      (∃ tree : Filter, (∀ other, Sql.Reads hostileValue.sql other ↔ other = tree) ∧
        tree.ungrouped = hostileValue.ungrouped) ∧
      (Filter.condition ⟨"user_name"⟩ .equal ⟨"'it''s'"⟩).Leaves Sql.IsColumn Sql.IsValue := by
  have column {name : String} (snake : Field.isSnakeName name.toList = true)
      (notKeyword : name ∉ Sql.keywords.map Prod.fst) : Sql.IsColumn ⟨name⟩ :=
    ⟨snake, notKeyword⟩
  have leaves : hostileValue.Leaves Sql.IsColumn Sql.IsValue := by
    refine ⟨⟨⟨column rfl (by decide), .string "x') or ('1".toList rfl⟩,
      ⟨column rfl (by decide), by decide, ?_⟩⟩,
      ⟨column rfl (by decide), .keyword (by decide)⟩⟩
    intro value there
    rcases List.mem_cons.mp there with rfl | later
    · exact .number rfl
    · obtain rfl := List.mem_singleton.mp later
      exact .keyword (by decide)
  have low : hostileValue.height < 2 ^ 64 := by decide
  obtain ⟨written, tree, reads, same, -⟩ := sql_reads_as_filter.1 hostileValue leaves low
  exact ⟨leaves, low, written, ⟨tree, reads, same⟩,
    (sql_reads_as_filter.2 _ _ _ Translator.parse_userName).1⟩

end Filter

end WhereClause
