/-
# Fields and values are written as they are read

The name of a field that was read from a filter is a word of filters, which names this
field, and the SQL text of a value is a text that gives this value. So the leaves of a
filter can be put into the text of another filter as they stand.

A name does not turn into a keyword or into a number when its humps are set apart: what
would spell a keyword has no hump, and was one before. A value that is written with
quotes is read with its quotes, which are compared with the reserved words too; this is
why no reserved word may have a quote in it.
-/

import Mathlib.Data.List.Infix
import WhereClause.Proofs.Acceptance
import WhereClause.Proofs.Field
import WhereClause.Proofs.Filter.Leaves
import WhereClause.Proofs.Literal.Carries
import WhereClause.Proofs.Translator

namespace WhereClause

/-! ### Fields -/

namespace Field

variable {reserved : ReservedWords} {word : String} {field : Field}

/-- The name of the field is a word of filters that names the field. -/
structure IsSource (reserved : ReservedWords) (field : Field) : Prop where
  isSnakeName : isSnakeName field.name.toList = true
  kind : Lexer.wordKind field.name = .identifier
  named : ofName reserved field.name = .ok field

/-- The characters of names in snake case do not end a word. -/
theorem isDelimiter_of_isSnakePart {c : Char} (part : isSnakePart c = true) :
    Lexer.isDelimiter c = false := by
  have parts : ∀ c : Char, c.toNat < 128 → isSnakePart c = true → Lexer.isDelimiter c = false :=
    Text.forall_ascii (by decide)
  exact parts c (ascii_of_isNamePart (isNamePart_of_isSnakePart part)) part

/-- A name in snake case is no number: it begins with a letter or an underscore. -/
theorem isNumber_of_isSnakeName (snake : isSnakeName word.toList = true) :
    isNumber word = false := by
  unfold isNumber
  split
  · next numeral read =>
      cases spelled : word.toList with
      | nil => exact absurd spelled (Numeral.ne_nil_of_read? read)
      | cons c rest =>
          rw [spelled] at read snake
          rw [isSnakeName, Bool.and_eq_true] at snake
          have letter := snake.1
          rcases Numeral.head_of_read? read with rfl | rfl | digit | rfl
          · cases letter
          · cases letter
          · have apart : ∀ c : Char, c.toNat < 128 → isSnakeStart c = true → c.isDigit = false :=
              Text.forall_ascii (by decide)
            have part : isSnakePart c = true := by rw [isSnakePart, letter, Bool.true_or]
            rw [apart c (ascii_of_isNamePart (isNamePart_of_isSnakePart part)) letter] at digit
            cases digit
          · cases letter
  · rfl

/-- The snake case form of a word spells a keyword only if the word does: no keyword has an
underscore in it. -/
theorem keyword?_snakeCase (name : isName word.toList = true)
    (notKeyword : TokenKind.keyword? word = none) :
    TokenKind.keyword? (snakeCase word) = none := by
  have noUnderscore : ∀ entry ∈ TokenKind.keywords, '_' ∉ entry.1.toList := by decide
  have same : TokenKind.keyword? (snakeCase word) = TokenKind.keywords.lookup (snakeCase word) := by
    rw [TokenKind.keyword?, map_toLower_of_isSnakeName (isSnakeName_snakeCase name),
      String.ofList_toList]
  rw [same]
  by_contra listed
  obtain ⟨kind, found⟩ := Option.ne_none_iff_exists'.mp listed
  obtain ⟨before, after, split, -⟩ := List.lookup_eq_some_iff.mp found
  have plain := noUnderscore (snakeCase word, kind) (by simp [split])
  rw [TokenKind.keyword?, map_toLower_eq_snakeCase name plain, String.ofList_toList, found]
    at notKeyword
  cases notKeyword

/-- The field that a word names is named by its own name, unless the word is a keyword. -/
theorem isSource_of_ofName (notKeyword : TokenKind.keyword? word = none)
    (named : ofName reserved word = .ok field) : field.IsSource reserved := by
  obtain ⟨name, notReserved, notLiteral, rfl⟩ := ofName_eq_ok_iff.mp named
  have snake := isSnakeName_snakeCase name
  have same := snakeCase_of_isSnakeName snake
  refine ⟨snake, ?_, ofName_eq_ok_iff.mpr ⟨isName_of_isSnakeName snake, ?_, ?_, ?_⟩⟩
  · rw [Lexer.wordKind, keyword?_snakeCase name notKeyword, isNumber_of_isSnakeName snake]
    rfl
  · rw [same]
    exact notReserved
  · rw [same]
    exact notLiteral
  · rw [same]

namespace IsSource

variable (source : field.IsSource reserved)

include source

theorem name_ne_nil : field.name.toList ≠ [] := by
  intro empty
  have snake := source.isSnakeName
  rw [empty] at snake
  cases snake

theorem isDelimiter_of_mem : ∀ c ∈ field.name.toList, Lexer.isDelimiter c = false := by
  intro c there
  exact isDelimiter_of_isSnakePart (isSnakePart_of_mem source.isSnakeName c there)

/-- The name is one token, an identifier. -/
theorem yields : Lexer.Yields field.name.toList [.unplaced .identifier field.name] :=
  .word source.name_ne_nil source.isDelimiter_of_mem source.kind.symm fun _ => rfl

/-- To the grammar the token is the field, and perhaps a value. -/
theorem symbol_eq : (Token.unplaced .identifier field.name).symbol reserved =
    .word (some field) (Literal.ofText reserved field.name).toOption := by
  have named := source.named
  simp only [Token.symbol, Token.unplaced, named, Except.toOption]

/-- There is no white space in the name. -/
theorem edged : Text.Edged field.name.toList :=
  .of_word source.name_ne_nil source.isDelimiter_of_mem

end IsSource

end Field

/-! ### Values -/

namespace Literal

variable {reserved : ReservedWords} {text : String} {value : Literal}

/-- The SQL text of the value is a token of filters that gives the value. -/
structure IsSource (reserved : ReservedWords) (value : Literal) : Prop where
  edged : Text.Edged value.sql.toList
  token : ∃ token, Lexer.Yields value.sql.toList [token] ∧
    Filter.Draft.Gives reserved token value

/-- A word that gives a value gives it as a token. -/
theorem isSource_of_word (nonempty : value.sql.toList ≠ [])
    (letters : ∀ c ∈ value.sql.toList, Lexer.isDelimiter c = false)
    (isValue : (Lexer.wordKind value.sql).isValue = true)
    (given : ofText reserved value.sql = .ok value) : value.IsSource reserved :=
  ⟨.of_word nonempty letters, .unplaced (Lexer.wordKind value.sql) value.sql,
    .word nonempty letters rfl fun _ => rfl, isValue, given⟩

/-- The characters of numerals do not end a word. -/
theorem isDelimiter_of_isNumeralPart {c : Char} (part : Numeral.isNumeralPart c = true) :
    Lexer.isDelimiter c = false := by
  have parts : ∀ c : Char, c.toNat < 128 → Numeral.isNumeralPart c = true →
      Lexer.isDelimiter c = false := Text.forall_ascii (by decide)
  exact parts c (Numeral.ascii_of_isNumeralPart part) part

/-- No numeral spells a keyword: each keyword has a letter that no numeral has. -/
theorem keyword?_eq_none_of_read? {numeral : Numeral}
    (read : Numeral.read? text.toList = some numeral) : TokenKind.keyword? text = none := by
  have letter : ∀ entry ∈ TokenKind.keywords,
      entry.1.toList.all Numeral.isNumeralPart = false := by decide
  by_contra listed
  obtain ⟨kind, found⟩ := Option.ne_none_iff_exists'.mp listed
  have other := letter _ (Lexer.mem_keywords_of_keyword? found)
  have parts : (text.toList.map Char.toLower).all Numeral.isNumeralPart = true :=
    List.all_eq_true.mpr fun _ => Numeral.isNumeralPart_of_mem_map_toLower read
  rw [String.toList_ofList, parts] at other
  cases other

/-- A number is a word that gives itself. -/
theorem isSource_of_isNumber (number : isNumber value.sql = true) : value.IsSource reserved := by
  have given : ofText reserved value.sql = .ok value := by rw [ofText, if_pos number]
  have found := number
  unfold isNumber at found
  split at found
  · next numeral read =>
      refine isSource_of_word (Numeral.ne_nil_of_read? read) (fun c there => ?_) ?_ given
      · exact isDelimiter_of_isNumeralPart (Numeral.isNumeralPart_of_read? read there)
      · rw [Lexer.wordKind, keyword?_eq_none_of_read? read, number]
        rfl
  · cases found

/-- So is a word for a truth value or for the missing value, where it is not reserved. -/
theorem isSource_of_keyword (keyword : value.sql ∈ keywordLiterals)
    (allowed : reserved.contains value.sql = false) : value.IsSource reserved := by
  have plain : ∀ word ∈ keywordLiterals, word.toList ≠ [] ∧
      word.toList.all (fun c => decide (Lexer.isDelimiter c = false)) = true ∧
      (Lexer.wordKind word).isValue = true ∧ Text.lowercase word = word ∧
      forbiddenSequence? word = none := by decide
  obtain ⟨nonempty, computed, isValue, lower, free⟩ := plain _ keyword
  have letters := Text.forall_mem_of_all computed
  have listed : Text.lowercase value.sql ∈ keywordLiterals := by rwa [lower]
  refine isSource_of_word nonempty letters isValue (ofText_eq_ok_iff.mpr (.inr ?_))
  refine ⟨isNumber_of_keyword listed, ?_, ?_, ?_⟩
  · rwa [lower]
  · rwa [lower]
  · rw [if_pos listed, lower]

/-- A quoted string is a token with its quotes, and gives itself where no reserved word has
a quote in it. -/
theorem isSource_of_quoted (free : ∀ word ∈ reserved.extra, '\'' ∉ word.toList)
    {body : List Char} (harmless : forbiddenSequence? (String.ofList body) = none) :
    IsSource reserved ⟨String.ofList (quote body)⟩ := by
  have mark : Text.Edged ['\''] := .of_forall (by decide) (Text.forall_mem_of_all rfl)
  refine ⟨?_, .unplaced .string (String.ofList ('\'' :: body ++ ['\''])), ?_, rfl, ?_⟩
  · rw [String.toList_ofList]
    exact mark.around (Text.double '\'' body) mark
  · rw [String.toList_ofList]
    exact .string body
  · show ofText reserved (String.ofList ('\'' :: body ++ ['\''])) = _
    rw [ofText_quoted free, harmless]

/-- Every value that a text gives is given by its own SQL text. -/
theorem isSource_of_ofText (free : ∀ word ∈ reserved.extra, '\'' ∉ word.toList)
    (given : ofText reserved text = .ok value) : value.IsSource reserved := by
  rcases ofText_eq_ok_iff.mp given with ⟨number, rfl⟩ | ⟨-, harmless, allowed, made⟩
  · exact isSource_of_isNumber number
  · by_cases keyword : Text.lowercase text ∈ keywordLiterals
    · rw [if_pos keyword] at made
      subst made
      exact isSource_of_keyword keyword allowed
    · rw [if_neg keyword] at made
      subst made
      apply isSource_of_quoted free
      rw [forbiddenSequence?_lowercase, forbiddenSequence?_eq_none_iff] at harmless
      rw [forbiddenSequence?_eq_none_iff, String.toList_ofList]
      intro sequence forbidden occurs
      exact harmless sequence forbidden (occurs.trans (stripQuotes_isInfix _))

end Literal

/-! ### The leaves of a translated filter -/

/-- No added word has a quote in it when it is compared, if none has as it is added. -/
theorem ReservedWords.not_mem_quote_of_ofList {words : List String}
    (free : ∀ word ∈ words, '\'' ∉ word.toList) :
    ∀ word ∈ (ofList words).extra, '\'' ∉ word.toList := by
  intro word there quote
  obtain ⟨added, listed, rfl⟩ := List.mem_map.mp (List.mem_filter.mp there).1
  have plain : ∀ c ∈ ['\''], Text.IsPlain c := Text.forall_mem_of_all rfl
  rw [Text.lowercase, String.toList_ofList, ← List.singleton_infix_iff, Text.lowercaseChars,
    Text.infix_lowercaseFrom_iff plain, List.singleton_infix_iff] at quote
  exact free added listed ((Text.trim_isInfix added).subset quote)

/-- The fields and values of a translated filter are written as they are read. -/
theorem Translator.isSource_leaves_of_parse {translator : Translator} {text : String}
    {filter : Filter} (free : ∀ word ∈ translator.reserved.extra, '\'' ∉ word.toList)
    (parsed : translator.parse text = .ok (some filter)) :
    filter.Leaves (Field.IsSource translator.reserved) (Literal.IsSource translator.reserved) := by
  obtain ⟨tokens, cut, read⟩ := ofTokens_of_parse parsed
  apply Filter.leaves_of_parse read
  · intro token there field kind named
    exact Field.isSource_of_ofName (Lexer.word_of_identifier cut there kind).2 named
  · intro token _ value given
    exact Literal.isSource_of_ofText free given

end WhereClause
