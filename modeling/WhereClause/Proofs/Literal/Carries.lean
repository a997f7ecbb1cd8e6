/-
# What a literal keeps of its source

A literal of SQL carries the value that a filter has in its place. A quoted string
and its literal stand for the same text once both are unquoted by the same rule, a
number is copied, a truth value is put in lowercase, and any other word becomes a
string with the word in it.

Two classifications have to agree for this: the one that told strings from words
when the text was cut into tokens, and the one by which the literal was made, which
looks at the text of the token only. They do, because a text that begins with a
quote is no number and no keyword.
-/

import WhereClause.Proofs.Literal
import WhereClause.Proofs.Numeral

namespace WhereClause.Literal

/-- What a quoted string stands for: its outer quotes are dropped, and a pair of
quotes is one quote. -/
def unquote (cs : List Char) : List Char :=
  Text.undouble '\'' cs.tail.dropLast

/-- The value carries what the slice of a filter says. -/
structure Carries (slice : List Char) (value : Literal) : Prop where
  string : slice.head? = some '\'' →
    value.sql.toList = quote (unquote slice) ∧ unquote value.sql.toList = unquote slice
  number : slice.head? ≠ some '\'' → isNumber (String.ofList slice) = true →
    value.sql.toList = slice
  keyword : slice.head? ≠ some '\'' →
    Text.lowercase (String.ofList slice) ∈ ["true", "false", "null"] →
      value.sql = Text.lowercase (String.ofList slice)
  word : slice.head? ≠ some '\'' → isNumber (String.ofList slice) = false →
    Text.lowercase (String.ofList slice) ∉ ["true", "false", "null"] →
      value.sql.toList = quote slice ∧ unquote value.sql.toList = slice

/-- Quoting loses nothing. -/
theorem unquote_quote (body : List Char) : unquote (quote body) = body := by
  rw [unquote, quote, List.cons_append, List.tail_cons, List.dropLast_concat,
    Text.undouble_double]

/-- The two outer quotes of a string are taken off, whatever stands between them. -/
theorem stripQuotes_quoted (body : List Char) :
    stripQuotes ('\'' :: body ++ ['\'']) = body := by
  simp [stripQuotes]

/-- Nothing is taken off a text without quotes. -/
theorem stripQuotes_of_free {cs : List Char} (free : '\'' ∉ cs) : stripQuotes cs = cs := by
  have notLast : cs.getLast? ≠ some '\'' := fun last => free (List.mem_of_getLast? last)
  unfold stripQuotes
  dsimp only
  split
  · exact absurd List.mem_cons_self free
  · exact if_neg notLast

section Quoted

variable {text : String} {rest : List Char} (quoted : text.toList = '\'' :: rest)

include quoted

/-- A text that begins with a quote is no number. -/
theorem isNumber_of_quoted : isNumber text = false := by
  unfold isNumber
  split
  · next numeral read =>
      have part : Numeral.isNumeralPart '\'' = true :=
        Numeral.isNumeralPart_of_read? read (by simp [quoted])
      cases part
  · rfl

/-- Lowercasing leaves a quote at the beginning. -/
theorem head?_lowercase_of_quoted : (Text.lowercase text).toList.head? = some '\'' := by
  rw [Text.lowercase, String.toList_ofList, quoted, Text.lowercaseChars, Text.lowercaseFrom_cons,
    Text.lowercaseBetween_of_ascii (by decide)]
  rfl

/-- A text that begins with a quote is none of the words for truth values and the
missing value. -/
theorem not_keyword_of_quoted : Text.lowercase text ∉ keywordLiterals := by
  have others : ∀ word ∈ keywordLiterals, word.toList.head? ≠ some '\'' := by decide
  exact fun keyword => others _ keyword (head?_lowercase_of_quoted quoted)

/-- A text that begins with a quote is not on the fixed list of reserved words. -/
theorem not_builtin_of_quoted : Text.lowercase text ∉ ReservedWords.builtin := by
  have others : ∀ word ∈ ReservedWords.builtin, word.toList.head? ≠ some '\'' := by decide
  exact fun builtin => others _ builtin (head?_lowercase_of_quoted quoted)

end Quoted

/-- No number is a keyword: each keyword has a `u` or an `l`. -/
theorem isNumber_of_keyword {text : String} (keyword : Text.lowercase text ∈ keywordLiterals) :
    isNumber text = false := by
  unfold isNumber
  split
  · next numeral read =>
      have ascii : ∀ c ∈ text.toList, c.toNat < 128 := fun c there =>
        Numeral.ascii_of_isNumeralPart (Numeral.isNumeralPart_of_read? read there)
      have letter : ∀ word ∈ keywordLiterals, 'u' ∈ word.toList ∨ 'l' ∈ word.toList := by decide
      have lower : (Text.lowercase text).toList = text.toList.map Char.toLower := by
        rw [Text.lowercase, String.toList_ofList, Text.lowercaseChars_of_ascii ascii]
      rcases letter _ keyword with there | there
      all_goals
        rw [lower] at there
        cases Numeral.isNumeralPart_of_mem_map_toLower read there
  · rfl

/-- The literal of a quoted string carries the string. -/
theorem carries_string {reserved : ReservedWords} {text : String} {value : Literal}
    {body : List Char} (quoted : text.toList = '\'' :: body ++ ['\''])
    (given : ofText reserved text = .ok value) : Carries (quote body) value := by
  have written : value.sql.toList = quote body := by
    rcases ofText_eq_ok_iff.mp given with ⟨number, -⟩ | ⟨-, -, -, rfl⟩
    · rw [isNumber_of_quoted quoted] at number
      cases number
    · rw [if_neg (not_keyword_of_quoted quoted), String.toList_ofList, quoted, stripQuotes_quoted]
  have begins : (quote body).head? = some '\'' := rfl
  refine ⟨fun _ => ?_, fun other => absurd begins other, fun other => absurd begins other,
    fun other => absurd begins other⟩
  rw [written, unquote_quote]
  exact ⟨rfl, rfl⟩

/-- The literal of a word carries the word. -/
theorem carries_word {reserved : ReservedWords} {text : String} {value : Literal}
    (free : '\'' ∉ text.toList) (given : ofText reserved text = .ok value) :
    Carries text.toList value := by
  have notQuoted : text.toList.head? ≠ some '\'' := fun first =>
    free (List.mem_of_head? first)
  refine ⟨fun quoted => absurd quoted notQuoted, fun _ => ?_, fun _ => ?_, fun _ => ?_⟩
  all_goals rw [String.ofList_toList]
  · intro number
    rcases ofText_eq_ok_iff.mp given with ⟨-, rfl⟩ | ⟨notNumber, -⟩
    · rfl
    · rw [number] at notNumber
      cases notNumber
  · intro keyword
    rcases ofText_eq_ok_iff.mp given with ⟨number, -⟩ | ⟨-, -, -, rfl⟩
    · rw [isNumber_of_keyword keyword] at number
      cases number
    · rw [if_pos (mem_keywordLiterals_iff.mpr keyword)]
  · intro notNumber notKeyword
    rcases ofText_eq_ok_iff.mp given with ⟨number, -⟩ | ⟨-, -, -, rfl⟩
    · rw [notNumber] at number
      cases number
    · rw [if_neg (mt mem_keywordLiterals_iff.mp notKeyword), String.toList_ofList, stripQuotes_of_free free, unquote_quote]
      exact ⟨rfl, rfl⟩

/-- Outer quotes neither bring forbidden sequences nor hide them. -/
theorem forbiddenSequence?_quoted (body : List Char) :
    forbiddenSequence? (String.ofList ('\'' :: body ++ ['\''])) =
      forbiddenSequence? (String.ofList body) := by
  have same : ∀ sequence ∈ forbiddenSequences,
      Text.occursIn sequence.toList ('\'' :: body ++ ['\'']) =
        Text.occursIn sequence.toList body := by
    intro sequence forbidden
    obtain ⟨-, free, nonempty⟩ := plain_of_mem_forbiddenSequences forbidden
    rw [Bool.eq_iff_iff, Text.occursIn_iff_infix, Text.occursIn_iff_infix, List.cons_append,
      Text.infix_quote_cons_iff free nonempty, Text.infix_concat_quote_iff free nonempty]
  simp only [forbiddenSequences, List.forall_mem_cons] at same
  simp only [forbiddenSequence?, forbiddenSequences, List.find?_cons, List.find?_nil,
    String.toList_ofList, same]

/-- A text that begins with a quote is not reserved where no reserved word has a quote
in it. -/
theorem not_contains_of_quoted {reserved : ReservedWords}
    (free : ∀ word ∈ reserved.extra, '\'' ∉ word.toList) {text : String} {rest : List Char}
    (quoted : text.toList = '\'' :: rest) :
    reserved.contains (Text.lowercase text) = false := by
  obtain ⟨rest, lowered⟩ := List.head?_eq_some_iff.mp (head?_lowercase_of_quoted quoted)
  have notBuiltin := not_builtin_of_quoted lowered
  have notExtra : Text.lowercase (Text.lowercase text) ∉ reserved.extra := fun there =>
    free _ there (List.mem_of_head? (head?_lowercase_of_quoted lowered))
  simp [ReservedWords.contains, notBuiltin, notExtra]

/-- Only a forbidden sequence keeps a quoted string from being a value, where no reserved
word has a quote in it. -/
theorem ofText_quoted {reserved : ReservedWords}
    (free : ∀ word ∈ reserved.extra, '\'' ∉ word.toList) (body : List Char) :
    ofText reserved (String.ofList ('\'' :: body ++ ['\''])) =
      match forbiddenSequence? (String.ofList body) with
      | some sequence => .error (.forbiddenSequence sequence)
      | none => .ok ⟨String.ofList (quote body)⟩ := by
  have quoted : (String.ofList ('\'' :: body ++ ['\''])).toList = '\'' :: (body ++ ['\'']) :=
    String.toList_ofList
  rw [ofText, isNumber_of_quoted quoted, if_neg Bool.false_ne_true]
  dsimp only
  rw [forbiddenSequence?_lowercase, forbiddenSequence?_quoted]
  cases forbiddenSequence? (String.ofList body) with
  | some sequence => rfl
  | none =>
      dsimp only
      rw [not_contains_of_quoted free quoted, if_neg Bool.false_ne_true,
        if_neg (by simpa using not_keyword_of_quoted quoted), String.toList_ofList,
        stripQuotes_quoted]

end WhereClause.Literal
