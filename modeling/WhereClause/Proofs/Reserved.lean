/-
# Reserved words in every spelling

A word that is reserved is kept trimmed and in lowercase, and a word of a filter is
compared in lowercase. The two meet for every spelling of the reserved word, because the
spellings have one lowercase form and lowercasing a second time changes nothing.

Where a field stands, the snake case form of the word is compared. That is its lowercase
form too, unless the word has humps: then it is another word, of which the reserved one
says nothing.
-/

import WhereClause.Proofs.Field
import WhereClause.Proofs.Literal
import WhereClause.Proofs.Numeral
import WhereClause.Proofs.Token.Lexer

namespace WhereClause

open Text (SpelledAlike)

/-! ### Words that are spelled alike -/

/-- What ends a word does not depend on case. -/
theorem Lexer.isDelimiter_toLower (c : Char) : isDelimiter c.toLower = isDelimiter c :=
  Text.apply_toLower (by decide) c

/-- A spelling of a word has nothing in it that ends words. -/
theorem Text.SpelledAlike.isDelimiter_eq_false {spelling word : String}
    (alike : SpelledAlike spelling word)
    (letters : ∀ c ∈ word.toList, Lexer.isDelimiter c = false) :
    ∀ c ∈ spelling.toList, Lexer.isDelimiter c = false := by
  intro c there
  have lowered : c.toLower ∈ word.toList.map Char.toLower := alike ▸ List.mem_map_of_mem there
  obtain ⟨d, there', same⟩ := List.mem_map.mp lowered
  rw [← Lexer.isDelimiter_toLower, ← same, Lexer.isDelimiter_toLower, letters d there']

/-- The spellings of a word make tokens of one kind. -/
theorem Text.SpelledAlike.wordKind_eq {spelling word : String}
    (alike : SpelledAlike spelling word) : Lexer.wordKind spelling = Lexer.wordKind word := by
  rw [Lexer.wordKind, Lexer.wordKind, TokenKind.keyword?, TokenKind.keyword?, alike,
    alike.isNumber_eq]

/-- An identifier is no number. -/
theorem Lexer.isNumber_of_wordKind {word : String} (identifies : wordKind word = .identifier) :
    isNumber word = false := by
  unfold wordKind at identifies
  split at identifies
  · next kind found =>
      have isValue := isValue_of_keyword? found
      rw [identifies] at isValue
      cases isValue
  · split at identifies
    · cases identifies
    · next other => exact Bool.eq_false_iff.mpr other

/-- A spelling of an identifier is an identifier too, and no number, wherever it is cut from a
text. -/
theorem Lexer.identifies_of_alike {word text : String} {span : Span} {tokens : List Token}
    {token : Token} (identifier : tokenize word = .ok [⟨.identifier, word, span⟩])
    (cut : tokenize text = .ok tokens) (there : token ∈ tokens)
    (alike : SpelledAlike token.text word) :
    token.kind = .identifier ∧ isNumber token.text = false := by
  have letters := (word_of_identifier identifier (List.mem_singleton_self _) rfl).1
  have isWord : TokenKind.identifier = wordKind word :=
    kind_eq_wordKind_of_tokenize identifier (List.mem_singleton_self _) letters
  have identifies : wordKind token.text = .identifier := by rw [alike.wordKind_eq, ← isWord]
  refine ⟨?_, isNumber_of_wordKind identifies⟩
  rw [kind_eq_wordKind_of_tokenize cut there (alike.isDelimiter_eq_false letters), identifies]

/-! ### Words that are reserved -/

namespace ReservedWords

/-- A word that is given is reserved in all of its spellings, also in lowercase, unless it
is blank. -/
theorem contains_lowercase_of_mem {words : List String} {word spelling : String}
    (listed : word ∈ words) (nonblank : Text.trim word ≠ "")
    (alike : SpelledAlike spelling (Text.trim word)) :
    (ofList words).contains (Text.lowercase spelling) = true := by
  have kept : Text.lowercase (Text.trim word) ∈ (ofList words).extra := by
    simp only [ofList, List.mem_filter, List.mem_map, bne_iff_ne]
    exact ⟨⟨word, listed, rfl⟩, Text.lowercase_ne_empty nonblank⟩
  rw [contains, Text.lowercase_lowercase, alike.lowercase_eq, Bool.or_eq_true]
  exact .inr (List.contains_iff_mem.mpr kept)

end ReservedWords

/-- What is reserved in lowercase is no value, unless it is a number. A forbidden sequence in
it is found first. -/
theorem Literal.ofText_of_reserved {reserved : ReservedWords} {text : String}
    (notNumber : isNumber text = false)
    (isReserved : reserved.contains (Text.lowercase text) = true) :
    ofText reserved text =
      .error ((forbiddenSequence? text).elim (.reservedWord (Text.lowercase text))
        .forbiddenSequence) := by
  simp only [ofText, notNumber, forbiddenSequence?_lowercase]
  cases forbiddenSequence? text with
  | none => simp [isReserved]
  | some sequence => rfl

end WhereClause
