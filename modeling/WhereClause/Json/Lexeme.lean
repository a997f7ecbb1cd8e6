/-
# Lexemes of a JSON text

A JSON text is cut into marks, strings, numbers and words, and the white space
between them is dropped. Where the text cannot be cut on, a last lexeme says so;
whether that matters depends on whether a reader of the lexemes gets that far.
-/

import WhereClause.Json.Number
import WhereClause.Json.Quoted

namespace WhereClause.Json

/-- A unit of a JSON text. -/
inductive Lexeme
  | openBrace
  | closeBrace
  | openBracket
  | closeBracket
  | colon
  | comma
  | string (text : String)
  | number (value : Number)
  | boolean (value : Bool)
  | null
  /-- Here the text is not JSON. Nothing of what follows is read. -/
  | broken
  deriving DecidableEq, Repr

/-- White space between lexemes: four characters of ASCII. -/
def isSpace (c : Char) : Bool :=
  c == ' ' || c == '\n' || c == '\t' || c == '\r'

/-- What follows a word at the beginning of a text. -/
def dropWord? (word text : List Char) : Option (List Char) :=
  if word.isPrefixOf text then some (text.drop word.length) else none

/-- Read the lexeme at the beginning of a text, answering it and what follows. -/
def readLexeme? (text : List Char) : Option (Lexeme × List Char) :=
  match text with
  | [] => none
  | '\x7b' :: rest => some (.openBrace, rest)
  | '\x7d' :: rest => some (.closeBrace, rest)
  | '[' :: rest => some (.openBracket, rest)
  | ']' :: rest => some (.closeBracket, rest)
  | ':' :: rest => some (.colon, rest)
  | ',' :: rest => some (.comma, rest)
  | '"' :: rest =>
    (readQuoted? [] rest).map fun (body, rest) => (.string (String.ofList body), rest)
  | 't' :: rest => (dropWord? "rue".toList rest).map (.boolean true, ·)
  | 'f' :: rest => (dropWord? "alse".toList rest).map (.boolean false, ·)
  | 'n' :: rest => (dropWord? "ull".toList rest).map (.null, ·)
  | _ => (Number.read? text).map fun (value, rest) => (.number value, rest)

theorem length_dropWord? {word text rest : List Char} (h : dropWord? word text = some rest) :
    rest.length ≤ text.length := by
  simp only [dropWord?, Option.ite_none_right_eq_some, Option.some.injEq] at h
  rw [← h.2]
  simp

/-- A lexeme takes at least one character. -/
theorem length_readLexeme? {text rest : List Char} {lexeme : Lexeme}
    (h : readLexeme? text = some (lexeme, rest)) : rest.length < text.length := by
  unfold readLexeme? at h
  split at h
  case h_1 => simp at h
  case h_8 =>
    simp only [Option.map_eq_some_iff, Prod.mk.injEq] at h
    obtain ⟨⟨_, _⟩, read, _, rfl⟩ := h
    have := length_readQuoted? read
    simp only [List.length_cons]
    omega
  case h_9 | h_10 | h_11 =>
    simp only [Option.map_eq_some_iff, Prod.mk.injEq] at h
    obtain ⟨_, read, _, rfl⟩ := h
    have := length_dropWord? read
    simp only [List.length_cons]
    omega
  case h_12 =>
    simp only [Option.map_eq_some_iff, Prod.mk.injEq] at h
    obtain ⟨⟨_, _⟩, read, _, rfl⟩ := h
    exact Number.length_read? read
  all_goals
    simp only [Option.some.injEq, Prod.mk.injEq] at h
    simp [← h.2]

/-- The lexemes of a text, after those of `done`, which stand in reverse. -/
def lexemesFrom (done : List Lexeme) (text : List Char) : List Lexeme :=
  match _visible : text.dropWhile isSpace with
  | [] => done.reverse
  | c :: rest =>
    match _step : readLexeme? (c :: rest) with
    | some (lexeme, after) => lexemesFrom (lexeme :: done) after
    | none => (.broken :: done).reverse
termination_by text.length
decreasing_by
  have taken := length_readLexeme? _step
  have skipped : (text.dropWhile isSpace).length ≤ text.length :=
    (List.dropWhile_suffix _).length_le
  rw [_visible] at skipped
  omega

/-- The lexemes of a text, in order. -/
def lexemes (text : String) : List Lexeme :=
  lexemesFrom [] text.toList

end WhereClause.Json
