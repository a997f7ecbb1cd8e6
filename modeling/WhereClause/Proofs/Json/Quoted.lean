/-
# Reading strings

Whatever escapes a string is written with, the characters that it writes are read, and the
reader stops behind the closing quote.
-/

import WhereClause.Proofs.Json.Grammar

namespace WhereClause.Json

/-! ### Escapes by number -/

theorem hexDigit?_of_isHexDigit {c : Char} {value : ℕ} (digit : IsHexDigit c value) :
    hexDigit? c = some value := by
  have checked : ∀ value < 16, hexDigit? (Nat.digitChar value) = some value ∧
      hexDigit? (Nat.digitChar value).toUpper = some value := by decide
  obtain ⟨small, rfl | rfl⟩ := digit
  · exact (checked value small).1
  · exact (checked value small).2

/-- The four digits of an escape by number are read as the number. -/
theorem SpellsUnit.hexUnit? {unit : ℕ} {text : List Char} (spelled : SpellsUnit unit text) :
    ∃ a b c d, text = ['\\', 'u', a, b, c, d] ∧ Json.hexUnit? a b c d = some unit := by
  cases spelled with
  | @escape a b c d _ _ _ _ first second third fourth =>
      refine ⟨a, b, c, d, rfl, ?_⟩
      rw [Json.hexUnit?, hexDigit?_of_isHexDigit first, hexDigit?_of_isHexDigit second,
        hexDigit?_of_isHexDigit third, hexDigit?_of_isHexDigit fourth]
      rfl

/-- A number that is no half of a pair is an escape of its own, whatever comes behind it. -/
theorem readEscape?_single {a b c d character : Char} {unit : ℕ} {rest : List Char}
    (digits : Json.hexUnit? a b c d = some unit) (single : singleUnit? unit = some character) :
    readEscape? ('u' :: a :: b :: c :: d :: rest) = some (character, rest) := by
  unfold readEscape?
  split
  · next same =>
      simp only [List.cons.injEq, true_and] at same
      obtain ⟨rfl, rfl, rfl, rfl, rfl⟩ := same
      simp [digits, single]
  · next same =>
      simp only [List.cons.injEq, true_and] at same
      obtain ⟨rfl, rfl, rfl, rfl, rfl⟩ := same
      simp [digits, single]
  · next short long same =>
      obtain ⟨rfl, rfl⟩ := List.cons.inj same
      exact absurd rfl (long a b c d rest rfl)
  · next empty => cases empty

/-- Two halves make one escape. -/
theorem readEscape?_pair {a b c d e f g h character : Char} {high low : ℕ} {rest : List Char}
    (first : Json.hexUnit? a b c d = some high) (second : Json.hexUnit? e f g h = some low)
    (half : singleUnit? high = none) (pair : unitPair? high low = some character) :
    readEscape? ('u' :: a :: b :: c :: d :: '\\' :: 'u' :: e :: f :: g :: h :: rest) =
      some (character, rest) := by
  simp [readEscape?, first, second, half, pair]

/-- The code units of a character, read as escapes by number, give the character. -/
theorem readEscape?_units {c : Char} {escapes : List (List Char)}
    (spelled : List.Forall₂ SpellsUnit (codeUnits c) escapes) (rest : List Char) :
    ∃ text, escapes.flatten ++ rest = '\\' :: text ∧ readEscape? text = some (c, rest) := by
  have valid := c.valid
  have code : c.val.toNat = c.toNat := rfl
  rw [UInt32.isValidChar, Nat.isValidChar, code] at valid
  unfold codeUnits at spelled
  split at spelled
  · next basic =>
      obtain ⟨text, _, unit, nothing, rfl⟩ := List.forall₂_cons_left_iff.mp spelled
      obtain rfl := List.forall₂_nil_left_iff.mp nothing
      obtain ⟨i, j, k, l, rfl, digits⟩ := unit.hexUnit?
      refine ⟨'u' :: i :: j :: k :: l :: rest, rfl, readEscape?_single digits ?_⟩
      rw [singleUnit?, if_neg (by omega), Char.ofNat_toNat]
  · next beyond =>
      obtain ⟨text, _, high, others, rfl⟩ := List.forall₂_cons_left_iff.mp spelled
      obtain ⟨text', _, low, nothing, rfl⟩ := List.forall₂_cons_left_iff.mp others
      obtain rfl := List.forall₂_nil_left_iff.mp nothing
      obtain ⟨i, j, k, l, rfl, first⟩ := high.hexUnit?
      obtain ⟨m, n, o, p, rfl, second⟩ := low.hexUnit?
      refine ⟨_, rfl, readEscape?_pair first second ?_ ?_⟩
      · rw [singleUnit?, if_pos (by omega)]
      · rw [unitPair?, if_pos (by omega)]
        have whole : 0x10000 + (0xd800 + (c.toNat - 0x10000) / 0x400 - 0xd800) * 0x400 +
            (0xdc00 + (c.toNat - 0x10000) % 0x400 - 0xdc00) = c.toNat := by omega
        rw [whole, Char.ofNat_toNat]

/-! ### Strings -/

theorem readEscape?_short {mark c : Char} (listed : (mark, c) ∈ shortEscapes)
    (rest : List Char) : readEscape? (mark :: rest) = some (c, rest) := by
  simp only [shortEscapes, List.mem_cons, Prod.mk.injEq, List.not_mem_nil, or_false] at listed
  rcases listed with h | h | h | h | h | h | h | h <;> obtain ⟨rfl, rfl⟩ := h <;> rfl

theorem readQuoted?_escape {done text after : List Char} {c : Char}
    (read : readEscape? text = some (c, after)) :
    readQuoted? done ('\\' :: text) = readQuoted? (c :: done) after := by
  rw [readQuoted?]
  split
  · next step =>
      rw [read] at step
      cases step
      rfl
  · next step =>
      rw [read] at step
      cases step

/-- A character is read in whatever way it is written. -/
theorem SpellsChar.readQuoted? {c : Char} {written : List Char} (spelled : SpellsChar c written)
    (done rest : List Char) :
    Json.readQuoted? done (written ++ rest) = Json.readQuoted? (c :: done) rest := by
  cases spelled with
  | plain visible notQuote notBackslash =>
      rw [List.singleton_append, Json.readQuoted?, if_neg (Nat.not_lt.mpr visible)]
      · exact notQuote
      · exact notBackslash
  | short listed => exact readQuoted?_escape (readEscape?_short listed rest)
  | units spelled =>
      obtain ⟨text, split, read⟩ := readEscape?_units spelled rest
      rw [split]
      exact readQuoted?_escape read

/-- So are all characters of a string, up to the quote behind them. -/
theorem SpellsChars.readQuoted? {cs body : List Char} (spelled : SpellsChars cs body)
    (done rest : List Char) :
    Json.readQuoted? done (body ++ '"' :: rest) = some (done.reverse ++ cs, rest) := by
  induction spelled generalizing done with
  | nil => simp [Json.readQuoted?]
  | cons first _ ih =>
      rw [List.append_assoc, first.readQuoted?, ih, List.reverse_cons, List.append_assoc]
      rfl

end WhereClause.Json
