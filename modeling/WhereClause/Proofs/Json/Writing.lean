/-
# Values that can be written

Every value has a text that writes it, so what is read of texts is not about some values only.
A string may be written with few escapes, and a natural number with its decimal digits.
-/

import WhereClause.Proofs.Json.Lexeme

namespace WhereClause.Json

/-! ### Strings -/

theorem isHexDigit_digitChar {value : ℕ} (small : value < 16) : IsHexDigit value.digitChar value :=
  ⟨small, .inl rfl⟩

/-- A character of the basic plane has one code unit. -/
theorem SpellsUnit.spellsChar {c : Char} {text : List Char} (spelled : SpellsUnit c.toNat text)
    (basic : c.toNat < 0x10000) : SpellsChar c text := by
  have units : List.Forall₂ SpellsUnit (codeUnits c) [text] := by
    rw [codeUnits, if_pos basic]
    exact .cons spelled .nil
  rw [← List.flatten_singleton (l := text)]
  exact .units units

/-- The escapes that the writer uses are among those that a character has. -/
theorem spellsChar_writtenChar (c : Char) : SpellsChar c (writtenChar c) := by
  unfold writtenChar
  split
  case h_8 notQuote notBackslash _ _ _ _ _ =>
    split
    · next control =>
        have zero : IsHexDigit '0' 0 := isHexDigit_digitChar (by decide)
        have third : c.toNat / 16 < 16 := by omega
        have fourth : c.toNat % 16 < 16 := by omega
        have escape := SpellsUnit.escape zero zero (isHexDigit_digitChar third)
          (isHexDigit_digitChar fourth)
        have number : ((0 * 16 + 0) * 16 + c.toNat / 16) * 16 + c.toNat % 16 = c.toNat := by omega
        rw [number] at escape
        exact escape.spellsChar (by omega)
    · next visible => exact .plain (by omega) notQuote notBackslash
  all_goals exact .short (by decide)

theorem spellsChars_flatMap (cs : List Char) : SpellsChars cs (cs.flatMap writtenChar) := by
  induction cs with
  | nil => exact .nil
  | cons c cs ih => exact .cons (spellsChar_writtenChar c) ih

/-- What is written as a string is a string with the text. -/
theorem spellsString_written (text : String) : SpellsString text (written text).toList := by
  rw [written, String.toList_ofList, List.cons_append]
  exact .quoted (spellsChars_flatMap text.toList)

/-- A character that needs no escape. -/
def isPlain (c : Char) : Bool :=
  0x20 ≤ c.toNat && c != '"' && c != '\\'

/-- Characters that need no escape may stand for themselves. -/
theorem spellsChars_self {cs : List Char} (plain : cs.all isPlain = true) : SpellsChars cs cs := by
  induction cs with
  | nil => exact .nil
  | cons c cs ih =>
      rw [List.all_cons, Bool.and_eq_true] at plain
      have first := plain.1
      simp only [isPlain, Bool.and_eq_true, decide_eq_true_eq, bne_iff_ne, and_assoc] at first
      exact .cons (.plain first.1 first.2.1 first.2.2) (ih plain.2)

theorem spellsString_self {text : String} (plain : text.toList.all isPlain = true) :
    SpellsString text ('"' :: (text.toList ++ ['"'])) :=
  .quoted (spellsChars_self plain)

/-! ### Natural numbers -/

theorem natural_toDigits (n : ℕ) : Numeral.natural (Nat.toDigits 10 n) = n := by
  rw [← Numeral.digitsValue_eq_natural]
  exact Nat.ofDigitChars_toDigits (by decide) (by decide)

/-- Only zero begins with zero. -/
theorem eq_zero_of_head?_toDigits {n : ℕ} (zero : (Nat.toDigits 10 n).head? = some '0') :
    n = 0 := by
  induction n using Nat.strongRecOn with
  | ind n ih =>
      rw [Nat.toDigits_eq_if (by decide)] at zero
      split at zero
      · exact Nat.digitChar_eq_zero.mp (Option.some.inj zero)
      · next large =>
          rw [List.head?_append_of_ne_nil _ Nat.toDigits_ne_nil] at zero
          have tenth := ih (n / 10) (by omega) zero
          omega

/-- The decimal digits of a number are an integer. -/
theorem isWhole_toDigits (n : ℕ) : IsWhole (Nat.toDigits 10 n) := by
  refine ⟨Nat.toDigits_ne_nil, fun c there => Nat.isDigit_of_mem_toDigits (by decide) (by decide)
    there, fun zero => ?_⟩
  rw [eq_zero_of_head?_toDigits zero]
  rfl

/-- A natural number in decimal digits. -/
def Figure.ofNat (n : ℕ) : Figure where
  text := Nat.toDigits 10 n
  isNumber := by
    have written := IsNumber.number (.inl rfl) (isWhole_toDigits n) (.inl rfl) .missing
    simpa using written

theorem isNatural_ofNat (n : UInt64) : (Value.number (.ofNat n.toNat)).IsNatural n :=
  ⟨_, rfl, isWhole_toDigits n.toNat, natural_toDigits n.toNat⟩

/-! ### Values -/

theorem exists_separated {α : Type} {Spells : α → List Char → Prop} {items : List α}
    (item : ∀ item ∈ items, ∃ text, Spells item text) : ∃ text, Separated Spells items text := by
  induction items with
  | nil => exact ⟨[], .nothing isSpaces_nil⟩
  | cons first items ih =>
      obtain ⟨⟨text, spelled⟩, others⟩ := List.forall_mem_cons.mp item
      obtain ⟨rest, separated⟩ := ih others
      cases items with
      | nil => exact ⟨_, .last isSpaces_nil spelled isSpaces_nil⟩
      | cons =>
          exact ⟨_, .more isSpaces_nil spelled isSpaces_nil (List.cons_ne_nil _ _) separated⟩

/-- Every value can be written. -/
theorem Value.exists_spells (value : Value) : ∃ text, value.Spells text := by
  cases value with
  | null => exact ⟨_, .null⟩
  | boolean value =>
      cases value with
      | true => exact ⟨_, .true⟩
      | false => exact ⟨_, .false⟩
  | number figure => exact ⟨_, .number figure⟩
  | string text => exact ⟨_, .string (spellsString_written text)⟩
  | array elements =>
      obtain ⟨_, spelled⟩ := exists_separated fun element (there : element ∈ elements) =>
        element.exists_spells
      exact ⟨_, .array spelled⟩
  | object members =>
      have spelled (member : String × Value) (there : member ∈ members) :
          ∃ text, SpellsMember Spells member text := by
        obtain ⟨_, spelled⟩ := member.2.exists_spells
        exact ⟨_, .member (spellsString_written member.1) isSpaces_nil isSpaces_nil spelled⟩
      obtain ⟨_, separated⟩ := exists_separated spelled
      exact ⟨_, .object separated⟩
termination_by sizeOf value
decreasing_by
  · exact sizeOf_element_lt ‹_›
  · exact sizeOf_member_lt ‹_›

end WhereClause.Json
