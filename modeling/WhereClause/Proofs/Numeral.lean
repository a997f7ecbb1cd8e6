/-
# What numerals are made of

A numeral is an optional sign, digits, a point with digits, and an exponent with a
sign and digits of its own. So there is nothing in one that ends a word, and a numeral
spells no word that has any other letter in it, in either case.

The mark of the exponent is the only letter, and it may have either case. What a text
reads as does therefore not depend on the case of its letters.
-/

import Mathlib.Data.List.TakeWhile
import WhereClause.Numeral
import WhereClause.Proofs.Text.Spelling

namespace WhereClause

namespace Numeral

/-- A sign, or nothing. -/
def IsSign (sign : List Char) : Prop :=
  sign = [] ∨ sign = ['+'] ∨ sign = ['-']

/-- Digits, or nothing. -/
def IsDigits (digits : List Char) : Prop :=
  ∀ c ∈ digits, c.isDigit = true

/-- The exponent of a numeral with the mark in front of it, or nothing. -/
def IsExponent (digits written : List Char) : Prop :=
  written = [] ∨ ∃ mark sign, (mark = 'e' ∨ mark = 'E') ∧ IsSign sign ∧ digits ≠ [] ∧
    IsDigits digits ∧ written = mark :: (sign ++ digits)

/-- How a numeral is written: a sign, digits, a point with digits, and an exponent, where
at least one digit comes before the exponent. -/
structure Spells (n : Numeral) (text : List Char) : Prop where
  parts : ∃ sign point exponent, IsSign sign ∧
    (point = [] ∧ n.fraction = [] ∨ point = '.' :: n.fraction) ∧
    IsExponent n.exponent exponent ∧ text = sign ++ (n.whole ++ (point ++ exponent))
  whole : IsDigits n.whole
  fraction : IsDigits n.fraction
  nonempty : n.whole ≠ [] ∨ n.fraction ≠ []

/-- The first digits of a text. -/
theorem isDigits_takeWhile (cs : List Char) : IsDigits (cs.takeWhile Char.isDigit) :=
  fun _ there => List.mem_takeWhile_imp there

/-- Only a sign is lost when a sign is split off, and it is kept whether it was a minus. -/
theorem exists_sign (cs : List Char) : ∃ sign, IsSign sign ∧ cs = sign ++ (splitSign cs).2 ∧
    (splitSign cs).1 = decide (sign = ['-']) := by
  unfold splitSign
  split
  · exact ⟨['-'], .inr (.inr rfl), rfl, rfl⟩
  · exact ⟨['+'], .inr (.inl rfl), rfl, rfl⟩
  · exact ⟨[], .inl rfl, rfl, rfl⟩

/-- Only a point and digits are lost when a fraction is split off. -/
theorem exists_point (cs : List Char) :
    ∃ point, (point = [] ∧ (splitFraction cs).1 = [] ∨ point = '.' :: (splitFraction cs).1) ∧
      cs = point ++ (splitFraction cs).2 ∧ IsDigits (splitFraction cs).1 := by
  unfold splitFraction
  split
  · next rest =>
      refine ⟨'.' :: rest.takeWhile Char.isDigit, .inr rfl, ?_, isDigits_takeWhile rest⟩
      rw [List.cons_append, List.takeWhile_append_dropWhile]
  · exact ⟨[], .inl ⟨rfl, rfl⟩, rfl, by simp [IsDigits]⟩

/-- What reads as an exponent is one. -/
theorem isExponent_of_readExponent? {cs digits : List Char} {negative : Bool}
    (read : readExponent? cs = some (negative, digits)) : IsExponent digits cs := by
  cases cs with
  | nil => exact .inl rfl
  | cons mark rest =>
      obtain ⟨sign, isSign, split, -⟩ := exists_sign rest
      simp only [readExponent?] at read
      split at read
      · next marks =>
          split at read
          · cases read
          · next sound =>
              simp only [Bool.or_eq_true, Bool.not_eq_true', not_or, Bool.not_eq_false,
                List.isEmpty_iff, List.all_eq_true] at sound
              cases read
              exact .inr ⟨mark, sign, marks, isSign, sound.1, sound.2, by rw [← split]⟩
      · cases read

/-- What reads as a numeral is written as one. -/
theorem spells_of_read? {text : List Char} {n : Numeral} (read : read? text = some n) :
    n.Spells text := by
  obtain ⟨sign, isSign, signed, -⟩ := exists_sign text
  obtain ⟨point, isPoint, pointed, fraction⟩ :=
    exists_point ((splitSign text).2.dropWhile Char.isDigit)
  simp only [read?] at read
  split at read
  · cases read
  · next digit =>
      obtain ⟨⟨negative, digits⟩, readExponent, rfl⟩ := Option.map_eq_some_iff.mp read
      refine ⟨⟨sign, point, _, isSign, isPoint, isExponent_of_readExponent? readExponent, ?_⟩,
        isDigits_takeWhile _, fraction, ?_⟩
      · rw [← pointed, List.takeWhile_append_dropWhile, ← signed]
      · simp only [Bool.and_eq_true, List.isEmpty_iff] at digit
        exact Decidable.not_and_iff_or_not.mp digit

/-- Whether a character may stand in a numeral. -/
def isNumeralPart (c : Char) : Bool :=
  c.isDigit || c == '+' || c == '-' || c == '.' || c == 'e' || c == 'E'

/-- A text that reads as a numeral is made of the parts of numerals. -/
theorem isNumeralPart_of_read? {c : Char} {text : List Char} {numeral : Numeral}
    (read : read? text = some numeral) (there : c ∈ text) : isNumeralPart c = true := by
  obtain ⟨⟨sign, point, exponent, isSign, isPoint, isExponent, rfl⟩, whole, fraction, -⟩ :=
    spells_of_read? read
  have ofSign {sign : List Char} (isSign : IsSign sign) (there : c ∈ sign) :
      isNumeralPart c = true := by
    rcases isSign with rfl | rfl | rfl
    · cases there
    · obtain rfl := List.mem_singleton.mp there
      rfl
    · obtain rfl := List.mem_singleton.mp there
      rfl
  have ofDigits {digits : List Char} (isDigits : IsDigits digits) (there : c ∈ digits) :
      isNumeralPart c = true := by
    simp [isNumeralPart, isDigits c there]
  simp only [List.mem_append] at there
  rcases there with inSign | inWhole | inPoint | inExponent
  · exact ofSign isSign inSign
  · exact ofDigits whole inWhole
  · rcases isPoint with ⟨rfl, -⟩ | rfl
    · cases inPoint
    · rcases List.mem_cons.mp inPoint with rfl | later
      · rfl
      · exact ofDigits fraction later
  · rcases isExponent with rfl | ⟨mark, expSign, marks, isExpSign, -, digits, rfl⟩
    · cases inExponent
    · rcases List.mem_cons.mp inExponent with rfl | later
      · rcases marks with rfl | rfl <;> rfl
      · rcases List.mem_append.mp later with inExpSign | inDigits
        · exact ofSign isExpSign inExpSign
        · exact ofDigits digits inDigits

/-- A numeral begins with a sign, a digit or a point. -/
theorem head_of_read? {c : Char} {rest : List Char} {numeral : Numeral}
    (read : read? (c :: rest) = some numeral) :
    c = '+' ∨ c = '-' ∨ c.isDigit = true ∨ c = '.' := by
  obtain ⟨⟨sign, point, exponent, isSign, isPoint, -, split⟩, whole, -, nonempty⟩ :=
    spells_of_read? read
  rcases isSign with rfl | rfl | rfl
  · cases digits : numeral.whole with
    | cons first others =>
        rw [digits] at split whole
        obtain rfl := (List.cons.inj split).1
        exact .inr (.inr (.inl (whole c List.mem_cons_self)))
    | nil =>
        rcases isPoint with ⟨-, none⟩ | rfl
        · exact absurd none (nonempty.resolve_left (not_not_intro digits))
        · rw [digits] at split
          exact .inr (.inr (.inr (List.cons.inj split).1))
  · exact .inl (List.cons.inj split).1
  · exact .inr (.inl (List.cons.inj split).1)

/-- Nothing is no numeral. -/
theorem ne_nil_of_read? {text : List Char} {numeral : Numeral}
    (read : read? text = some numeral) : text ≠ [] := by
  rintro rfl
  cases read

/-- The parts of numerals are ASCII characters. -/
theorem ascii_of_isNumeralPart {c : Char} (part : isNumeralPart c = true) : c.toNat < 128 := by
  simp only [isNumeralPart, Char.isDigit, Bool.or_eq_true, Bool.and_eq_true, decide_eq_true_eq,
    beq_iff_eq, UInt32.le_iff_toNat_le, ge_iff_le] at part
  rcases part with ((((⟨-, least⟩ | rfl) | rfl) | rfl) | rfl) | rfl
  · exact Nat.lt_of_le_of_lt least (by decide)
  all_goals decide

/-- Lowercasing a numeral makes a numeral, at most with another mark of the exponent. -/
theorem isNumeralPart_of_mem_map_toLower {d : Char} {text : List Char} {numeral : Numeral}
    (read : read? text = some numeral) (there : d ∈ text.map Char.toLower) :
    isNumeralPart d = true := by
  obtain ⟨c, written, rfl⟩ := List.mem_map.mp there
  have part := isNumeralPart_of_read? read written
  have lowered : ∀ c : Char, c.toNat < 128 → isNumeralPart c = true →
      isNumeralPart c.toLower = true := Text.forall_ascii (by decide)
  exact lowered c (ascii_of_isNumeralPart part) part

/-! ### Numerals in another case -/

theorem isDigit_comp_toLower : Char.isDigit ∘ Char.toLower = Char.isDigit :=
  funext (Text.apply_toLower (by decide))

/-- Digits have no case. -/
theorem map_toLower_of_isDigits {digits : List Char} (isDigits : IsDigits digits) :
    digits.map Char.toLower = digits := by
  have unchanged : ∀ c : Char, c.toNat < 128 → c.isDigit = true → c.toLower = c :=
    Text.forall_ascii (by decide)
  have same : ∀ c ∈ digits, c.toLower = id c := by
    intro c there
    have digit := isDigits c there
    exact unchanged c (ascii_of_isNumeralPart (by rw [isNumeralPart, digit]; rfl)) digit
  rw [List.map_congr_left same, List.map_id]

theorem takeWhile_isDigit_map_toLower (cs : List Char) :
    (cs.map Char.toLower).takeWhile Char.isDigit = cs.takeWhile Char.isDigit := by
  rw [List.takeWhile_map, isDigit_comp_toLower]
  exact map_toLower_of_isDigits (isDigits_takeWhile cs)

theorem dropWhile_isDigit_map_toLower (cs : List Char) :
    (cs.map Char.toLower).dropWhile Char.isDigit =
      (cs.dropWhile Char.isDigit).map Char.toLower := by
  rw [List.dropWhile_map, isDigit_comp_toLower]

/-- A mark that is no letter has no case either. -/
theorem toLower_eq_iff {mark : Char}
    (ascii : ∀ code < 128, ((Char.ofNat code).toLower == mark) = (Char.ofNat code == mark))
    (c : Char) : c.toLower = mark ↔ c = mark := by
  have same : (c.toLower == mark) = (c == mark) := Text.apply_toLower (f := (· == mark)) ascii c
  rw [← beq_iff_eq, same, beq_iff_eq]

theorem splitSign_map_toLower (cs : List Char) :
    splitSign (cs.map Char.toLower) = ((splitSign cs).1, (splitSign cs).2.map Char.toLower) := by
  have divided (c : Char) (rest : List Char) : splitSign (c :: rest) =
      if c = '-' then (true, rest) else if c = '+' then (false, rest) else (false, c :: rest) := by
    unfold splitSign
    grind
  have minus {c : Char} : c.toLower = '-' ↔ c = '-' := toLower_eq_iff (by decide) c
  have plus {c : Char} : c.toLower = '+' ↔ c = '+' := toLower_eq_iff (by decide) c
  cases cs with
  | nil => rfl
  | cons c rest =>
      rw [List.map_cons, divided, divided]
      simp only [minus, plus]
      split
      · rfl
      · split <;> rfl

theorem splitFraction_map_toLower (cs : List Char) :
    splitFraction (cs.map Char.toLower) =
      ((splitFraction cs).1, (splitFraction cs).2.map Char.toLower) := by
  have divided (c : Char) (rest : List Char) : splitFraction (c :: rest) =
      if c = '.' then (rest.takeWhile Char.isDigit, rest.dropWhile Char.isDigit)
      else ([], c :: rest) := by
    unfold splitFraction
    grind
  have point {c : Char} : c.toLower = '.' ↔ c = '.' := toLower_eq_iff (by decide) c
  cases cs with
  | nil => rfl
  | cons c rest =>
      rw [List.map_cons, divided, divided]
      simp only [point]
      split
      · rw [takeWhile_isDigit_map_toLower, dropWhile_isDigit_map_toLower]
      · rfl

/-- An exponent has its mark in either case. -/
theorem readExponent?_map_toLower (cs : List Char) :
    readExponent? (cs.map Char.toLower) = readExponent? cs := by
  cases cs with
  | nil => rfl
  | cons c rest =>
      have isMark : (c.toLower == 'e' || c.toLower == 'E') = (c == 'e' || c == 'E') :=
        Text.apply_toLower (f := fun c => c == 'e' || c == 'E') (by decide) c
      have mark : (c.toLower = 'e' ∨ c.toLower = 'E') ↔ (c = 'e' ∨ c = 'E') := by
        rw [← beq_iff_eq, ← beq_iff_eq (b := 'E'), ← Bool.or_eq_true, isMark, Bool.or_eq_true,
          beq_iff_eq, beq_iff_eq]
      rw [List.map_cons]
      simp only [readExponent?, mark, splitSign_map_toLower, List.isEmpty_map, List.all_map,
        isDigit_comp_toLower]
      split
      · split
        · rfl
        · next sound =>
            simp only [Bool.or_eq_true, Bool.not_eq_true', not_or, Bool.not_eq_false,
              List.all_eq_true] at sound
            rw [map_toLower_of_isDigits sound.2]
      · rfl

/-- A text is the same numeral in either case. -/
theorem read?_map_toLower (text : List Char) : read? (text.map Char.toLower) = read? text := by
  simp only [read?, splitSign_map_toLower, takeWhile_isDigit_map_toLower,
    dropWhile_isDigit_map_toLower, splitFraction_map_toLower, readExponent?_map_toLower]

end Numeral

/-- The spellings of a word are numbers or none of them is. -/
theorem Text.SpelledAlike.isNumber_eq {text other : String} (alike : SpelledAlike text other) :
    isNumber text = isNumber other := by
  rw [isNumber, isNumber, ← Numeral.read?_map_toLower, alike, Numeral.read?_map_toLower]

end WhereClause
