/-
# Names in their normal form

A word that names a field is brought into snake case, and what comes out is a name that is
already in snake case. This is said here without the functions that do it: an underscore goes
between every two neighbours of which the first is a small letter or a digit and the second a
capital, wherever they stand, and then the whole is lowercased. Letters and digits are those of
ASCII, although the word can be any text.

Apart from underscores nothing happens to a name but that it is lowercased, and a name in normal
form stays as it is, whatever words are reserved.
-/

import WhereClause.Proofs.Field
import WhereClause.Proofs.Text.Spelling

namespace WhereClause.Field

/-- A capital letter of ASCII. -/
def IsCapital (c : Char) : Prop :=
  'A' ≤ c ∧ c ≤ 'Z'

/-- A small letter of ASCII. -/
def IsSmall (c : Char) : Prop :=
  'a' ≤ c ∧ c ≤ 'z'

/-- A digit of ASCII. -/
def IsFigure (c : Char) : Prop :=
  '0' ≤ c ∧ c ≤ '9'

/-- A capital that stands behind a small letter or a digit. -/
def Hump (before after : Char) : Prop :=
  (IsSmall before ∨ IsFigure before) ∧ IsCapital after

instance (before after : Char) : Decidable (Hump before after) :=
  inferInstanceAs (Decidable (((_ ∧ _) ∨ (_ ∧ _)) ∧ (_ ∧ _)))

/-- A text with an underscore between every two neighbours that make a hump: each character
comes with one if it makes a hump with the next. -/
def underscored (cs : List Char) : List Char :=
  (cs.zip (cs.tail.map some ++ [none])).flatMap fun (c, next) =>
    if next.any fun after => Hump c after then [c, '_'] else [c]

/-- A name with these letters: a letter or an underscore, and then letters, underscores and
digits. -/
def IsMade (letter : Char → Prop) (name : List Char) : Prop :=
  ∃ first rest, name = first :: rest ∧ (letter first ∨ first = '_') ∧
    ∀ c ∈ rest, letter c ∨ c = '_' ∨ IsFigure c

/-! ### The classes of the core library -/

theorem isUpper_iff {c : Char} : c.isUpper = true ↔ IsCapital c :=
  decide_eq_true_iff

theorem isLower_iff {c : Char} : c.isLower = true ↔ IsSmall c :=
  Bool.and_eq_true_iff.trans (and_congr decide_eq_true_iff decide_eq_true_iff)

theorem isDigit_iff {c : Char} : c.isDigit = true ↔ IsFigure c :=
  Bool.and_eq_true_iff.trans (and_congr decide_eq_true_iff decide_eq_true_iff)

theorem isHump_iff {before after : Char} : isHump before after = true ↔ Hump before after := by
  rw [isHump, Bool.and_eq_true, Bool.or_eq_true, isUpper_iff, isLower_iff, isDigit_iff]
  rfl

/-- A word that is made like a name has letters of both cases. -/
theorem isName_iff {name : List Char} :
    isName name = true ↔ IsMade (fun c => IsCapital c ∨ IsSmall c) name := by
  have part (c : Char) :
      isNamePart c = true ↔ (IsCapital c ∨ IsSmall c) ∨ c = '_' ∨ IsFigure c := by
    simp only [isNamePart, Char.isAlphanum, Bool.or_eq_true, isAlpha_iff, isUpper_iff,
      isLower_iff, isDigit_iff, beq_iff_eq]
    rw [or_assoc, or_comm (b := c = '_')]
  cases name with
  | nil => simp [isName, IsMade]
  | cons c rest =>
      simp [isName, IsMade, isNameStart, part, isAlpha_iff, isUpper_iff, isLower_iff]

/-- A name in snake case has small letters only. -/
theorem isSnakeName_iff {name : List Char} :
    isSnakeName name = true ↔ IsMade IsSmall name := by
  cases name with
  | nil => simp [isSnakeName, IsMade]
  | cons c rest =>
      simp [isSnakeName, IsMade, isSnakeStart, isSnakePart, isLower_iff, isDigit_iff, or_assoc]

/-! ### The humps -/

/-- Each character behind the first decides what is put in front of it, and so each character
but the last what is put behind it. -/
theorem cons_humpsAfter (c : Char) (rest : List Char) :
    c :: humpsAfter c rest = underscored (c :: rest) := by
  induction rest generalizing c with
  | nil => rfl
  | cons d rest ih =>
      have step : underscored (c :: d :: rest) =
          (if Hump c d then [c, '_'] else [c]) ++ underscored (d :: rest) := by
        simp [underscored]
      rw [step, ← ih, humpsAfter]
      by_cases hump : Hump c d
      · rw [if_pos hump, if_pos (isHump_iff.mpr hump)]
        rfl
      · rw [if_neg hump, if_neg (fun found => hump (isHump_iff.mp found))]
        rfl

/-- What is set apart are the humps, all of them and nothing else. -/
theorem separateHumps_eq_underscored (cs : List Char) : separateHumps cs = underscored cs := by
  cases cs with
  | nil => rfl
  | cons c rest => rw [separateHumps_cons, cons_humpsAfter]

/-! ### Underscores left out -/

/-- Lowercasing neither makes nor changes an underscore. -/
theorem filter_map_toLower (cs : List Char) :
    (cs.map Char.toLower).filter (· ≠ '_') = (cs.filter (· ≠ '_')).map Char.toLower := by
  have kept : (fun c => decide (c ≠ '_')) ∘ Char.toLower = fun c => decide (c ≠ '_') := by
    funext c
    exact Text.apply_toLower (f := fun c => decide (c ≠ '_')) (by decide) c
  rw [List.filter_map, kept]

/-- A word that is made like a name is lowercased one character at a time. -/
theorem toList_lowercase {word : String} (name : isName word.toList = true) :
    (Text.lowercase word).toList = word.toList.map Char.toLower := by
  have ascii : ∀ c ∈ word.toList, c.toNat < 128 := fun c there =>
    ascii_of_isNamePart (isNamePart_of_mem name c there)
  rw [Text.lowercase, String.toList_ofList, Text.lowercaseChars_of_ascii ascii]

/-- But for its underscores, the snake case form of a word that is made like a name is the word
in lowercase. -/
theorem filter_snakeCase {word : String} (name : isName word.toList = true) :
    (snakeCase word).toList.filter (· ≠ '_') =
      (Text.lowercase word).toList.filter (· ≠ '_') := by
  rw [toList_lowercase name]
  cases spelled : word.toList with
  | nil => simp [spelled, isName] at name
  | cons c rest =>
      rw [toList_snakeCase spelled name, ← List.map_cons, filter_map_toLower, filter_map_toLower]
      simp only [List.filter_cons, filter_humpsAfter]

/-! ### The normal form -/

/-- The snake case form of a text is the text with underscores in its humps and then in
lowercase, whatever characters it has. A word names a field exactly if it is made like a name
and this form of it is neither reserved nor a literal, and the form is then the name: it is a
name without capitals, it is the word in lowercase but for underscores, and as a word it names
the same field. -/
theorem ofName_normalizes (reserved : ReservedWords) (word : String) :
    snakeCase word = Text.lowercase (String.ofList (underscored word.toList)) ∧
    (∀ field, ofName reserved word = .ok field ↔
      IsMade (fun c => IsCapital c ∨ IsSmall c) word.toList ∧
      reserved.contains (snakeCase word) = false ∧
      snakeCase word ∉ ["true", "false", "null"] ∧
      field = ⟨snakeCase word⟩) ∧
    ∀ field, ofName reserved word = .ok field →
      IsMade IsSmall field.name.toList ∧
      field.name.toList.filter (· ≠ '_') = (Text.lowercase word).toList.filter (· ≠ '_') ∧
      ofName reserved field.name = .ok field := by
  refine ⟨?_, fun field => ?_, fun field named => ?_⟩
  · rw [snakeCase, Text.lowercase, String.toList_ofList, separateHumps_eq_underscored]
  · rw [ofName_eq_ok_iff, isName_iff]
    rfl
  · obtain ⟨name, notReserved, notLiteral, rfl⟩ := ofName_eq_ok_iff.mp named
    have snake := isSnakeName_snakeCase name
    have same := snakeCase_of_isSnakeName snake
    refine ⟨isSnakeName_iff.mp snake, filter_snakeCase name, ofName_eq_ok_iff.mpr ?_⟩
    refine ⟨isName_of_isSnakeName snake, ?_, ?_, ?_⟩
    · rw [same, notReserved]
    · rwa [same]
    · rw [same]

/-- Three humps with nothing between them. What is reserved is the word as it is spelled, which
is not the name. -/
theorem ofName_normalizes_adjacent_humps :
    let reserved := ReservedWords.ofList ["ABCD9E"]
    ofName reserved "aBcD9E" = .ok ⟨"a_bc_d9_e"⟩ ∧
    IsMade IsSmall "a_bc_d9_e".toList ∧
    "a_bc_d9_e".toList.filter (· ≠ '_') = (Text.lowercase "aBcD9E").toList.filter (· ≠ '_') ∧
    ofName reserved "a_bc_d9_e" = .ok ⟨"a_bc_d9_e"⟩ := by
  have named : ofName (ReservedWords.ofList ["ABCD9E"]) "aBcD9E" = .ok ⟨"a_bc_d9_e"⟩ := by
    decide +kernel
  exact ⟨named, (ofName_normalizes _ _).2.2 _ named⟩

end WhereClause.Field
