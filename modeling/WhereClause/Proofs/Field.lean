/-
# What field names look like

A field name is made of small ASCII letters, digits and underscores and does not
begin with a digit, whatever word it was made from. Being lowercase already, it is
the form in which reserved words are compared, so no field has a reserved name.

Setting the humps of a word apart is restated from the front: after the first
character, each character brings an underscore with it or not, depending on the
one before. That the search for humps goes on behind each one that it finds makes
no difference, because no two humps have a character in common.
-/

import Mathlib.Data.List.Chain
import WhereClause.Field
import WhereClause.Proofs.Text.Lowercase

namespace WhereClause.Field

/-- A small letter or an underscore. -/
def isSnakeStart (c : Char) : Bool :=
  c.isLower || c == '_'

/-- A small letter, an underscore or a digit. -/
def isSnakePart (c : Char) : Bool :=
  isSnakeStart c || c.isDigit

/-- Whether a list of characters is a name in snake case. -/
def isSnakeName : List Char → Bool
  | [] => false
  | c :: rest => isSnakeStart c && rest.all isSnakePart

/-- The characters of a word after the first of them, which is `before`, each with
the underscore that sets it apart. -/
def humpsAfter (before : Char) : List Char → List Char
  | [] => []
  | c :: rest => (if isHump before c then ['_', c] else [c]) ++ humpsAfter c rest

/-- A capital is neither a small letter nor a digit. -/
theorem not_small_of_isUpper {c : Char} (capital : c.isUpper = true) :
    c.isLower = false ∧ c.isDigit = false := by
  have among : ∀ c : Char, c.toNat < 128 → c.isUpper = true →
      c.isLower = false ∧ c.isDigit = false := Text.forall_ascii (by decide)
  have last : c.val ≤ 'Z'.val := (of_decide_eq_true capital).2
  exact among c (Text.ascii_of_le last (by decide)) capital

/-- Humps do not overlap: the second character of one is a capital, and so not the first of
another. -/
theorem isHump_of_isHump {before c : Char} (hump : isHump before c = true) (after : Char) :
    isHump c after = false := by
  rw [isHump, Bool.and_eq_true] at hump
  obtain ⟨notSmall, notDigit⟩ := not_small_of_isUpper hump.2
  rw [isHump, notSmall, notDigit, Bool.or_false, Bool.false_and]

/-- No hump is missed by going on behind the one that was found. -/
theorem separateHumpsFrom_cons {done cs rest : List Char} {c : Char} (spelled : cs = c :: rest) :
    separateHumpsFrom done cs = done.reverse ++ c :: humpsAfter c rest := by
  fun_induction separateHumpsFrom done cs generalizing c rest with
  | case1 => cases spelled
  | case2 done last =>
      cases spelled
      simp [humpsAfter]
  | case3 done before d rest hump ih =>
      cases spelled
      rw [humpsAfter, if_pos hump]
      cases rest with
      | nil => simp [separateHumpsFrom, humpsAfter]
      | cons e rest =>
          rw [ih rfl, humpsAfter, isHump_of_isHump hump]
          simp
  | case4 done before d rest noHump ih =>
      cases spelled
      rw [humpsAfter, if_neg noHump, ih rfl]
      simp

/-- The first character stays in front. -/
theorem separateHumps_cons (c : Char) (rest : List Char) :
    separateHumps (c :: rest) = c :: humpsAfter c rest :=
  separateHumpsFrom_cons rfl

/-- Nothing but underscores is put between the characters. -/
theorem filter_humpsAfter (before : Char) (cs : List Char) :
    (humpsAfter before cs).filter (· ≠ '_') = cs.filter (· ≠ '_') := by
  induction cs generalizing before with
  | nil => rfl
  | cons c rest ih =>
      have piece : (if isHump before c then ['_', c] else [c]).filter (· ≠ '_') =
          [c].filter (· ≠ '_') := by
        split
        · rfl
        · rfl
      rw [humpsAfter, List.filter_append, piece, ih, ← List.filter_append,
        List.singleton_append]

/-- The characters are those of the word, and underscores. -/
theorem mem_humpsAfter {before c : Char} {cs : List Char} (there : c ∈ humpsAfter before cs) :
    c ∈ cs ∨ c = '_' := by
  by_cases underscore : c = '_'
  · exact .inr underscore
  · have kept : c ∈ (humpsAfter before cs).filter (· ≠ '_') :=
      List.mem_filter.mpr ⟨there, decide_eq_true underscore⟩
    rw [filter_humpsAfter] at kept
    exact .inl (List.mem_filter.mp kept).1

/-- A word without an underscore after its humps are set apart had no humps. -/
theorem humpsAfter_eq_self {before : Char} {cs : List Char}
    (none : '_' ∉ humpsAfter before cs) : humpsAfter before cs = cs := by
  induction cs generalizing before with
  | nil => rfl
  | cons c rest ih =>
      rw [humpsAfter] at none ⊢
      split at none
      · simp at none
      · next noHump =>
          rw [if_neg noHump]
          simp only [List.singleton_append, List.mem_cons, not_or] at none ⊢
          rw [ih none.2]

/-- No capital stands right behind a small letter or a digit. -/
def Humpless (cs : List Char) : Prop :=
  cs.IsChain fun before c => isHump before c = false

instance (cs : List Char) : Decidable (Humpless cs) :=
  inferInstanceAs (Decidable (cs.IsChain _))

/-- Where there are no humps nothing is set apart. -/
theorem separateHumps_of_humpless {cs : List Char} (humpless : Humpless cs) :
    separateHumps cs = cs := by
  have kept {before : Char} {cs : List Char} (humpless : Humpless (before :: cs)) :
      humpsAfter before cs = cs := by
    induction cs generalizing before with
    | nil => rfl
    | cons c rest ih =>
        obtain ⟨noHump, others⟩ := List.isChain_cons_cons.mp humpless
        rw [humpsAfter, noHump, ih others]
        rfl
  cases cs with
  | nil => rfl
  | cons c rest => rw [separateHumps_cons, kept humpless]

/-- A word without humps is in snake case when it is in lowercase. -/
theorem snakeCase_of_humpless {word : String} (humpless : Humpless word.toList) :
    snakeCase word = Text.lowercase word := by
  rw [snakeCase, separateHumps_of_humpless humpless, Text.lowercase]

/-- A letter is a capital or a small one. -/
theorem isAlpha_iff {c : Char} : c.isAlpha = true ↔ c.isUpper = true ∨ c.isLower = true := by
  show (c.isUpper || c.isLower) = true ↔ _
  rw [Bool.or_eq_true]

/-- The characters of a field name are ASCII characters. -/
theorem ascii_of_isNamePart {c : Char} (part : isNamePart c = true) : c.toNat < 128 := by
  rw [isNamePart, Char.isAlphanum, Bool.or_eq_true, Bool.or_eq_true, isAlpha_iff,
    beq_iff_eq] at part
  rcases part with ((capital | small) | digit) | rfl
  · have last : c.val ≤ 'Z'.val := (of_decide_eq_true capital).2
    exact Text.ascii_of_le last (by decide)
  · have last : c.val ≤ 'z'.val := of_decide_eq_true ((Bool.and_eq_true_iff.mp small).2)
    exact Text.ascii_of_le last (by decide)
  · have last : c.val ≤ '9'.val := of_decide_eq_true ((Bool.and_eq_true_iff.mp digit).2)
    exact Text.ascii_of_le last (by decide)
  · decide

theorem isNamePart_of_isNameStart {c : Char} (start : isNameStart c = true) :
    isNamePart c = true := by
  simp only [isNameStart, isNamePart, Char.isAlphanum, Bool.or_eq_true] at start ⊢
  rcases start with letter | underscore
  · exact .inl (.inl letter)
  · exact .inr underscore

/-- All characters of a word that is made like a name are such. -/
theorem isNamePart_of_mem {name : List Char} (made : isName name = true) :
    ∀ c ∈ name, isNamePart c = true := by
  cases name with
  | nil => simp
  | cons first rest =>
      rw [isName, Bool.and_eq_true] at made
      intro c there
      rcases List.mem_cons.mp there with rfl | later
      · exact isNamePart_of_isNameStart made.1
      · exact List.all_eq_true.mp made.2 c later

/-- Lowercasing takes the characters of names to those of names in snake case. -/
theorem isSnakePart_toLower {c : Char} (part : isNamePart c = true) :
    isSnakePart c.toLower = true := by
  have lowered : ∀ c : Char, c.toNat < 128 → isNamePart c = true → isSnakePart c.toLower = true :=
    Text.forall_ascii (by decide)
  exact lowered c (ascii_of_isNamePart part) part

theorem isSnakeStart_toLower {c : Char} (start : isNameStart c = true) :
    isSnakeStart c.toLower = true := by
  have lowered : ∀ c : Char, c.toNat < 128 → isNameStart c = true →
      isSnakeStart c.toLower = true := Text.forall_ascii (by decide)
  exact lowered c (ascii_of_isNamePart (isNamePart_of_isNameStart start)) start

/-- The characters of a word whose humps are set apart are those of names. -/
theorem isNamePart_of_mem_humpsAfter {before c : Char} {cs : List Char}
    (parts : cs.all isNamePart = true) (there : c ∈ humpsAfter before cs) :
    isNamePart c = true := by
  rcases mem_humpsAfter there with old | rfl
  · exact List.all_eq_true.mp parts c old
  · decide

/-- The snake case form of a word that is made like a name, one character at a time. -/
theorem toList_snakeCase {word : String} {c : Char} {rest : List Char}
    (spelled : word.toList = c :: rest) (name : isName word.toList = true) :
    (snakeCase word).toList = c.toLower :: (humpsAfter c rest).map Char.toLower := by
  rw [spelled, isName, Bool.and_eq_true] at name
  have ascii : ∀ d ∈ c :: humpsAfter c rest, d.toNat < 128 := by
    intro d there
    rcases List.mem_cons.mp there with rfl | later
    · exact ascii_of_isNamePart (isNamePart_of_isNameStart name.1)
    · exact ascii_of_isNamePart (isNamePart_of_mem_humpsAfter name.2 later)
  rw [snakeCase, String.toList_ofList, spelled, separateHumps_cons,
    Text.lowercaseChars_of_ascii ascii, List.map_cons]

/-- A word that is made like a name becomes a name in snake case. -/
theorem isSnakeName_snakeCase {word : String} (name : isName word.toList = true) :
    isSnakeName (snakeCase word).toList = true := by
  cases spelled : word.toList with
  | nil => simp [spelled, isName] at name
  | cons c rest =>
      rw [toList_snakeCase spelled name, isSnakeName, Bool.and_eq_true]
      rw [spelled, isName, Bool.and_eq_true] at name
      refine ⟨isSnakeStart_toLower name.1, List.all_eq_true.mpr fun d there => ?_⟩
      obtain ⟨e, old, rfl⟩ := List.mem_map.mp there
      exact isSnakePart_toLower (isNamePart_of_mem_humpsAfter name.2 old)

/-- A word whose snake case form has no underscore has no humps, so that the form is the
word in lowercase. -/
theorem map_toLower_eq_snakeCase {word : String} (name : isName word.toList = true)
    (none : '_' ∉ (snakeCase word).toList) :
    word.toList.map Char.toLower = (snakeCase word).toList := by
  cases spelled : word.toList with
  | nil => simp [spelled, isName] at name
  | cons c rest =>
      rw [toList_snakeCase spelled name] at none ⊢
      have noHump : '_' ∉ humpsAfter c rest := fun there =>
        none (List.mem_cons_of_mem _ (List.mem_map.mpr ⟨'_', there, rfl⟩))
      rw [humpsAfter_eq_self noHump, List.map_cons]

/-- The characters of names in snake case are characters of names. -/
theorem isNamePart_of_isSnakePart {c : Char} (part : isSnakePart c = true) :
    isNamePart c = true := by
  simp only [isSnakePart, isSnakeStart, isNamePart, Char.isAlphanum, Bool.or_eq_true,
    isAlpha_iff] at part ⊢
  rcases part with (letter | underscore) | digit
  · exact .inl (.inl (.inr letter))
  · exact .inr underscore
  · exact .inl (.inr digit)

/-- All characters of a name in snake case are such. -/
theorem isSnakePart_of_mem {name : List Char} (snake : isSnakeName name = true) :
    ∀ c ∈ name, isSnakePart c = true := by
  cases name with
  | nil => simp
  | cons c rest =>
      rw [isSnakeName, Bool.and_eq_true] at snake
      intro d there
      rcases List.mem_cons.mp there with rfl | later
      · rw [isSnakePart, snake.1, Bool.true_or]
      · exact List.all_eq_true.mp snake.2 d later

/-- A name in snake case is made like a name. -/
theorem isName_of_isSnakeName {name : List Char} (snake : isSnakeName name = true) :
    isName name = true := by
  cases name with
  | nil => cases snake
  | cons c rest =>
      have parts := isSnakePart_of_mem snake
      rw [isSnakeName, Bool.and_eq_true] at snake
      rw [isName, Bool.and_eq_true, List.all_eq_true]
      refine ⟨?_, fun d there => isNamePart_of_isSnakePart (parts d (List.mem_cons_of_mem _ there))⟩
      have start := snake.1
      simp only [isSnakeStart, isNameStart, Bool.or_eq_true, isAlpha_iff] at start ⊢
      rcases start with letter | underscore
      · exact .inl (.inr letter)
      · exact .inr underscore

/-- A name in snake case has no character that lowercasing changes. -/
theorem map_toLower_of_isSnakeName {name : List Char} (snake : isSnakeName name = true) :
    name.map Char.toLower = name := by
  have unchanged : ∀ c : Char, c.toNat < 128 → isSnakePart c = true → c.toLower = c :=
    Text.forall_ascii (by decide)
  have small : ∀ c ∈ name, c.toLower = id c := by
    intro c there
    have part := isSnakePart_of_mem snake c there
    exact unchanged c (ascii_of_isNamePart (isNamePart_of_isSnakePart part)) part
  rw [List.map_congr_left small, List.map_id]

/-- A name in snake case is in lowercase. -/
theorem lowercase_of_isSnakeName {name : String} (snake : isSnakeName name.toList = true) :
    Text.lowercase name = name := by
  have ascii : ∀ c ∈ name.toList, c.toNat < 128 := fun c there =>
    ascii_of_isNamePart (isNamePart_of_isSnakePart (isSnakePart_of_mem snake c there))
  rw [Text.lowercase, Text.lowercaseChars_of_ascii ascii, map_toLower_of_isSnakeName snake,
    String.ofList_toList]

/-- A word names a field exactly if it is made like a name and its snake case form is
neither reserved nor a literal; that form is the name. -/
theorem ofName_eq_ok_iff {reserved : ReservedWords} {word : String} {field : Field} :
    ofName reserved word = .ok field ↔
      isName word.toList = true ∧ reserved.contains (snakeCase word) = false ∧
        snakeCase word ∉ keywordLiterals ∧ field = ⟨snakeCase word⟩ := by
  unfold ofName
  by_cases name : isName word.toList = true
  · by_cases isReserved : reserved.contains (snakeCase word) = true
    · simp [name, isReserved]
    · by_cases isLiteral : snakeCase word ∈ keywordLiterals
      · simp [name, isReserved, isLiteral]
      · simp [name, isReserved, isLiteral, eq_comm]
  · simp [name]

/-- The name is in snake case, and neither a reserved word nor a literal. -/
structure IsSafe (reserved : ReservedWords) (field : Field) : Prop where
  isSnakeName : isSnakeName field.name.toList = true
  not_builtin : field.name ∉
    ["select", "insert", "update", "delete", "drop", "alter", "from", "where", "join", "order",
     "group", "having", "limit", "offset", "union", "except", "intersect"]
  not_extra : field.name ∉ reserved.extra
  not_literal : field.name ∉ ["true", "false", "null"]

/-- Whatever a word of a filter looks like, the field that it names is safe. -/
theorem isSafe_of_ofName {reserved : ReservedWords} {word : String} {field : Field}
    (named : ofName reserved word = .ok field) : field.IsSafe reserved := by
  obtain ⟨name, notReserved, notLiteral, rfl⟩ := ofName_eq_ok_iff.mp named
  have snake := isSnakeName_snakeCase name
  rw [ReservedWords.contains, lowercase_of_isSnakeName snake] at notReserved
  simp only [Bool.or_eq_false_iff, List.contains_eq_mem, decide_eq_false_iff_not] at notReserved
  exact ⟨snake, notReserved.1, notReserved.2, notLiteral⟩

/-- A name in snake case has no humps. -/
theorem humpsAfter_of_isSnakePart {before : Char} {cs : List Char}
    (parts : ∀ c ∈ cs, isSnakePart c = true) : humpsAfter before cs = cs := by
  have small : ∀ c : Char, c.toNat < 128 → isSnakePart c = true → c.isUpper = false :=
    Text.forall_ascii (by decide)
  induction cs generalizing before with
  | nil => rfl
  | cons c rest ih =>
      have part := parts c List.mem_cons_self
      have noCapital := small c (ascii_of_isNamePart (isNamePart_of_isSnakePart part)) part
      have noHump : isHump before c = false := by rw [isHump, noCapital, Bool.and_false]
      rw [humpsAfter, noHump, ih fun d there => parts d (List.mem_cons_of_mem _ there)]
      rfl

/-- A name in snake case is its own snake case form. -/
theorem snakeCase_of_isSnakeName {name : String} (snake : isSnakeName name.toList = true) :
    snakeCase name = name := by
  cases spelled : name.toList with
  | nil =>
      rw [spelled] at snake
      cases snake
  | cons c rest =>
      have parts := isSnakePart_of_mem snake
      have noHumps : humpsAfter c rest = rest :=
        humpsAfter_of_isSnakePart fun d there => parts d (by simp [spelled, there])
      rw [← String.toList_inj, toList_snakeCase spelled (isName_of_isSnakeName snake), noHumps,
        ← List.map_cons, ← spelled, map_toLower_of_isSnakeName snake]

/-- Finitely many words leave a name free: all of them are shorter than some row of
underscores. -/
theorem exists_ofName_eq_ok (reserved : ReservedWords) :
    ∃ word field, ofName reserved word = .ok field := by
  have longer (words : List String) :
      ∃ count, ∀ word ∈ words, word.toList.length ≤ count := by
    induction words with
    | nil => exact ⟨0, by simp⟩
    | cons first rest ih =>
        obtain ⟨count, bound⟩ := ih
        refine ⟨max first.toList.length count, fun word there => ?_⟩
        rcases List.mem_cons.mp there with rfl | later
        · exact Nat.le_max_left _ _
        · exact Nat.le_trans (bound word later) (Nat.le_max_right _ _)
  obtain ⟨count, bound⟩ := longer (ReservedWords.builtin ++ reserved.extra ++ keywordLiterals)
  let word := String.ofList ('_' :: List.replicate count '_')
  have spelled : word.toList = '_' :: List.replicate count '_' := String.toList_ofList
  have free {words : List String}
      (among : words ⊆ ReservedWords.builtin ++ reserved.extra ++ keywordLiterals) :
      word ∉ words := by
    intro there
    have short := bound word (among there)
    rw [spelled, List.length_cons, List.length_replicate] at short
    omega
  have snake : isSnakeName word.toList = true := by
    rw [spelled, isSnakeName, List.all_eq_true.mpr]
    · rfl
    · intro c there
      rw [List.eq_of_mem_replicate there]
      rfl
  have same := snakeCase_of_isSnakeName snake
  refine ⟨word, ⟨word⟩, ofName_eq_ok_iff.mpr ⟨isName_of_isSnakeName snake, ?_, ?_, by rw [same]⟩⟩
  · rw [same, ReservedWords.contains, lowercase_of_isSnakeName snake]
    have notBuiltin : word ∉ ReservedWords.builtin := free (by simp)
    have notExtra : word ∉ reserved.extra := free (by simp)
    simp [notBuiltin, notExtra]
  · rw [same]
    exact free (by simp)

end WhereClause.Field
