/-
# Spellings of one word

Two spellings of a word differ at most in the case of their ASCII letters. They have
one lowercase form: nothing but such letters changes, and what becomes of a character
does not depend on the case of the letters around it, not even for a sigma.

The lowercase form of a lowercase form is the form itself. A character that lowercasing
leads to is none that it changes, which is a fact about its table; and it is no capital
sigma, so nothing depends on the characters around it any more.
-/

import WhereClause.Proofs.Text.Lowercase

namespace WhereClause.Text

/-- The texts differ at most in the case of ASCII letters. -/
def SpelledAlike (text other : String) : Prop :=
  text.toList.map Char.toLower = other.toList.map Char.toLower

instance (text other : String) : Decidable (SpelledAlike text other) :=
  inferInstanceAs (Decidable (_ = _))

/-! ### The case of ASCII letters -/

/-- Above ASCII the core library knows no case. -/
theorem toLower_of_not_ascii {c : Char} (other : ¬ c.toNat < 128) : c.toLower = c := by
  have notCapital : ¬ (c.val ≥ 'A'.val ∧ c.val ≤ 'Z'.val) := by
    rintro ⟨-, last⟩
    exact other (ascii_of_le last (by decide))
  exact dif_neg notCapital

/-- What does not depend on the case of the ASCII letters does not depend on case. -/
theorem apply_toLower {α : Type} {f : Char → α}
    (ascii : ∀ code < 128, f (Char.ofNat code).toLower = f (Char.ofNat code)) (c : Char) :
    f c.toLower = f c := by
  by_cases isAscii : c.toNat < 128
  · exact forall_ascii (P := fun c => f c.toLower = f c) ascii c isAscii
  · rw [toLower_of_not_ascii isAscii]

/-- An ASCII letter, in either case. -/
def IsLetter (c : Char) : Prop :=
  65 ≤ c.toNat ∧ c.toNat ≤ 90 ∨ 97 ≤ c.toNat ∧ c.toNat ≤ 122

instance (c : Char) : Decidable (IsLetter c) :=
  inferInstanceAs (Decidable (_ ∨ _))

/-- Only letters change, and they change to letters. -/
theorem toLower_eq_or_isLetter (c : Char) :
    c.toLower = c ∨ IsLetter c ∧ IsLetter c.toLower := by
  by_cases ascii : c.toNat < 128
  · have letters : ∀ c : Char, c.toNat < 128 →
        c.toLower = c ∨ IsLetter c ∧ IsLetter c.toLower := forall_ascii (by decide)
    exact letters c ascii
  · exact .inl (toLower_of_not_ascii ascii)

theorem isCased_of_isLetter {c : Char} (letter : IsLetter c) : isCased c = true := by
  simp only [isCased, inRanges, casedRanges, List.any_cons]
  rcases letter with ⟨least, greatest⟩ | ⟨least, greatest⟩
  · simp [least, greatest]
  · simp [least, greatest]

theorem isCaseIgnorable_of_isLetter {c : Char} (letter : IsLetter c) :
    isCaseIgnorable c = false := by
  have apart : ∀ range ∈ caseIgnorableRanges,
      range.2 < 65 ∨ 90 < range.1 ∧ range.2 < 97 ∨ 122 < range.1 := by decide +kernel
  rw [isCaseIgnorable, inRanges, List.any_eq_false]
  intro range there
  have outside := apart range there
  unfold IsLetter at letter
  simp only [Bool.and_eq_true, decide_eq_true_eq]
  omega

/-! ### One lowercase form -/

/-- Whether a letter comes first does not depend on its case. -/
theorem meetsLetter_map_toLower (cs : List Char) :
    meetsLetter (cs.map Char.toLower) = meetsLetter cs := by
  have passed : isCaseIgnorable ∘ Char.toLower = isCaseIgnorable := by
    funext c
    rcases toLower_eq_or_isLetter c with same | ⟨letter, letter'⟩
    · exact congrArg isCaseIgnorable same
    · rw [Function.comp_apply, isCaseIgnorable_of_isLetter letter,
        isCaseIgnorable_of_isLetter letter']
  rw [meetsLetter, meetsLetter, List.dropWhile_map, passed]
  cases cs.dropWhile isCaseIgnorable with
  | nil => rfl
  | cons c rest =>
      rcases toLower_eq_or_isLetter c with same | ⟨letter, letter'⟩
      · exact congrArg isCased same
      · show isCased c.toLower = isCased c
        rw [isCased_of_isLetter letter, isCased_of_isLetter letter']

/-- The lowercase form of a character depends neither on its own case nor on that of the
letters around it. -/
theorem lowercaseBetween_map_toLower (before : List Char) (c : Char) (after : List Char) :
    lowercaseBetween (before.map Char.toLower) c.toLower (after.map Char.toLower) =
      lowercaseBetween before c after := by
  by_cases ascii : c.toNat < 128
  · have twice : ∀ c : Char, c.toNat < 128 →
        c.toLower.toNat < 128 ∧ c.toLower.toLower = c.toLower := forall_ascii (by decide)
    obtain ⟨still, same⟩ := twice c ascii
    rw [lowercaseBetween_of_ascii still, lowercaseBetween_of_ascii ascii, same]
  · rw [toLower_of_not_ascii ascii, lowercaseBetween, meetsLetter_map_toLower,
      meetsLetter_map_toLower]
    rfl

theorem lowercaseFrom_map_toLower (before cs : List Char) :
    lowercaseFrom (before.map Char.toLower) [] (cs.map Char.toLower) =
      lowercaseFrom before [] cs := by
  induction cs generalizing before with
  | nil => rfl
  | cons c after ih =>
      rw [List.map_cons, lowercaseFrom_cons, lowercaseFrom_cons, lowercaseBetween_map_toLower,
        ← List.map_cons, ih]

/-- The spellings of a word have one lowercase form. -/
theorem SpelledAlike.lowercase_eq {text other : String} (alike : SpelledAlike text other) :
    lowercase text = lowercase other := by
  have folded (text : String) :
      lowercase text = String.ofList (lowercaseChars (text.toList.map Char.toLower)) :=
    congrArg String.ofList (lowercaseFrom_map_toLower [] text.toList).symm
  rw [folded text, folded other, alike]

/-- Only the empty text has an empty lowercase form. -/
theorem lowercase_ne_empty {text : String} (nonempty : text ≠ "") : lowercase text ≠ "" := by
  intro empty
  apply nonempty
  rw [lowercase, ← String.toList_inj, String.toList_ofList, lowercaseChars] at empty
  rw [← String.toList_inj]
  cases spelled : text.toList with
  | nil => rfl
  | cons c rest =>
      rw [spelled, lowercaseFrom_cons] at empty
      exact absurd (List.append_eq_nil_iff.mp empty).1 (lowercaseBetween_ne_nil [] c rest)

/-! ### The table leads out of itself -/

/-- The run of the code points that a run leads to. -/
def CaseRun.target (run : CaseRun) : CaseRun :=
  { first := Int.toNat (run.first + run.shift)
    last := Int.toNat (run.last + run.shift)
    stride := run.stride
    shift := 0 }

theorem CaseRun.target_holds {run : CaseRun} {code : Nat} (least : 97 ≤ run.first + run.shift)
    (holds : run.Holds code) : run.target.Holds (Int.toNat (code + run.shift)) := by
  obtain ⟨first, last, steps⟩ := holds
  have same : Int.toNat (code + run.shift) - Int.toNat (run.first + run.shift) =
      code - run.first := by omega
  refine ⟨?_, ?_, ?_⟩
  · show Int.toNat (run.first + run.shift) ≤ Int.toNat (code + run.shift)
    omega
  · show Int.toNat (code + run.shift) ≤ Int.toNat (run.last + run.shift)
    omega
  · show (Int.toNat (code + run.shift) - Int.toNat (run.first + run.shift)) % run.stride = 0
    rw [same, steps]

/-- Whether two runs are seen to have no code point in common: one ends before the other
begins, or they take turns, each with every second code point. -/
def CaseRun.apart (run other : CaseRun) : Bool :=
  Nat.blt run.last other.first || Nat.blt other.last run.first ||
    (run.first == run.last || run.stride == 2) && other.stride == 2 &&
      (run.first + other.first) % 2 == 1

theorem CaseRun.not_holds_of_apart {run other : CaseRun} {code : Nat}
    (apart : run.apart other = true) (holds : run.Holds code) : ¬ other.Holds code := by
  rintro ⟨first', last', steps'⟩
  obtain ⟨first, last, steps⟩ := holds
  simp only [CaseRun.apart, Bool.or_eq_true, Bool.and_eq_true, Nat.blt_eq, beq_iff_eq] at apart
  rcases apart with (before | behind) | ⟨⟨single | second, second'⟩, odd⟩
  · omega
  · omega
  · rw [second'] at steps'
    omega
  · rw [second] at steps
    rw [second'] at steps'
    omega

/-- The runs of the code points above ASCII that change: those of the table, and the dotted
capital I. -/
def changedRuns : List CaseRun :=
  { first := 'İ'.toNat, last := 'İ'.toNat, stride := 1, shift := 0 } :: caseRuns

/-- No run of the table leads to a code point that changes. -/
theorem caseRuns_apart : ∀ run ∈ caseRuns, changedRuns.all run.target.apart = true := by
  decide +kernel

/-! ### The lowercase form of a lowercase form -/

/-- Lowercasing leaves the character as it is. -/
def IsLow (c : Char) : Prop :=
  c ≠ 'Σ' ∧ c ≠ 'İ' ∧ lowercaseSimple c = c

instance (c : Char) : Decidable (IsLow c) :=
  inferInstanceAs (Decidable (_ ∧ _))

/-- It does so wherever the character stands. -/
theorem IsLow.lowercaseBetween {c : Char} (low : IsLow c) (before after : List Char) :
    lowercaseBetween before c after = [c] := by
  obtain ⟨notSigma, notDotted, same⟩ := low
  rw [Text.lowercaseBetween, if_neg notSigma, if_neg notDotted, same]

theorem isLow_toLower {c : Char} (ascii : c.toNat < 128) : IsLow c.toLower := by
  have low : ∀ c : Char, c.toNat < 128 → IsLow c.toLower := forall_ascii (by decide)
  exact low c ascii

/-- What is above ASCII and in no run that changes stays as it is. -/
theorem isLow_of_not_holds {c : Char} (large : ¬ c.toNat < 128)
    (outside : ∀ run ∈ changedRuns, ¬ run.Holds c.toNat) : IsLow c := by
  refine ⟨?_, ?_, ?_⟩
  · rintro rfl
    have inside : ∃ run ∈ changedRuns, run.Holds 'Σ'.toNat := by decide +kernel
    obtain ⟨run, there, holds⟩ := inside
    exact outside run there holds
  · rintro rfl
    exact outside _ List.mem_cons_self (by decide)
  · have unchanged : caseRuns.findSome? (·.lowered? c.toNat) = none := by
      rw [List.findSome?_eq_none_iff]
      intro run there
      rw [Option.eq_none_iff_forall_ne_some]
      intro moved found
      exact outside run (List.mem_cons_of_mem _ there) (CaseRun.lowered?_eq_some_iff.mp found).1
    rw [lowercaseSimple, if_neg large, unchanged]

/-- What the table leads to stays as it is. -/
theorem isLow_of_lowered {code moved : Nat}
    (found : caseRuns.findSome? (·.lowered? code) = some moved) : IsLow (Char.ofNat moved) := by
  obtain ⟨run, there, holds, least, same⟩ := exists_run_of_lowered found
  have reached : run.target.Holds moved := same ▸ CaseRun.target_holds least holds
  rcases toNat_ofNat_or moved with valid | none
  · by_cases small : moved < 128
    · -- a small letter of ASCII
      have low : ∀ c : Char, c.toNat < 128 → 97 ≤ c.toNat → IsLow c := forall_ascii (by decide)
      have bound : 97 ≤ moved := by
        have first : Int.toNat (run.first + run.shift) ≤ moved := reached.1
        omega
      apply low
      · rwa [valid]
      · rwa [valid]
    · refine isLow_of_not_holds (by rwa [valid]) fun other changed => ?_
      have apart := List.all_eq_true.mp (caseRuns_apart run there) other changed
      rw [valid]
      exact CaseRun.not_holds_of_apart apart reached
  · rw [none]
    decide

/-- Lowercasing a character leads to characters that stay as they are. -/
theorem isLow_of_mem_lowercaseBetween {c d : Char} {before after : List Char}
    (there : d ∈ lowercaseBetween before c after) : IsLow d := by
  unfold lowercaseBetween at there
  split at there
  · split at there
    · obtain rfl := List.mem_singleton.mp there
      decide +kernel
    · obtain rfl := List.mem_singleton.mp there
      decide +kernel
  · next notSigma =>
      split at there
      · simp only [List.mem_cons, List.not_mem_nil, or_false] at there
        rcases there with rfl | rfl
        · decide +kernel
        · decide +kernel
      · next notDotted =>
          obtain rfl := List.mem_singleton.mp there
          unfold lowercaseSimple
          split
          · next ascii => exact isLow_toLower ascii
          · next large =>
              split
              · next moved found => exact isLow_of_lowered found
              · next unchanged =>
                  exact ⟨notSigma, notDotted, by rw [lowercaseSimple, if_neg large, unchanged]⟩

/-- A text of such characters stays as it is. -/
theorem lowercaseFrom_of_isLow {cs : List Char} (low : ∀ c ∈ cs, IsLow c) (before : List Char) :
    lowercaseFrom before [] cs = cs := by
  induction cs generalizing before with
  | nil => rfl
  | cons c after ih =>
      have first : IsLow c := low c List.mem_cons_self
      have others : ∀ d ∈ after, IsLow d := fun d there => low d (List.mem_cons_of_mem _ there)
      rw [lowercaseFrom_cons, first.lowercaseBetween, ih others]
      rfl

theorem isLow_of_mem_lowercaseFrom {d : Char} {before cs : List Char}
    (there : d ∈ lowercaseFrom before [] cs) : IsLow d := by
  induction cs generalizing before with
  | nil => cases there
  | cons c after ih =>
      rw [lowercaseFrom_cons, List.mem_append] at there
      rcases there with here | later
      · exact isLow_of_mem_lowercaseBetween here
      · exact ih later

/-- A text in lowercase stays as it is. -/
theorem lowercase_lowercase (text : String) : lowercase (lowercase text) = lowercase text := by
  have low : ∀ c ∈ lowercaseChars text.toList, IsLow c := fun _ => isLow_of_mem_lowercaseFrom
  rw [lowercase, lowercase, String.toList_ofList]
  exact congrArg String.ofList (lowercaseFrom_of_isLow low [])

end WhereClause.Text
