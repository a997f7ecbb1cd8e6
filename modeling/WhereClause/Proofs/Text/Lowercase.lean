/-
# What lowercasing keeps

Lowercasing works on letters. On an ASCII text it is the map on single characters
of the core library, and whatever the text, it neither removes nor makes any of
the plain characters: the space and the marks and digits below the capital
letters. A sequence of plain characters therefore stands in the lowercase form of
a text exactly where it stands in the text, although the form can be longer.
-/

import WhereClause.Text.Lowercase

namespace WhereClause.Text

/-- What holds of the first 128 characters holds of every ASCII character. -/
theorem forall_ascii {P : Char → Prop} (first : ∀ code < 128, P (Char.ofNat code)) :
    ∀ c : Char, c.toNat < 128 → P c := by
  intro c ascii
  rw [← Char.ofNat_toNat c]
  exact first _ ascii

/-- What comes before an ASCII character is one too. -/
theorem ascii_of_le {c last : Char} (below : c.val ≤ last.val) (ascii : last.toNat < 128) :
    c.toNat < 128 :=
  Nat.lt_of_le_of_lt (UInt32.le_iff_toNat_le.mp below) ascii

/-- What is computed for each character of a list holds of all of them. -/
theorem forall_mem_of_all {P : Char → Prop} [DecidablePred P] {cs : List Char}
    (computed : cs.all (fun c => decide (P c)) = true) : ∀ c ∈ cs, P c := by
  simpa using computed

/-- A space, a digit, or a mark that comes before the capital letters. -/
def IsPlain (c : Char) : Prop :=
  32 ≤ c.toNat ∧ c.toNat < 65

instance (c : Char) : Decidable (IsPlain c) :=
  inferInstanceAs (Decidable (_ ∧ _))

/-- The characters lowercased so far come first, whatever follows. -/
theorem lowercaseFrom_append (before done cs : List Char) :
    lowercaseFrom before done cs = done.reverse ++ lowercaseFrom before [] cs := by
  induction cs generalizing before done with
  | nil => simp [lowercaseFrom]
  | cons c after ih =>
      rw [lowercaseFrom, ih, lowercaseFrom, ih (c :: before) (List.reverseAux _ [])]
      simp [List.reverseAux_eq]

/-- The first character is lowercased between what precedes and what follows it. -/
theorem lowercaseFrom_cons (before : List Char) (c : Char) (after : List Char) :
    lowercaseFrom before [] (c :: after) =
      lowercaseBetween before c after ++ lowercaseFrom (c :: before) [] after := by
  rw [lowercaseFrom, lowercaseFrom_append]
  simp [List.reverseAux_eq]

/-- The neighbours of an ASCII character do not matter. -/
theorem lowercaseBetween_of_ascii {c : Char} (ascii : c.toNat < 128) (before after : List Char) :
    lowercaseBetween before c after = [c.toLower] := by
  have notSigma : c ≠ 'Σ' := by
    rintro rfl
    exact absurd ascii (by decide)
  have notDotted : c ≠ 'İ' := by
    rintro rfl
    exact absurd ascii (by decide)
  simp [lowercaseBetween, notSigma, notDotted, lowercaseSimple, ascii]

/-- An ASCII text is lowercased one character at a time. -/
theorem lowercaseFrom_of_ascii {cs : List Char} (ascii : ∀ c ∈ cs, c.toNat < 128)
    (before : List Char) : lowercaseFrom before [] cs = cs.map Char.toLower := by
  induction cs generalizing before with
  | nil => rfl
  | cons c after ih =>
      have first : c.toNat < 128 := ascii c (by simp)
      have others : ∀ d ∈ after, d.toNat < 128 := fun d there => ascii d (by simp [there])
      rw [lowercaseFrom_cons, lowercaseBetween_of_ascii first, ih others]
      rfl

theorem lowercaseChars_of_ascii {cs : List Char} (ascii : ∀ c ∈ cs, c.toNat < 128) :
    lowercaseChars cs = cs.map Char.toLower :=
  lowercaseFrom_of_ascii ascii []

/-- The code point is one of the run. -/
def CaseRun.Holds (run : CaseRun) (code : Nat) : Prop :=
  run.first ≤ code ∧ code ≤ run.last ∧ (code - run.first) % run.stride = 0

instance (run : CaseRun) (code : Nat) : Decidable (run.Holds code) :=
  inferInstanceAs (Decidable (_ ∧ _))

/-- The code points of a run move by the shift of the run. -/
theorem CaseRun.lowered?_eq_some_iff {run : CaseRun} {code moved : Nat} :
    run.lowered? code = some moved ↔ run.Holds code ∧ moved = Int.toNat (code + run.shift) := by
  simp [lowered?, Holds, and_assoc, eq_comm (a := moved)]

/-- No letter above ASCII is lowercased to anything below the small letters. -/
theorem le_first_add_shift : ∀ run ∈ caseRuns, (97 : Int) ≤ run.first + run.shift := by
  decide +kernel

/-- What a run of the table leads to. -/
theorem exists_run_of_lowered {code moved : Nat}
    (found : caseRuns.findSome? (·.lowered? code) = some moved) :
    ∃ run ∈ caseRuns, run.Holds code ∧ 97 ≤ run.first + run.shift ∧
      moved = Int.toNat (code + run.shift) := by
  obtain ⟨run, there, lowered⟩ := List.exists_of_findSome?_eq_some found
  obtain ⟨holds, same⟩ := CaseRun.lowered?_eq_some_iff.mp lowered
  exact ⟨run, there, holds, le_first_add_shift run there, same⟩

/-- A number is the code point of its character, unless it is none of any character. -/
theorem toNat_ofNat_or (code : Nat) :
    (Char.ofNat code).toNat = code ∨ Char.ofNat code = '\x00' := by
  by_cases valid : code.isValidChar
  · rw [Char.ofNat, dif_pos valid]
    exact .inl rfl
  · rw [Char.ofNat, dif_neg valid]
    exact .inr rfl

/-- The table never leads to a plain character. -/
theorem not_isPlain_lowered {code moved : Nat}
    (found : caseRuns.findSome? (·.lowered? code) = some moved) : ¬ IsPlain (Char.ofNat moved) := by
  obtain ⟨run, -, holds, least, rfl⟩ := exists_run_of_lowered found
  rcases toNat_ofNat_or (Int.toNat (code + run.shift)) with same | none
  · have first := holds.1
    rw [IsPlain, same]
    omega
  · rw [none]
    decide

/-- A plain character stays as it is. -/
theorem lowercaseBetween_of_isPlain {c : Char} (plain : IsPlain c) (before after : List Char) :
    lowercaseBetween before c after = [c] := by
  have ascii : c.toNat < 128 := Nat.lt_trans plain.2 (by decide)
  have unchanged : ∀ c : Char, c.toNat < 128 → IsPlain c → c.toLower = c :=
    forall_ascii (by decide)
  rw [lowercaseBetween_of_ascii ascii, unchanged c ascii plain]

/-- Every other character becomes one or two that are not plain either. -/
theorem not_isPlain_of_mem_lowercaseBetween {c d : Char} (notPlain : ¬ IsPlain c)
    {before after : List Char} (there : d ∈ lowercaseBetween before c after) : ¬ IsPlain d := by
  unfold lowercaseBetween at there
  split at there
  · split at there <;> simp only [List.mem_singleton] at there <;> subst there <;> decide
  · split at there
    · simp only [List.mem_cons, List.not_mem_nil, or_false] at there
      rcases there with rfl | rfl <;> decide
    · simp only [List.mem_singleton, lowercaseSimple] at there
      split at there
      · next ascii =>
          have lowered : ∀ c : Char, c.toNat < 128 → ¬ IsPlain c → ¬ IsPlain c.toLower :=
            forall_ascii (by decide)
          rw [there]
          exact lowered c ascii notPlain
      · split at there
        · next code found =>
            rw [there]
            exact not_isPlain_lowered found
        · rwa [there]

theorem lowercaseBetween_ne_nil (before : List Char) (c : Char) (after : List Char) :
    lowercaseBetween before c after ≠ [] := by
  unfold lowercaseBetween
  split
  · split <;> simp
  · split <;> simp

section Plain

variable {sequence : List Char} (plain : ∀ c ∈ sequence, IsPlain c)

include plain

/-- A text that begins with plain characters does so before and after. -/
theorem prefix_lowercaseFrom_iff (before cs : List Char) :
    sequence <+: lowercaseFrom before [] cs ↔ sequence <+: cs := by
  induction sequence generalizing before cs with
  | nil => simp
  | cons mark marks ih =>
      have plainMark : IsPlain mark := plain mark (by simp)
      have plainMarks : ∀ c ∈ marks, IsPlain c := fun c there => plain c (by simp [there])
      cases cs with
      | nil => simp [lowercaseFrom]
      | cons c after =>
          rw [lowercaseFrom_cons]
          by_cases plainFirst : IsPlain c
          · rw [lowercaseBetween_of_isPlain plainFirst, List.singleton_append,
              List.cons_prefix_cons, List.cons_prefix_cons, ih plainMarks]
          · obtain ⟨d, ds, piece⟩ :=
              List.exists_cons_of_ne_nil (lowercaseBetween_ne_nil before c after)
            have notPlain : ¬ IsPlain d :=
              not_isPlain_of_mem_lowercaseBetween plainFirst (piece ▸ List.mem_cons_self)
            have distinct : mark ≠ c := fun same => plainFirst (same ▸ plainMark)
            have distinct' : mark ≠ d := fun same => notPlain (same ▸ plainMark)
            rw [piece, List.cons_append, List.cons_prefix_cons, List.cons_prefix_cons]
            simp [distinct, distinct']

/-- Characters that are not plain cannot take part in an occurrence. -/
theorem infix_append_iff_of_not_isPlain (nonempty : sequence ≠ []) {piece : List Char}
    (others : ∀ c ∈ piece, ¬ IsPlain c) (text : List Char) :
    sequence <:+: piece ++ text ↔ sequence <:+: text := by
  induction piece with
  | nil => rfl
  | cons c piece ih =>
      have notHere : ¬ sequence <+: c :: (piece ++ text) := by
        obtain ⟨mark, marks, rfl⟩ := List.exists_cons_of_ne_nil nonempty
        rw [List.cons_prefix_cons]
        rintro ⟨rfl, -⟩
        exact others mark (by simp) (plain mark (by simp))
      rw [List.cons_append, List.infix_cons_iff, ih fun d there => others d (by simp [there])]
      simp [notHere]

/-- A sequence of plain characters occurs in the lowercase form of a text exactly if
it occurs in the text. -/
theorem infix_lowercaseFrom_iff (before cs : List Char) :
    sequence <:+: lowercaseFrom before [] cs ↔ sequence <:+: cs := by
  by_cases nonempty : sequence = []
  · simp [nonempty]
  induction cs generalizing before with
  | nil => rfl
  | cons c after ih =>
      have begins := prefix_lowercaseFrom_iff plain before (c :: after)
      rw [lowercaseFrom_cons] at begins ⊢
      by_cases plainFirst : IsPlain c
      · rw [lowercaseBetween_of_isPlain plainFirst] at begins ⊢
        rw [List.singleton_append] at begins ⊢
        rw [List.infix_cons_iff, List.infix_cons_iff, begins, ih]
      · have notHere : ¬ sequence <+: c :: after := by
          obtain ⟨mark, marks, rfl⟩ := List.exists_cons_of_ne_nil nonempty
          rw [List.cons_prefix_cons]
          rintro ⟨rfl, -⟩
          exact plainFirst (plain mark (by simp))
        rw [infix_append_iff_of_not_isPlain plain nonempty
          (fun d there => not_isPlain_of_mem_lowercaseBetween plainFirst there), ih,
          List.infix_cons_iff]
        simp [notHere]

end Plain

end WhereClause.Text
