/-
# Where a text of SQL is divided

By the standard a string of SQL goes on to the first quote that does not stand in a
pair. In some dialects a backslash in a string takes the character behind it, so that a
quote there ends nothing. Everything else is divided in the same way by both rules.

A division is given by its slices, which make up the whole text, white space included.
So two divisions of a text are equal exactly if they have the same boundaries. By
either rule a text has at most one.
-/

import WhereClause.Proofs.Sql.Lexeme

namespace WhereClause.Sql

/-- What ends a string: by the standard only quotes count, by the other rule backslashes
do as well. -/
inductive StringRule
  | standard
  | backslash
  deriving DecidableEq, Repr

/-- What may stand between the quotes of a string: quotes in pairs, and other characters.
Where backslashes count, each of them comes with the character that it takes. -/
inductive Inner (rule : StringRule) : List Char → Prop
  | done : Inner rule []
  | plain {c : Char} {inner : List Char} :
      c ≠ '\'' → (rule = .backslash → c ≠ '\\') → Inner rule inner → Inner rule (c :: inner)
  | pair {inner : List Char} : Inner rule inner → Inner rule ('\'' :: '\'' :: inner)
  | taken {c : Char} {inner : List Char} :
      rule = .backslash → Inner rule inner → Inner rule ('\\' :: c :: inner)

/-- The slice is one where this follows it. What it can be depends on its first character:
a word and a comparison go on while characters are of their kind, a string goes on to its
closing quote, and all else is a slice of its own. -/
def IsSlice (rule : StringRule) (slice after : List Char) : Prop :=
  ∃ c more, slice = c :: more ∧
    match kind? c with
    | some .word => (∀ d ∈ more, kind? d = some .word) ∧ ∀ d ∈ after.head?, kind? d ≠ some .word
    | some .comparison =>
      (∀ d ∈ more, kind? d = some .comparison) ∧ ∀ d ∈ after.head?, kind? d ≠ some .comparison
    | some .string => (∃ inner, more = inner ++ ['\''] ∧ Inner rule inner) ∧ after.head? ≠ some '\''
    | _ => more = []

/-- The text is divided into the slices. -/
inductive Divides (rule : StringRule) : List Char → List (List Char) → Prop
  | done : Divides rule [] []
  | slice {slice rest : List Char} {slices : List (List Char)} :
      IsSlice rule slice rest → Divides rule rest slices →
      Divides rule (slice ++ rest) (slice :: slices)

/-! ### No text is divided in two ways -/

section Unique

variable {rule : StringRule} {inner inner' after after' : List Char}

/-- Only one quote closes a string. -/
theorem Inner.unique (first : Inner rule inner) (second : Inner rule inner')
    (stops : after.head? ≠ some '\'') (stops' : after'.head? ≠ some '\'')
    (same : inner ++ '\'' :: after = inner' ++ '\'' :: after') :
    inner = inner' ∧ after = after' := by
  induction first generalizing inner' with
  | done =>
      cases second with
      | done => exact ⟨rfl, (List.cons.inj same).2⟩
      | plain notQuote => exact absurd (List.cons.inj same).1.symm notQuote
      | pair => exact absurd (by rw [(List.cons.inj same).2]; rfl) stops
      | taken => cases (List.cons.inj same).1
  | plain notQuote notBackslash _ ih =>
      cases second with
      | done => exact absurd (List.cons.inj same).1 notQuote
      | plain _ _ second =>
          obtain ⟨rfl, later⟩ := List.cons.inj same
          obtain ⟨rfl, rest⟩ := ih second later
          exact ⟨rfl, rest⟩
      | pair => exact absurd (List.cons.inj same).1 notQuote
      | taken counts => exact absurd (List.cons.inj same).1 (notBackslash counts)
  | pair _ ih =>
      cases second with
      | done => exact absurd (by rw [← (List.cons.inj same).2]; rfl) stops'
      | plain notQuote => exact absurd (List.cons.inj same).1.symm notQuote
      | pair second =>
          obtain ⟨rfl, rest⟩ := ih second (List.cons.inj (List.cons.inj same).2).2
          exact ⟨rfl, rest⟩
      | taken => cases (List.cons.inj same).1
  | taken counts _ ih =>
      cases second with
      | done => cases (List.cons.inj same).1
      | plain _ notBackslash => exact absurd (List.cons.inj same).1.symm (notBackslash counts)
      | pair => cases (List.cons.inj same).1
      | taken _ second =>
          obtain ⟨rfl, later⟩ := List.cons.inj (List.cons.inj same).2
          obtain ⟨rfl, rest⟩ := ih second later
          exact ⟨rfl, rest⟩

/-- Where a slice ends does not depend on how it was found. -/
theorem IsSlice.unique {slice slice' : List Char} (first : IsSlice rule slice after)
    (second : IsSlice rule slice' after') (same : slice ++ after = slice' ++ after') :
    slice = slice' ∧ after = after' := by
  obtain ⟨c, more, rfl, ends⟩ := first
  obtain ⟨d, more', rfl, ends'⟩ := second
  obtain ⟨rfl, rest⟩ := List.cons.inj same
  have joined : more = more' ∧ after = after' := by
    split at ends
    · next word =>
        simp only [word] at ends'
        exact run_unique ends.1 ends'.1 ends.2 ends'.2 rest
    · next comparison =>
        simp only [comparison] at ends'
        exact run_unique ends.1 ends'.1 ends.2 ends'.2 rest
    · next string =>
        simp only [string] at ends'
        obtain ⟨⟨inner, rfl, found⟩, stops⟩ := ends
        obtain ⟨⟨inner', rfl, found'⟩, stops'⟩ := ends'
        obtain ⟨rfl, later⟩ := found.unique found' stops stops' (by simpa using rest)
        exact ⟨rfl, later⟩
    · next notWord notComparison notString =>
        split at ends'
        · next word => exact absurd word notWord
        · next comparison => exact absurd comparison notComparison
        · next string => exact absurd string notString
        · subst ends ends'
          exact ⟨rfl, rest⟩
  exact ⟨by rw [joined.1], joined.2⟩

/-- A text whose first slice is known is divided in front of what follows the slice. -/
theorem divides_cons_iff {slice rest : List Char} {slices : List (List Char)} :
    Divides rule (slice ++ rest) (slice :: slices) ↔
      IsSlice rule slice rest ∧ Divides rule rest slices := by
  constructor
  · intro divides
    generalize same : slice ++ rest = text at divides
    cases divides with
    | slice isSlice divides =>
        obtain rfl := List.append_cancel_left same
        exact ⟨isSlice, divides⟩
  · exact fun ⟨isSlice, divides⟩ => .slice isSlice divides

/-- A text is divided in at most one way. -/
theorem Divides.unique {text : List Char} {slices slices' : List (List Char)}
    (first : Divides rule text slices) (second : Divides rule text slices') :
    slices = slices' := by
  have filled {slice rest : List Char} (isSlice : IsSlice rule slice rest) :
      [] ≠ slice ++ rest := by
    obtain ⟨c, more, rfl, -⟩ := isSlice
    simp
  induction first generalizing slices' with
  | done =>
      generalize same : [] = text at second
      cases second with
      | done => rfl
      | slice isSlice => exact absurd same (filled isSlice)
  | @slice slice rest slices isSlice _ ih =>
      generalize same : slice ++ rest = text at second
      cases second with
      | done => exact absurd same.symm (filled isSlice)
      | slice isSlice' second =>
          obtain ⟨rfl, rfl⟩ := isSlice.unique isSlice' same
          rw [ih second]

end Unique

/-! ### Lexemes as slices -/

/-- Doubled quotes end no string by the standard. -/
theorem inner_double (body : List Char) : Inner .standard (Text.double '\'' body) := by
  induction body with
  | nil => exact .done
  | cons c body ih =>
      rw [Text.double_cons]
      split
      · next quote =>
          subst quote
          exact .pair ih
      · next notQuote => exact .plain notQuote StringRule.noConfusion ih

/-- A quoted text is a slice exactly if nothing between the quotes ends it. -/
theorem isSlice_quote_iff {rule : StringRule} {body rest : List Char}
    (stops : rest.head? ≠ some '\'') :
    IsSlice rule (Literal.quote body) rest ↔ Inner rule (Text.double '\'' body) := by
  have quote : kind? '\'' = some .string := rfl
  constructor
  · rintro ⟨c, more, same, ends⟩
    obtain ⟨rfl, rfl⟩ := List.cons.inj same
    simp only [quote] at ends
    obtain ⟨⟨inner, closed, found⟩, -⟩ := ends
    rwa [List.append_cancel_right closed]
  · intro found
    refine ⟨'\'', Text.double '\'' body ++ ['\''], rfl, ?_⟩
    simp only [quote]
    exact ⟨⟨_, rfl, found⟩, stops⟩

/-- A lexeme is a slice, unless it is a string that is not closed where it is meant to
be. -/
theorem Lexeme.isSlice_iff {rule : StringRule} {lexeme : Lexeme} {rest : List Char}
    (proper : lexeme.IsProper) (stops : lexeme.Stops rest) :
    IsSlice rule lexeme.spelling rest ↔
      ∀ body, lexeme = .string body → Inner rule (Text.double '\'' body) := by
  have mark {c : Char} (alone : kind? c = some .opening ∨ kind? c = some .closing ∨
      kind? c = some .comma) : IsSlice rule [c] rest := by
    refine ⟨c, [], rfl, ?_⟩
    rcases alone with opening | closing | comma
    · rw [opening]
    · rw [closing]
    · rw [comma]
  cases lexeme with
  | string body =>
      have ends : rest.head? ≠ some '\'' := fun again => stops '\'' again rfl
      rw [spelling, isSlice_quote_iff ends]
      simp
  | word letters =>
      refine iff_of_true ?_ fun _ same => Lexeme.noConfusion same
      obtain ⟨c, more, rfl⟩ := List.exists_cons_of_ne_nil proper.1
      refine ⟨c, more, rfl, ?_⟩
      rw [proper.2 c List.mem_cons_self]
      exact ⟨fun d there => proper.2 d (List.mem_cons_of_mem _ there), stops⟩
  | comparison sign =>
      refine iff_of_true ?_ fun _ same => Lexeme.noConfusion same
      obtain ⟨c, more, spelled, begins⟩ := exists_cons_spelling proper
      refine ⟨c, more, spelled, ?_⟩
      have uniform : ∀ d ∈ c :: more, kind? d = some .comparison := spelled ▸ kind?_of_mem_symbol
      rw [begins]
      exact ⟨fun d there => uniform d (List.mem_cons_of_mem _ there), stops⟩
  | opening => exact iff_of_true (mark (.inl rfl)) fun _ same => Lexeme.noConfusion same
  | closing => exact iff_of_true (mark (.inr (.inl rfl))) fun _ same => Lexeme.noConfusion same
  | comma => exact iff_of_true (mark (.inr (.inr rfl))) fun _ same => Lexeme.noConfusion same

/-- A text that is made of lexemes is divided in front of and behind each of them by the
standard. Where backslashes count it is divided there too, if they leave the closing quotes
of all strings, and otherwise it is not. -/
theorem Lexes.divides {text : List Char} {lexemes : List Lexeme} (lexes : Lexes text lexemes) :
    ∃ slices, Divides .standard text slices ∧ (Divides .backslash text slices ↔
      ∀ body, .string body ∈ lexemes → Inner .backslash (Text.double '\'' body)) := by
  induction lexes with
  | done => exact ⟨[], .done, by simpa using Divides.done⟩
  | @blank c rest lexemes blank _ ih =>
      obtain ⟨slices, divided, alike⟩ := ih
      have isSlice (rule : StringRule) : IsSlice rule [c] rest :=
        ⟨c, [], rfl, by rw [kind?_of_isBlank blank]⟩
      refine ⟨[c] :: slices, .slice (isSlice _) divided, ?_⟩
      rw [← alike, ← List.singleton_append, divides_cons_iff]
      exact and_iff_right (isSlice _)
  | @lexeme lexeme rest lexemes proper stops _ ih =>
      obtain ⟨slices, divided, alike⟩ := ih
      have isSlice : IsSlice .standard lexeme.spelling rest :=
        (Lexeme.isSlice_iff proper stops).mpr fun body _ => inner_double body
      refine ⟨lexeme.spelling :: slices, .slice isSlice divided, ?_⟩
      rw [divides_cons_iff, Lexeme.isSlice_iff proper stops, alike]
      simp only [List.mem_cons, or_imp, forall_and, eq_comm]

end WhereClause.Sql
