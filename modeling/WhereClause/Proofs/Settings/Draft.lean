/-
# How drafts read values

A draft reads the lexemes of a value one by one. It gets to their end exactly if the value
writes something that may stand in its place, and then it has made the choice that is written.
Nothing else can come of a value: for each place there is one lemma that says so, in both
directions.
-/

import WhereClause.Proofs.Json.Items
import WhereClause.Proofs.Settings.Description
import WhereClause.Proofs.TableMapping

namespace WhereClause.Settings.Draft

open Json (Figure Lexeme Value memberLexemes separated)

/-! ### Single lexemes -/

theorem readNatural_eq_ok_iff {found : Lexeme} {n : UInt64} :
    readNatural found = .ok n ↔ found = .number (.natural n) := by
  cases found with
  | number number => cases number <;> simp [readNatural]
  | _ => simp [readNatural]

theorem readText_eq_ok_iff {found : Lexeme} {text : String} :
    readText found = .ok text ↔ found = .string text := by
  cases found <;> simp [readText]

theorem readDialect_eq_ok_iff {name : String} {dialect : Dialect} :
    readDialect name = .ok dialect ↔ name = dialect.name := by
  constructor
  · intro read
    unfold readDialect at read
    split at read
    · next found =>
        cases read
        have named := List.find?_some found
        exact (beq_iff_eq.mp named).symm
    · cases read
  · rintro rfl
    rw [readDialect, Dialect.ofName?_name]

theorem ofKey?_eq_some_iff {key : String} {entry : Entry} :
    Entry.ofKey? key = some entry ↔ key = entry.key := by
  constructor
  · intro found
    have named := List.find?_some found
    exact (beq_iff_eq.mp named).symm
  · rintro rfl
    exact Entry.ofKey?_key entry

/-- No draft goes on where the text is broken. -/
theorem step_broken (draft : Draft) : ∃ fault, draft.step .broken = .error fault := by
  have atValue (draft : Draft) (entry : Entry) :
      ∃ fault, draft.stepValue entry .broken = .error fault := by
    cases entry <;> exact ⟨_, rfl⟩
  obtain ⟨members, layout, phase⟩ := draft
  cases phase with
  | value entry => exact atValue _ entry
  | place closable =>
      cases layout with
      | keyed => exact ⟨_, rfl⟩
      | placed remaining =>
          cases remaining with
          | nil => exact ⟨_, rfl⟩
          | cons entry remaining => exact atValue _ entry
  | separator => cases layout <;> exact ⟨_, rfl⟩
  | _ => exact ⟨_, rfl⟩

/-! ### Values in their places -/

/-- Where neither an array nor an object may stand, the first lexeme of a value is all that is
read of it. -/
theorem foldlM_first {draft next : Draft} {value : Value}
    (noArray : ∀ next, draft.step .openBracket ≠ .ok next)
    (noObject : ∀ next, draft.step .openBrace ≠ .ok next) :
    value.lexemes.foldlM step draft = .ok next ↔ draft.step value.first = .ok next := by
  rcases value.lexemes_cases with ⟨others, lexemes, first⟩ | ⟨others, lexemes, first⟩ | lexemes
  · rw [lexemes, first, foldlM_cons_eq_ok]
    exact iff_of_false (fun ⟨between, read, _⟩ => noArray between read) (noArray next)
  · rw [lexemes, first, foldlM_cons_eq_ok]
    exact iff_of_false (fun ⟨between, read, _⟩ => noObject between read) (noObject next)
  · rw [lexemes, foldlM_cons_eq_ok]
    constructor
    · rintro ⟨between, read, done⟩
      rwa [foldlM_nil_eq_ok.mp done]
    · intro read
      exact ⟨next, read, foldlM_nil_eq_ok.mpr rfl⟩

section

variable {members : Members} {layout : Layout} {next : Draft} {value : Value}

theorem foldlM_nestingLimit :
    value.lexemes.foldlM step ⟨members, layout, .value .nestingLimit⟩ = .ok next ↔
      ∃ limit, value.IsNatural limit ∧
        next = ⟨members.set .nestingLimit limit, layout, .separator⟩ := by
  rw [foldlM_first (by rintro _ ⟨⟩) (by rintro _ ⟨⟩)]
  simp only [step, stepValue, bind_eq_ok, readNatural_eq_ok_iff, Value.first_eq_natural_iff,
    accept, Except.ok.injEq]
  simp only [eq_comm, Members.set]

theorem step_lengthLimit_eq_ok_iff {found : Lexeme} :
    step ⟨members, layout, .value .lengthLimit⟩ found = .ok next ↔
      found = .null ∧ next = ⟨members.set .lengthLimit none, layout, .separator⟩ ∨
      ∃ limit, found = .number (.natural limit) ∧
        next = ⟨members.set .lengthLimit (some limit), layout, .separator⟩ := by
  by_cases null : found = .null
  · subst null
    simp [step, stepValue, accept, Members.set, eq_comm]
  · have natural : step ⟨members, layout, .value .lengthLimit⟩ found =
        (readNatural found >>= fun limit =>
          .ok ⟨members.set .lengthLimit (some limit), layout, .separator⟩) := by
      cases found <;> first | rfl | exact absurd rfl null
    rw [natural, bind_eq_ok]
    simp only [readNatural_eq_ok_iff, null, false_and, false_or, Except.ok.injEq]
    simp only [eq_comm]

theorem foldlM_lengthLimit :
    value.lexemes.foldlM step ⟨members, layout, .value .lengthLimit⟩ = .ok next ↔
      ∃ limit : Option UInt64, Entry.lengthLimit.Writes limit value ∧
        next = ⟨members.set .lengthLimit limit, layout, .separator⟩ := by
  rw [foldlM_first (by rintro _ ⟨⟩) (by rintro _ ⟨⟩), step_lengthLimit_eq_ok_iff, Option.exists]
  simp only [Value.first_eq_null_iff, Value.first_eq_natural_iff, Entry.Writes]

/-! ### Lists of words -/

/-- Only a string goes on a list of words, as its text. -/
theorem foldlM_word {words : List String} {closable : Bool} :
    value.lexemes.foldlM step ⟨members, layout, .word words closable⟩ = .ok next ↔
      ∃ word, value = .string word ∧ next = ⟨members, layout, .wordSeparator (word :: words)⟩ := by
  rw [foldlM_first (by rintro _ ⟨⟩) (by rintro _ ⟨⟩)]
  have read : step ⟨members, layout, .word words closable⟩ value.first =
      (readText value.first >>= fun word =>
        .ok ⟨members, layout, .wordSeparator (word :: words)⟩) := by
    have notEnd := value.first_ne_closeBracket
    cases found : value.first <;> first | rfl | exact absurd found notEnd
  rw [read, bind_eq_ok]
  simp only [readText_eq_ok_iff, Value.first_eq_string_iff, Except.ok.injEq]
  simp only [eq_comm]

theorem reads_words : Json.Reads step Value.lexemes .closeBracket
    (fun words value words' => ∃ word, value = .string word ∧ words' = word :: words)
    (fun words closable => ⟨members, layout, .word words closable⟩)
    (fun words => ⟨members, layout, .wordSeparator words⟩)
    (fun words => ⟨members.set .reservedWords words.reverse, layout, .separator⟩) where
  item words closable value next := by
    rw [foldlM_word]
    constructor
    · rintro ⟨word, rfl, rfl⟩
      exact ⟨_, ⟨word, rfl, rfl⟩, rfl⟩
    · rintro ⟨_, ⟨word, rfl, rfl⟩, rfl⟩
      exact ⟨word, rfl, rfl⟩
  comma _ := rfl
  last _ := rfl
  nothing _ := rfl

theorem foldlM_reservedWords :
    value.lexemes.foldlM step ⟨members, layout, .value .reservedWords⟩ = .ok next ↔
      ∃ words : List String, value = .array (words.map .string) ∧
        next = ⟨members.set .reservedWords words, layout, .separator⟩ := by
  rw [Json.foldlM_array ⟨members, layout, .word [] true⟩
    (by rintro ⟨⟩ <;> simp [step, stepValue, expect, eq_comm])]
  simp only [reads_words.separated, Json.chain_iff_foldl fun _ _ _ => Iff.rfl]
  constructor
  · rintro ⟨_, rfl, _, ⟨words, rfl, rfl⟩, rfl⟩
    exact ⟨words, rfl, by simp⟩
  · rintro ⟨words, rfl, rfl⟩
    exact ⟨_, rfl, _, ⟨words, rfl, rfl⟩, by simp⟩

/-! ### Tables -/

/-- Behind an entity and a colon only a string is a table. -/
theorem foldlM_table {tables : TableMapping} {closable : Bool} {member : String × Value} :
    (memberLexemes member).foldlM step ⟨members, layout, .entity tables closable⟩ = .ok next ↔
      ∃ table, member.2 = .string table ∧
        next = ⟨members, layout, .tableSeparator (tables.insert member.1 table)⟩ := by
  have entity : step ⟨members, layout, .entity tables closable⟩ (.string member.1) =
      .ok ⟨members, layout, .entityColon tables member.1⟩ := rfl
  have colon : step ⟨members, layout, .entityColon tables member.1⟩ .colon =
      .ok ⟨members, layout, .table tables member.1⟩ := rfl
  rw [memberLexemes, foldlM_cons_of_step entity, foldlM_cons_of_step colon,
    foldlM_first (by rintro _ ⟨⟩) (by rintro _ ⟨⟩)]
  simp only [step, bind_eq_ok, readText_eq_ok_iff, Value.first_eq_string_iff, expect,
    Except.ok.injEq]
  simp only [eq_comm]

theorem reads_tables : Json.Reads step memberLexemes .closeBrace
    (fun tables member tables' => ∃ entry : String × String,
      member = (entry.1, .string entry.2) ∧ tables' = TableMapping.insert tables entry.1 entry.2)
    (fun tables closable => ⟨members, layout, .entity tables closable⟩)
    (fun tables => ⟨members, layout, .tableSeparator tables⟩)
    (fun tables => ⟨members.set .tables tables, layout, .separator⟩) where
  item tables closable member next := by
    rw [foldlM_table]
    constructor
    · rintro ⟨table, isString, rfl⟩
      exact ⟨_, ⟨(member.1, table), Prod.ext rfl isString, rfl⟩, rfl⟩
    · rintro ⟨_, ⟨entry, rfl, rfl⟩, rfl⟩
      exact ⟨entry.2, rfl, rfl⟩
  comma _ := rfl
  last _ := rfl
  nothing _ := rfl

theorem foldlM_tables :
    value.lexemes.foldlM step ⟨members, layout, .value .tables⟩ = .ok next ↔
      ∃ mapping : TableMapping, Entry.tables.Writes mapping value ∧
        next = ⟨members.set .tables mapping, layout, .separator⟩ := by
  rw [Json.foldlM_object ⟨members, layout, .entity .empty true⟩
    (by rintro ⟨⟩ <;> simp [step, stepValue, expect, eq_comm])]
  simp only [reads_tables.separated, Json.chain_iff_foldl fun _ _ _ => Iff.rfl, Entry.Writes,
    ← TableMapping.eq_ofList_iff]
  constructor
  · rintro ⟨_, rfl, _, ⟨entries, rfl, rfl⟩, rfl⟩
    exact ⟨_, ⟨entries, rfl, rfl⟩, rfl⟩
  · rintro ⟨_, ⟨entries, rfl, rfl⟩, rfl⟩
    exact ⟨_, rfl, _, ⟨entries, rfl, rfl⟩, rfl⟩

/-! ### Dialects -/

/-- In an object for a dialect a member is the name with null. -/
theorem foldlM_variant {member : String × Value} :
    (memberLexemes member).foldlM step ⟨members, layout, .variant⟩ = .ok next ↔
      ∃ chosen : Dialect, member = (chosen.name, .null) ∧
        next = ⟨members, layout, .variantEnd chosen⟩ := by
  have named (between : Draft) :
      step ⟨members, layout, .variant⟩ (.string member.1) = .ok between ↔
        ∃ chosen : Dialect, member.1 = chosen.name ∧
          between = ⟨members, layout, .variantColon chosen⟩ := by
    simp only [step, bind_eq_ok, readDialect_eq_ok_iff, expect, Except.ok.injEq]
    simp only [eq_comm]
  have unit (chosen : Dialect) (found : Lexeme) :
      step ⟨members, layout, .variantValue chosen⟩ found = .ok next ↔
        found = .null ∧ next = ⟨members, layout, .variantEnd chosen⟩ := by
    cases found <;> simp [step, expect, eq_comm]
  have value (chosen : Dialect) :
      (Lexeme.colon :: member.2.lexemes).foldlM step ⟨members, layout, .variantColon chosen⟩ =
        .ok next ↔ member.2 = .null ∧ next = ⟨members, layout, .variantEnd chosen⟩ := by
    have colon : step ⟨members, layout, .variantColon chosen⟩ .colon =
        .ok ⟨members, layout, .variantValue chosen⟩ := rfl
    rw [foldlM_cons_of_step colon, foldlM_first (by rintro _ ⟨⟩) (by rintro _ ⟨⟩), unit,
      Value.first_eq_null_iff]
  rw [memberLexemes, foldlM_cons_eq_ok]
  simp only [named]
  constructor
  · rintro ⟨_, ⟨chosen, name, rfl⟩, rest⟩
    obtain ⟨null, rfl⟩ := (value chosen).mp rest
    exact ⟨chosen, Prod.ext name null, rfl⟩
  · rintro ⟨chosen, rfl, rfl⟩
    exact ⟨_, ⟨chosen, rfl, rfl⟩, (value chosen).mpr ⟨rfl, rfl⟩⟩

/-- There is no other member. -/
theorem foldlM_variants {listed : List (String × Value)} :
    (separated (listed.map memberLexemes) ++ [Lexeme.closeBrace]).foldlM step
        ⟨members, layout, .variant⟩ = .ok next ↔
      ∃ chosen : Dialect, listed = [(chosen.name, .null)] ∧
        next = ⟨members.set .dialect chosen, layout, .separator⟩ := by
  cases listed with
  | nil =>
      refine iff_of_false ?_ (by rintro ⟨_, ⟨⟩, _⟩)
      rintro ⟨⟩
  | cons member others =>
      rw [List.map_cons, separated, List.append_assoc, foldlM_append_eq_ok]
      simp only [foldlM_variant]
      constructor
      · rintro ⟨_, ⟨chosen, rfl, rfl⟩, rest⟩
        cases others with
        | nil =>
            cases rest
            exact ⟨chosen, rfl, rfl⟩
        | cons => cases rest
      · rintro ⟨chosen, same, rfl⟩
        obtain ⟨rfl, rfl⟩ := List.cons.inj same
        exact ⟨_, ⟨chosen, rfl, rfl⟩, rfl⟩

theorem step_dialect_eq_ok_iff {found : Lexeme} {between : Draft} :
    step ⟨members, layout, .value .dialect⟩ found = .ok between ↔
      (∃ chosen : Dialect, found = .string chosen.name ∧
        between = ⟨members.set .dialect chosen, layout, .separator⟩) ∨
      found = .openBrace ∧ between = ⟨members, layout, .variant⟩ := by
  cases found with
  | string name =>
      have read : step ⟨members, layout, .value .dialect⟩ (.string name) =
          (readDialect name >>= fun chosen =>
            .ok ⟨members.set .dialect chosen, layout, .separator⟩) := rfl
      rw [read, bind_eq_ok]
      simp only [readDialect_eq_ok_iff, Lexeme.string.injEq, reduceCtorEq, false_and, or_false,
        Except.ok.injEq]
      simp only [eq_comm]
  | openBrace => simp [step, stepValue, expect, eq_comm]
  | _ => simp [step, stepValue]

theorem foldlM_dialect :
    value.lexemes.foldlM step ⟨members, layout, .value .dialect⟩ = .ok next ↔
      ∃ chosen : Dialect, Entry.dialect.Writes chosen value ∧
        next = ⟨members.set .dialect chosen, layout, .separator⟩ := by
  simp only [Json.foldlM_lexemes_eq_ok, step_dialect_eq_ok_iff]
  constructor
  · rintro ⟨_, _, _, lexemes, ⟨chosen, rfl, rfl⟩ | ⟨rfl, rfl⟩, rest⟩
    · obtain ⟨rfl, rfl⟩ := Value.eq_string_of_lexemes lexemes
      exact ⟨chosen, .inl rfl, foldlM_nil_eq_ok.mp rest⟩
    · obtain ⟨listed, rfl, rfl⟩ := Value.eq_object_of_lexemes lexemes
      obtain ⟨chosen, rfl, rfl⟩ := foldlM_variants.mp rest
      exact ⟨chosen, .inr rfl, rfl⟩
  · rintro ⟨chosen, rfl | rfl, rfl⟩
    · exact ⟨_, _, _, Value.lexemes_string _, .inl ⟨chosen, rfl, rfl⟩, foldlM_nil_eq_ok.mpr rfl⟩
    · exact ⟨_, _, _, Value.lexemes_object _, .inr ⟨rfl, rfl⟩,
        foldlM_variants.mpr ⟨chosen, rfl, rfl⟩⟩

/-- The value of a member is read exactly if it writes a choice, which is then made. -/
theorem foldlM_value {entry : Entry} :
    value.lexemes.foldlM step ⟨members, layout, .value entry⟩ = .ok next ↔
      ∃ choice : entry.Choice, entry.Writes choice value ∧
        next = ⟨members.set entry choice, layout, .separator⟩ := by
  cases entry with
  | nestingLimit => exact foldlM_nestingLimit
  | lengthLimit => exact foldlM_lengthLimit
  | reservedWords => exact foldlM_reservedWords
  | dialect => exact foldlM_dialect
  | tables => exact foldlM_tables

end

end WhereClause.Settings.Draft
