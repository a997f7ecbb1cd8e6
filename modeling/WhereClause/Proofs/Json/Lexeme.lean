/-
# The lexemes of a value

A value is cut into the same lexemes however it is written: its marks, strings, words and
numbers, without the white space between them and with the escapes resolved. The one thing
that may go wrong is a number that is too great for a double; nothing behind it is read.
-/

import WhereClause.Proofs.Json.Number
import WhereClause.Proofs.Json.Quoted

namespace WhereClause.Json

/-! ### One lexeme after another -/

theorem lexemesFrom_eq (done : List Lexeme) (text : List Char) :
    lexemesFrom done text =
      match text.dropWhile isSpace with
      | [] => done.reverse
      | c :: rest =>
        match readLexeme? (c :: rest) with
        | some (lexeme, after) => lexemesFrom (lexeme :: done) after
        | none => (.broken :: done).reverse := by
  rw [lexemesFrom]
  split
  · next visible => rw [visible]
  · next c rest visible =>
      rw [visible]
      split
      · next read => simp only [read]
      · next read => simp only [read]

/-- A lexeme takes at least one character off the text. -/
theorem length_lt_of_readLexeme? {text rest after : List Char} {c : Char} {lexeme : Lexeme}
    (visible : text.dropWhile isSpace = c :: rest)
    (read : readLexeme? (c :: rest) = some (lexeme, after)) : after.length < text.length :=
  calc after.length < (c :: rest).length := length_readLexeme? read
    _ = (text.dropWhile isSpace).length := by rw [visible]
    _ ≤ text.length := (List.dropWhile_suffix _).length_le

/-- Lexemes that have been read do not matter to those that follow. -/
theorem lexemesFrom_eq_append (done : List Lexeme) (text : List Char) :
    lexemesFrom done text = done.reverse ++ lexemesFrom [] text := by
  rw [lexemesFrom_eq, lexemesFrom_eq []]
  split
  · simp
  · next c rest visible =>
      split
      · next lexeme after read =>
          have shorter := length_lt_of_readLexeme? visible read
          rw [lexemesFrom_eq_append (lexeme :: done), lexemesFrom_eq_append [lexeme]]
          simp
      · simp
termination_by text.length

theorem isSpace_iff {c : Char} : isSpace c = true ↔ c = ' ' ∨ c = '\t' ∨ c = '\n' ∨ c = '\r' := by
  simp only [isSpace, Bool.or_eq_true, beq_iff_eq]
  tauto

/-- White space is skipped. -/
theorem lexemesFrom_spaces {spaces : List Char} (isSpaces : IsSpaces spaces) (text : List Char) :
    lexemesFrom [] (spaces ++ text) = lexemesFrom [] text := by
  have skipped : (spaces ++ text).dropWhile isSpace = text.dropWhile isSpace :=
    List.dropWhile_append_of_pos fun c there => isSpace_iff.mpr (isSpaces c there)
  rw [lexemesFrom_eq, lexemesFrom_eq [] text, skipped]

/-- No lexeme begins with white space. -/
theorem readLexeme?_space {c : Char} (space : isSpace c = true) (rest : List Char) :
    readLexeme? (c :: rest) = none := by
  rcases isSpace_iff.mp space with rfl | rfl | rfl | rfl <;> rfl

theorem lexemesFrom_lexeme {text rest : List Char} {lexeme : Lexeme}
    (read : readLexeme? text = some (lexeme, rest)) :
    lexemesFrom [] text = lexeme :: lexemesFrom [] rest := by
  cases text with
  | nil => cases read
  | cons c text =>
      have visible : ¬ isSpace c = true := by
        intro space
        rw [readLexeme?_space space] at read
        cases read
      rw [lexemesFrom_eq, List.dropWhile_cons_of_neg visible]
      simp only [read]
      rw [lexemesFrom_eq_append]
      rfl

/-! ### Texts that cannot be cut on -/

/-- The lexemes up to the place where a text cannot be cut on, if there is one. -/
def throughBroken : List Lexeme → List Lexeme
  | [] => []
  | lexeme :: rest => lexeme :: if lexeme = .broken then [] else throughBroken rest

theorem throughBroken_append_throughBroken (lexemes others : List Lexeme) :
    throughBroken (lexemes ++ throughBroken others) = throughBroken (lexemes ++ others) := by
  induction lexemes with
  | nil =>
      rw [List.nil_append, List.nil_append]
      induction others with
      | nil => rfl
      | cons lexeme rest ih =>
          by_cases broken : lexeme = .broken
          · simp [throughBroken, broken]
          · simp [throughBroken, broken, ih]
  | cons lexeme rest ih => simp only [List.cons_append, throughBroken, ih]

/-- A reader that does not go on where the text is broken does not see what is behind. -/
theorem foldlM_throughBroken {ε σ : Type} {step : σ → Lexeme → Except ε σ}
    (refuses : ∀ state, ∃ fault, step state .broken = .error fault) (state : σ)
    (lexemes : List Lexeme) :
    (throughBroken lexemes).foldlM step state = lexemes.foldlM step state := by
  induction lexemes generalizing state with
  | nil => rfl
  | cons lexeme rest ih =>
      by_cases broken : lexeme = .broken
      · obtain ⟨fault, stops⟩ := refuses state
        rw [throughBroken, if_pos broken, broken, List.foldlM_cons, List.foldlM_cons, stops]
        rfl
      · rw [throughBroken, if_neg broken, List.foldlM_cons, List.foldlM_cons]
        exact congrArg _ (funext fun next => ih next)

/-- A lexeme that is read is whole. -/
theorem ne_broken_of_readLexeme? {text rest : List Char} {lexeme : Lexeme}
    (read : readLexeme? text = some (lexeme, rest)) : lexeme ≠ .broken := by
  unfold readLexeme? at read
  split at read
  all_goals first
    | cases read
    | (obtain ⟨_, _, made⟩ := Option.map_eq_some_iff.mp read
       cases made)
  all_goals rintro ⟨⟩

/-- Nothing is read behind the place where a text is broken. -/
theorem throughBroken_lexemesFrom (text : List Char) :
    throughBroken (lexemesFrom [] text) = lexemesFrom [] text := by
  rw [lexemesFrom_eq]
  split
  · rfl
  · next c rest visible =>
      split
      · next lexeme after read =>
          have shorter := length_lt_of_readLexeme? visible read
          rw [lexemesFrom_eq_append, List.reverse_singleton, List.singleton_append, throughBroken,
            if_neg (ne_broken_of_readLexeme? read), throughBroken_lexemesFrom after]
      · rfl
termination_by text.length

/-- A text that is cut into lexemes, whatever follows it. -/
def Cuts (text : List Char) (lexemes : List Lexeme) : Prop :=
  ∀ rest, lexemesFrom [] (text ++ rest) = throughBroken (lexemes ++ lexemesFrom [] rest)

/-- A text that is cut into lexemes if no number goes on behind it. -/
def Yields (text : List Char) (lexemes : List Lexeme) : Prop :=
  ∀ rest, Ends rest →
    lexemesFrom [] (text ++ rest) = throughBroken (lexemes ++ lexemesFrom [] rest)

theorem Cuts.yields {text : List Char} {lexemes : List Lexeme} (cuts : Cuts text lexemes) :
    Yields text lexemes :=
  fun rest _ => cuts rest

section

variable {text text' : List Char} {lexemes lexemes' : List Lexeme}

theorem Cuts.append_yields (cuts : Cuts text lexemes) (yields : Yields text' lexemes') :
    Yields (text ++ text') (lexemes ++ lexemes') := by
  intro rest ends
  rw [List.append_assoc, cuts, yields rest ends, throughBroken_append_throughBroken,
    List.append_assoc]

theorem Yields.append (yields : Yields text lexemes) (yields' : Yields text' lexemes')
    (ends : Ends text') : Yields (text ++ text') (lexemes ++ lexemes') := by
  intro rest rest_ends
  rw [List.append_assoc, yields _ (ends.append rest_ends), yields' rest rest_ends,
    throughBroken_append_throughBroken, List.append_assoc]

theorem cuts_spaces (isSpaces : IsSpaces text) : Cuts text [] := by
  intro rest
  rw [lexemesFrom_spaces isSpaces, List.nil_append, throughBroken_lexemesFrom]

/-- What reads as a lexeme, whatever follows it, is cut into that lexeme. -/
theorem cuts_of_read {lexeme : Lexeme}
    (read : ∀ rest, readLexeme? (text ++ rest) = some (lexeme, rest)) : Cuts text [lexeme] := by
  intro rest
  rw [lexemesFrom_lexeme (read rest), List.singleton_append, throughBroken,
    if_neg (ne_broken_of_readLexeme? (read rest)), throughBroken_lexemesFrom]

end

/-! ### Values -/

/-- Lexemes of items, with commas between them. -/
def separated : List (List Lexeme) → List Lexeme
  | [] => []
  | first :: rest => first ++ rest.flatMap (.comma :: ·)

theorem separated_cons (first : List Lexeme) {rest : List (List Lexeme)} (nonempty : rest ≠ []) :
    separated (first :: rest) = first ++ .comma :: separated rest := by
  obtain ⟨second, others, rfl⟩ := List.exists_cons_of_ne_nil nonempty
  rfl

/-- The lexeme of a number. -/
def Figure.lexeme (figure : Figure) : Lexeme :=
  match Number.read? figure.text with
  | some (number, _) => .number number
  | none => .broken

theorem sizeOf_element_lt {element : Value} {elements : List Value}
    (there : element ∈ elements) : sizeOf element < sizeOf (Value.array elements) := by
  have := List.sizeOf_lt_of_mem there
  rw [Value.array.sizeOf_spec]
  omega

theorem sizeOf_member_lt {member : String × Value} {members : List (String × Value)}
    (there : member ∈ members) : sizeOf member.2 < sizeOf (Value.object members) := by
  have := List.sizeOf_lt_of_mem there
  rw [Value.object.sizeOf_spec]
  obtain ⟨key, value⟩ := member
  rw [Prod.mk.sizeOf_spec] at this
  dsimp only
  omega

/-- The lexemes of a value. -/
def Value.lexemes : Value → List Lexeme
  | .null => [.null]
  | .boolean value => [.boolean value]
  | .number figure => [figure.lexeme]
  | .string text => [.string text]
  | .array elements =>
    .openBracket :: (separated (elements.map fun element => element.lexemes) ++ [.closeBracket])
  | .object members =>
    .openBrace :: (separated
      (members.map fun member => .string member.1 :: .colon :: member.2.lexemes) ++ [.closeBrace])
decreasing_by
  · exact sizeOf_element_lt ‹_›
  · exact sizeOf_member_lt ‹_›

/-- The first lexeme of a value. -/
def Value.first : Value → Lexeme
  | .null => .null
  | .boolean value => .boolean value
  | .number figure => figure.lexeme
  | .string text => .string text
  | .array _ => .openBracket
  | .object _ => .openBrace

/-- The lexemes of a member: a key and a value with a colon between them. -/
def memberLexemes (member : String × Value) : List Lexeme :=
  .string member.1 :: .colon :: member.2.lexemes

theorem Value.lexemes_string (text : String) : (Value.string text).lexemes = [.string text] := by
  rw [Value.lexemes]

theorem Value.lexemes_array (elements : List Value) : (Value.array elements).lexemes =
    .openBracket :: (separated (elements.map Value.lexemes) ++ [.closeBracket]) := by
  rw [Value.lexemes]

theorem Value.lexemes_object (members : List (String × Value)) : (Value.object members).lexemes =
    .openBrace :: (separated (members.map memberLexemes) ++ [.closeBrace]) := by
  rw [Value.lexemes]
  rfl

theorem SpellsString.cuts {text : String} {written : List Char}
    (spelled : SpellsString text written) : Cuts written [.string text] := by
  obtain ⟨body⟩ := spelled
  refine cuts_of_read fun rest => ?_
  rw [List.cons_append, List.append_assoc, List.singleton_append, readLexeme?,
    body.readQuoted?, Option.map_some, List.reverse_nil, List.nil_append]
  simp only [String.ofList_toList]

/-- A number begins with a digit or a minus. -/
theorem IsNumber.head {text : List Char} (isNumber : IsNumber text) :
    ∃ first others, text = first :: others ∧ (first = '-' ∨ first.isDigit = true) := by
  cases isNumber with
  | number isMinus isWhole =>
      rcases isMinus with rfl | rfl
      · obtain ⟨nonempty, isDigits, -⟩ := isWhole
        obtain ⟨first, others, rfl⟩ := List.exists_cons_of_ne_nil nonempty
        exact ⟨first, _, rfl, .inr (isDigits first List.mem_cons_self)⟩
      · exact ⟨'-', _, rfl, .inl rfl⟩

theorem readLexeme?_number {first : Char} (numeric : first = '-' ∨ first.isDigit = true)
    (rest : List Char) : readLexeme? (first :: rest) =
      (Number.read? (first :: rest)).map fun (value, rest) => (.number value, rest) := by
  rw [readLexeme?]
  · rintro ⟨⟩
  all_goals
    rintro _ same
    obtain ⟨rfl, -⟩ := List.cons.inj same
    revert numeric
    decide

/-- A number is cut off whole, or the text cannot be cut on. -/
theorem Figure.yields (figure : Figure) : Yields figure.text [figure.lexeme] := by
  obtain ⟨number?, reads, -⟩ := Number.read?_append figure.isNumber
  have alone := reads [] (fun c first => by cases first)
  rw [List.append_nil] at alone
  obtain ⟨first, others, begins, numeric⟩ := figure.isNumber.head
  intro rest ends
  have read : readLexeme? (figure.text ++ rest) =
      number?.map fun number => (.number number, rest) := by
    rw [begins, List.cons_append, readLexeme?_number numeric, ← List.cons_append, ← begins,
      reads rest ends, Option.map_map]
    rfl
  cases number? with
  | some number =>
      have whole : figure.lexeme = .number number := by rw [Figure.lexeme, alone]; rfl
      rw [lexemesFrom_lexeme read, whole, List.singleton_append, throughBroken,
        if_neg (by rintro ⟨⟩), throughBroken_lexemesFrom]
  | none =>
      have broken : figure.lexeme = .broken := by rw [Figure.lexeme, alone]; rfl
      have visible : ¬ isSpace first = true := by
        rw [isSpace_iff]
        rcases numeric with rfl | digit
        · decide
        · rintro (rfl | rfl | rfl | rfl) <;> cases digit
      rw [begins, List.cons_append] at read ⊢
      rw [broken, List.singleton_append, throughBroken, if_pos rfl, lexemesFrom_eq,
        List.dropWhile_cons_of_neg visible]
      simp only [read]
      rfl

/-! ### The lexemes of a whole text -/

theorem ends_cons {c : Char} {text : List Char}
    (mark : (c.isDigit || c == '.' || c == 'e' || c == 'E') = false) : Ends (c :: text) := by
  rintro _ ⟨⟩
  simpa [and_assoc] using mark

theorem IsSpaces.ends {spaces : List Char} (isSpaces : IsSpaces spaces) : Ends spaces := by
  intro c first
  rcases isSpaces c (List.mem_of_mem_head? first) with rfl | rfl | rfl | rfl <;> decide

/-- Items are cut one by one. -/
theorem Separated.yields {α : Type} {Spells : α → List Char → Prop} {items : List α}
    {text : List Char} (spelled : Separated Spells items text) (lexemes : α → List Lexeme)
    (item : ∀ item ∈ items, ∀ text, Spells item text → Yields text (lexemes item)) :
    Yields text (separated (items.map lexemes)) := by
  induction spelled with
  | nothing isSpaces => exact (cuts_spaces isSpaces).yields
  | @last first before text after isBefore spelled isAfter =>
      have cut := item first List.mem_cons_self text spelled
      have padded := (cuts_spaces isBefore).append_yields
        (cut.append (cuts_spaces isAfter).yields isAfter.ends)
      simpa [separated] using padded
  | @more first items before text after rest isBefore spelled isAfter nonempty _ ih =>
      have cut := item first List.mem_cons_self text spelled
      have others := ih fun other there => item other (List.mem_cons_of_mem _ there)
      have comma : Cuts [','] [.comma] := cuts_of_read fun rest => rfl
      have tail := (cuts_spaces isAfter).append_yields (comma.append_yields others)
      have padded := (cuts_spaces isBefore).append_yields
        (cut.append tail (isAfter.ends.append (ends_cons (by decide))))
      rw [List.map_cons, separated_cons _ (by simpa using nonempty)]
      simpa using padded

/-- So are a key and a value. -/
theorem SpellsMember.yields {Spells : Value → List Char → Prop} {member : String × Value}
    {text : List Char} (spelled : SpellsMember Spells member text)
    (value : ∀ text, Spells member.2 text → Yields text member.2.lexemes) :
    Yields text (memberLexemes member) := by
  obtain ⟨spelledKey, isBefore, isAfter, spelled⟩ := spelled
  have colon : Cuts [':'] [.colon] := cuts_of_read fun rest => rfl
  have tail := colon.append_yields ((cuts_spaces isAfter).append_yields (value _ spelled))
  exact spelledKey.cuts.append_yields ((cuts_spaces isBefore).append_yields tail)

/-- A value is cut into its lexemes, however it is written. -/
theorem Value.yields (value : Value) {text : List Char} (spelled : value.Spells text) :
    Yields text value.lexemes := by
  cases spelled with
  | null =>
      rw [Value.lexemes]
      exact (cuts_of_read fun rest => rfl).yields
  | true =>
      rw [Value.lexemes]
      exact (cuts_of_read fun rest => rfl).yields
  | false =>
      rw [Value.lexemes]
      exact (cuts_of_read fun rest => rfl).yields
  | number figure =>
      rw [Value.lexemes]
      exact figure.yields
  | string spelled =>
      rw [Value.lexemes]
      exact spelled.cuts.yields
  | @array elements text spelled =>
      have inner := spelled.yields Value.lexemes fun element there text =>
        element.yields
      have opening : Cuts ['['] [.openBracket] := cuts_of_read fun rest => rfl
      have closing : Cuts [']'] [.closeBracket] := cuts_of_read fun rest => rfl
      rw [Value.lexemes]
      exact opening.append_yields (inner.append closing.yields (ends_cons (by decide)))
  | @object members text spelled =>
      have inner := spelled.yields memberLexemes fun member there text spelled =>
        spelled.yields fun text spelled => member.2.yields spelled
      have opening : Cuts ['\x7b'] [.openBrace] := cuts_of_read fun rest => rfl
      have closing : Cuts ['\x7d'] [.closeBrace] := cuts_of_read fun rest => rfl
      rw [Value.lexemes]
      exact opening.append_yields (inner.append closing.yields (ends_cons (by decide)))
termination_by sizeOf value
decreasing_by
  · exact sizeOf_element_lt ‹_›
  · exact sizeOf_member_lt ‹_›

/-- A text that writes a value has the lexemes of the value, unless it is broken by a number. -/
theorem lexemes_of_spellsText {value : Value} {text : String}
    (spelled : SpellsText value text.toList) :
    lexemes text = throughBroken value.lexemes := by
  rw [lexemes]
  generalize text.toList = letters at spelled
  obtain ⟨isBefore, spelled, isAfter⟩ := spelled
  have whole := (cuts_spaces isBefore).append_yields
    ((value.yields spelled).append (cuts_spaces isAfter).yields isAfter.ends)
  have alone := whole [] fun c first => by cases first
  have nothing : lexemesFrom [] [] = [] := by rw [lexemesFrom_eq]; rfl
  simpa [nothing] using alone

/-! ### Telling values by their first lexeme -/

/-- Only arrays and objects have more than one lexeme. -/
theorem Value.lexemes_cases (value : Value) :
    (∃ others, value.lexemes = .openBracket :: others ∧ value.first = .openBracket) ∨
    (∃ others, value.lexemes = .openBrace :: others ∧ value.first = .openBrace) ∨
    value.lexemes = [value.first] := by
  cases value with
  | array elements => exact .inl ⟨_, by rw [Value.lexemes], rfl⟩
  | object members => exact .inr (.inl ⟨_, by rw [Value.lexemes], rfl⟩)
  | _ => exact .inr (.inr (by rw [Value.lexemes]; rfl))

theorem Value.exists_lexemes (value : Value) : ∃ others, value.lexemes = value.first :: others := by
  rcases value.lexemes_cases with ⟨others, lexemes, first⟩ | ⟨others, lexemes, first⟩ | lexemes
  · exact ⟨others, first ▸ lexemes⟩
  · exact ⟨others, first ▸ lexemes⟩
  · exact ⟨[], lexemes⟩

theorem Figure.lexeme_cases (figure : Figure) :
    (∃ number, figure.lexeme = .number number) ∨ figure.lexeme = .broken := by
  unfold Figure.lexeme
  split
  · exact .inl ⟨_, rfl⟩
  · exact .inr rfl

theorem Value.first_eq_string_iff {value : Value} {text : String} :
    value.first = .string text ↔ value = .string text := by
  cases value with
  | number figure => rcases figure.lexeme_cases with ⟨_, made⟩ | made <;> simp [Value.first, made]
  | _ => simp [Value.first]

theorem Value.first_eq_null_iff {value : Value} : value.first = .null ↔ value = .null := by
  cases value with
  | number figure => rcases figure.lexeme_cases with ⟨_, made⟩ | made <;> simp [Value.first, made]
  | _ => simp [Value.first]

/-- A string has no other lexeme. -/
theorem Value.eq_string_of_lexemes {value : Value} {text : String} {others : List Lexeme}
    (lexemes : value.lexemes = .string text :: others) : value = .string text ∧ others = [] := by
  obtain ⟨rest, split⟩ := value.exists_lexemes
  obtain ⟨first, -⟩ := List.cons.inj (split.symm.trans lexemes)
  obtain rfl := Value.first_eq_string_iff.mp first
  rw [Value.lexemes_string] at lexemes
  exact ⟨rfl, (List.cons.inj lexemes).2.symm⟩

/-- What begins with an opening bracket is an array. -/
theorem Value.eq_array_of_lexemes {value : Value} {others : List Lexeme}
    (lexemes : value.lexemes = .openBracket :: others) : ∃ elements, value = .array elements ∧
      others = separated (elements.map Value.lexemes) ++ [.closeBracket] := by
  cases value with
  | array elements =>
      rw [Value.lexemes_array] at lexemes
      exact ⟨elements, rfl, (List.cons.inj lexemes).2.symm⟩
  | number figure =>
      rw [Value.lexemes] at lexemes
      rcases figure.lexeme_cases with ⟨_, made⟩ | made <;> simp [made] at lexemes
  | _ => simp [Value.lexemes] at lexemes

/-- What begins with an opening brace is an object. -/
theorem Value.eq_object_of_lexemes {value : Value} {others : List Lexeme}
    (lexemes : value.lexemes = .openBrace :: others) : ∃ members, value = .object members ∧
      others = separated (members.map memberLexemes) ++ [.closeBrace] := by
  cases value with
  | object members =>
      rw [Value.lexemes_object] at lexemes
      exact ⟨members, rfl, (List.cons.inj lexemes).2.symm⟩
  | number figure =>
      rw [Value.lexemes] at lexemes
      rcases figure.lexeme_cases with ⟨_, made⟩ | made <;> simp [made] at lexemes
  | _ => simp [Value.lexemes] at lexemes

/-- No value begins with a mark that ends one or stands between two. -/
theorem Value.first_ne_closeBracket (value : Value) : value.first ≠ .closeBracket := by
  cases value with
  | number figure => rcases figure.lexeme_cases with ⟨_, made⟩ | made <;> simp [Value.first, made]
  | _ => simp [Value.first]

/-- Natural numbers are told by their digits. -/
theorem Value.first_eq_natural_iff {value : Value} {n : UInt64} :
    value.first = .number (.natural n) ↔ value.IsNatural n := by
  cases value with
  | number figure =>
      obtain ⟨number?, reads, natural⟩ := Number.read?_append figure.isNumber
      have alone := reads [] (fun c first => by cases first)
      rw [List.append_nil] at alone
      have same : figure.lexeme = .number (.natural n) ↔ number? = some (.natural n) := by
        rw [Figure.lexeme, alone]
        cases number? <;> simp
      rw [Value.first, same, natural n]
      simp [Value.IsNatural]
  | _ => simp [Value.first, Value.IsNatural]

end WhereClause.Json
