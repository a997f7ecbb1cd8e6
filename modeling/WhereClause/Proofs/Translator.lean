/-
# What a translated text has gone through

A text that a translator answers with a filter for has been trimmed, was not too
long, was cut into tokens, and the tokens were read. What holds of the tokens of any
text and of the filters of any parser therefore holds here.
-/

import WhereClause.Proofs.Draft.Height
import WhereClause.Proofs.Field
import WhereClause.Proofs.Token.Seam
import WhereClause.Translator

namespace WhereClause

/-- A text without white space at its ends is not trimmed. -/
theorem Text.trim_eq_self {text : String} (first : ∀ c ∈ text.toList.head?, isBlank c = false)
    (last : ∀ c ∈ text.toList.getLast?, isBlank c = false) : trim text = text := by
  have kept {cs : List Char} (first : ∀ c ∈ cs.head?, isBlank c = false) :
      cs.dropWhile isBlank = cs := by
    cases cs with
    | nil => rfl
    | cons c rest => simp [first c rfl]
  have last' : ∀ c ∈ text.toList.reverse.head?, isBlank c = false := by
    rwa [List.head?_reverse]
  rw [trim, trimChars, kept first, kept last', List.reverse_reverse, String.ofList_toList]

/-- What is left of a text when it is trimmed stands in it. -/
theorem Text.trim_isInfix (text : String) : (trim text).toList <:+: text.toList := by
  have suffix (cs : List Char) : cs.dropWhile isBlank <:+ cs := List.dropWhile_suffix _
  rw [trim, String.toList_ofList, trimChars]
  refine List.IsInfix.trans ?_ (suffix text.toList).isInfix
  rw [← List.reverse_infix, List.reverse_reverse]
  exact (suffix _).isInfix

namespace Text

/-- The text is not empty and has no white space at its ends. -/
structure Edged (text : List Char) : Prop where
  first : ∃ c ∈ text.head?, isBlank c = false
  last : ∃ c ∈ text.getLast?, isBlank c = false

namespace Edged

variable {front back : List Char}

/-- The text stays as it is when it is trimmed. -/
theorem trim_eq {text : String} (edged : Edged text.toList) : trim text = text := by
  obtain ⟨⟨first, isFirst, notBlank⟩, ⟨last, isLast, notBlank'⟩⟩ := edged
  apply trim_eq_self
  · rintro c there
    obtain rfl := Option.mem_unique there isFirst
    exact notBlank
  · rintro c there
    obtain rfl := Option.mem_unique there isLast
    exact notBlank'

theorem ne_empty {text : String} (edged : Edged text.toList) : text ≠ "" := by
  rintro rfl
  obtain ⟨c, there, -⟩ := edged.first
  cases there

/-- The ends of a text depend on its first part and its last part only. -/
theorem around (before : Edged front) (middle : List Char) (behind : Edged back) :
    Edged (front ++ middle ++ back) := by
  obtain ⟨first, isFirst, notBlank⟩ := before.first
  obtain ⟨last, isLast, notBlank'⟩ := behind.last
  refine ⟨⟨first, ?_, notBlank⟩, ⟨last, ?_, notBlank'⟩⟩
  · rw [Option.mem_def] at isFirst ⊢
    rw [List.append_assoc, List.head?_append, isFirst, Option.some_or]
  · rw [Option.mem_def] at isLast ⊢
    rw [List.getLast?_append, isLast, Option.some_or]

/-- Two texts with a space between them. -/
theorem spaced (before : Edged front) (behind : Edged back) : Edged (front ++ ' ' :: back) := by
  have whole := before.around [' '] behind
  rwa [List.append_assoc] at whole

/-- A text without white space at all. -/
theorem of_forall {text : List Char} (nonempty : text ≠ [])
    (printed : ∀ c ∈ text, isBlank c = false) : Edged text :=
  ⟨⟨_, List.head?_eq_some_head nonempty, printed _ (List.head_mem nonempty)⟩,
    ⟨_, List.getLast?_eq_some_getLast nonempty, printed _ (List.getLast_mem nonempty)⟩⟩

/-- A word. -/
theorem of_word {word : List Char} (nonempty : word ≠ [])
    (letters : ∀ c ∈ word, Lexer.isDelimiter c = false) : Edged word := by
  refine .of_forall nonempty fun c there => ?_
  have letter := letters c there
  simp only [Lexer.isDelimiter, Bool.or_eq_false_iff] at letter
  exact letter.1.1

theorem of_keyword {word : String} {kind : TokenKind} (spelled : Lexer.SpellsKeyword word kind) :
    Edged word.toList :=
  .of_word spelled.ne_nil spelled.letters

/-- A text between parentheses. -/
theorem enclosed (text : List Char) : Edged ('(' :: text ++ [')']) := by
  have mark {c : Char} (printed : isBlank c = false) : Edged [c] :=
    .of_forall (List.cons_ne_nil c []) (by simpa using printed)
  exact Edged.around (mark rfl) text (mark rfl)

end Edged

end Text

/-- What is left of a text when it is trimmed has white space around it, and nothing else. -/
theorem Text.exists_around_trim (text : String) :
    ∃ front back, (∀ c ∈ front, isBlank c = true) ∧ (∀ c ∈ back, isBlank c = true) ∧
      text.toList = front ++ (trim text).toList ++ back := by
  have divide (cs : List Char) : cs.takeWhile isBlank ++ cs.dropWhile isBlank = cs :=
    List.takeWhile_append_dropWhile
  have blank {cs : List Char} : ∀ c ∈ cs.takeWhile isBlank, isBlank c = true :=
    fun _ => List.mem_takeWhile_imp
  refine ⟨text.toList.takeWhile isBlank,
    ((text.toList.dropWhile isBlank).reverse.takeWhile isBlank).reverse, blank,
    fun c there => blank c (List.mem_reverse.mp there), ?_⟩
  rw [trim, String.toList_ofList, trimChars, List.append_assoc, ← List.reverse_append, divide,
    List.reverse_reverse, divide]

/-- White space around a text makes no token. -/
theorem Lexer.Yields.of_trim {text : String} {tokens : List Token}
    (yields : Yields (Text.trim text).toList tokens) : Yields text.toList tokens := by
  obtain ⟨front, back, before, behind, around⟩ := Text.exists_around_trim text
  rw [around]
  exact yields.surrounded before behind

namespace Translator

/-- Where a text is not too long and can be cut into tokens, reading it is reading the
tokens. -/
theorem read_of_tokenize {translator : Translator} {text : String} {tokens : List Token}
    (short : translator.exceededLimit? text.utf8ByteSize = none)
    (cut : tokenize text = .ok tokens) :
    translator.read text =
      (Filter.ofTokens translator.reserved translator.nestingLimit.toNat tokens).mapError
        .misread := by
  rw [read, short, cut]

/-- A text is read as a filter exactly if every stage succeeds on it. -/
theorem read_eq_ok_iff {translator : Translator} {text : String} {filter : Filter} :
    translator.read text = .ok filter ↔
      translator.exceededLimit? text.utf8ByteSize = none ∧
        ∃ tokens, tokenize text = .ok tokens ∧
          Filter.ofTokens translator.reserved translator.nestingLimit.toNat tokens =
            .ok filter := by
  cases short : translator.exceededLimit? text.utf8ByteSize with
  | some limit => simp [read, short]
  | none =>
      cases cut : tokenize text with
      | error error => simp [read, short, cut]
      | ok tokens =>
          rw [read_of_tokenize short cut]
          cases outcome :
              Filter.ofTokens translator.reserved translator.nestingLimit.toNat tokens with
          | error error => simp [outcome, Except.mapError]
          | ok other => simp [outcome, Except.mapError]

/-- A text has a filter exactly if there is something in it besides white space, which
is read as the filter. -/
theorem parse_eq_some_iff {translator : Translator} {text : String} {filter : Filter} :
    translator.parse text = .ok (some filter) ↔
      Text.trim text ≠ "" ∧ translator.read (Text.trim text) = .ok filter := by
  by_cases empty : Text.trim text = ""
  · simp [parse, empty]
  · cases outcome : translator.read (Text.trim text) with
    | error cause => simp [parse, empty, outcome]
    | ok other => simp [parse, empty, outcome]

/-- A text is converted to the SQL text of its filter. -/
theorem convert_of_parse {translator : Translator} {text : String} {filter : Filter}
    (parsed : translator.parse text = .ok (some filter)) :
    translator.convert text = .ok filter.sql := by
  rw [convert, parsed]
  rfl

/-- What a text is converted to is the SQL text of its filter, or nothing if the text is
blank. -/
theorem parse_of_convert {translator : Translator} {text sql : String}
    (converted : translator.convert text = .ok sql) :
    (translator.parse text = .ok none ∧ sql = "") ∨
      ∃ filter, translator.parse text = .ok (some filter) ∧ sql = filter.sql := by
  rw [convert] at converted
  cases parsed : translator.parse text with
  | error rejection =>
      rw [parsed] at converted
      cases converted
  | ok outcome =>
      rw [parsed] at converted
      have same := (Except.ok.inj converted).symm
      cases outcome with
      | none => exact .inl ⟨rfl, same⟩
      | some filter => exact .inr ⟨filter, rfl, same⟩

/-- The tokens that a filter was read from. -/
theorem ofTokens_of_parse {translator : Translator} {text : String} {filter : Filter}
    (parsed : translator.parse text = .ok (some filter)) :
    ∃ tokens, tokenize (Text.trim text) = .ok tokens ∧
      Filter.ofTokens translator.reserved translator.nestingLimit.toNat tokens = .ok filter :=
  (read_eq_ok_iff.mp (parse_eq_some_iff.mp parsed).2).2

/-- A text without white space at its ends that can be cut into tokens, which are read as a
filter, has the filter. -/
theorem parse_of_cuts {translator : Translator} {text : String} {tokens : List Token}
    {filter : Filter} (trimmed : Text.trim text = text) (notEmpty : text ≠ "")
    (short : translator.exceededLimit? text.utf8ByteSize = none)
    (cuts : Lexer.Cuts [] 0 text.toList tokens)
    (read : Filter.ofTokens translator.reserved translator.nestingLimit.toNat tokens =
      .ok filter) : translator.parse text = .ok (some filter) := by
  rw [parse_eq_some_iff, trimmed, read_eq_ok_iff]
  exact ⟨notEmpty, short, tokens, cuts.tokenize, read⟩

/-- The text is refused, and this is wrong with its tokens. -/
structure Refuses (translator : Translator) (text : String) (error : SyntaxError) : Prop where
  parse : translator.parse text = .error ⟨Text.trim text, .misread error⟩
  convert : translator.convert text = .error ⟨Text.trim text, .misread error⟩

/-- What is not read is not converted, for the same reason. -/
theorem refuses_of_parse {translator : Translator} {text : String} {error : SyntaxError}
    (refused : translator.parse text = .error ⟨Text.trim text, .misread error⟩) :
    translator.Refuses text error :=
  ⟨refused, by rw [convert, refused]; rfl⟩

/-- A text that is not too long and has tokens is refused if the tokens are. -/
theorem refuses_of_ofTokens {translator : Translator} {text : String} {tokens : List Token}
    {error : SyntaxError}
    (short : translator.exceededLimit? (Text.trim text).utf8ByteSize = none)
    (cut : tokenize (Text.trim text) = .ok tokens) (nonempty : tokens ≠ [])
    (failed : Filter.ofTokens translator.reserved translator.nestingLimit.toNat tokens =
      .error error) : translator.Refuses text error := by
  have notEmpty : (Text.trim text).isEmpty = false := by
    rw [Bool.eq_false_iff]
    intro empty
    rw [String.isEmpty_iff.mp empty, Lexer.tokenize_empty] at cut
    exact nonempty (Except.ok.inj cut).symm
  apply refuses_of_parse
  rw [parse, read_of_tokenize short cut, failed]
  simp [notEmpty, Except.mapError]

/-- Without a length limit no text is too long. -/
theorem exceededLimit?_of_unlimited {translator : Translator}
    (unlimited : translator.lengthLimit = none) (length : Nat) :
    translator.exceededLimit? length = none := by
  rw [exceededLimit?, unlimited]
  rfl

/-- A text is not too long if there is no limit that is less than its length. -/
theorem exceededLimit?_eq_none_iff {translator : Translator} {length : Nat} :
    translator.exceededLimit? length = none ↔
      ∀ limit ∈ translator.lengthLimit, length ≤ limit.toNat := by
  cases limited : translator.lengthLimit with
  | none => simp [exceededLimit?, limited]
  | some limit => simp [exceededLimit?, limited, Option.filter]

/-- A text that is made of some tokens is read as such tokens are. -/
theorem parse_of_yields {translator : Translator} {text : String} {tokens : List Token}
    (edged : Text.Edged text.toList)
    (short : translator.exceededLimit? text.utf8ByteSize = none)
    (yields : Lexer.Yields text.toList tokens) :
    ∃ placed, List.Forall₂ Token.Alike tokens placed ∧
      translator.parse text =
        ((Filter.ofTokens translator.reserved translator.nestingLimit.toNat placed).map
          some).mapError fun error => ⟨text, .misread error⟩ := by
  obtain ⟨placed, alike, cuts⟩ := yields
  refine ⟨placed, alike, ?_⟩
  have notEmpty : text.isEmpty = false := by simpa using edged.ne_empty
  rw [parse, edged.trim_eq, read_of_tokenize short cuts.tokenize]
  cases outcome :
      Filter.ofTokens translator.reserved translator.nestingLimit.toNat placed with
  | ok filter => simp [notEmpty, Except.mapError, Except.map]
  | error error => simp [notEmpty, Except.mapError, Except.map]

/-- A filter is no higher than its text is long. -/
theorem height_le_utf8ByteSize {translator : Translator} {text : String} {filter : Filter}
    (parsed : translator.parse text = .ok (some filter)) :
    filter.height ≤ text.utf8ByteSize := by
  obtain ⟨tokens, cut, read⟩ := ofTokens_of_parse parsed
  calc
    filter.height ≤ tokens.length := Filter.height_le_of_parse read
    _ ≤ (Text.trim text).toList.length := (Lexer.tokenize_eq_ok_iff_cuts.mp cut).length_le
    _ ≤ text.toList.length := (Text.trim_isInfix text).length_le
    _ ≤ Lexer.utf8Length text.toList := Lexer.length_le_utf8Length _
    _ = text.utf8ByteSize := Lexer.utf8Length_toList text

end Translator

end WhereClause
