/-
# No statement ends in the text of a filter

A semicolon would end the statement that a filter is part of, and a comment mark
would take the rest of it away. Neither occurs in what is written of a translated
filter, in whatever piece of the text and across whatever two pieces.

The values are checked one at a time, and numbers not at all, so there are two parts
to this. A number has a dash in front of its digits only, at its beginning and at the
beginning of its exponent. And nothing that is written ends with a character that
begins one of the sequences, so that none comes about where the pieces meet.
-/

import WhereClause.Proofs.Filter.Writing
import WhereClause.Proofs.Numeral
import WhereClause.Proofs.Translator

namespace WhereClause

/-- An occurrence in two texts together is one in the first, one in the second, or begins
at the end of the first and goes on at the beginning of the second. -/
theorem Text.infix_append_cases {sequence front back : List Char}
    (occurs : sequence <:+: front ++ back) :
    sequence <:+: front ∨ sequence <:+: back ∨
      ∃ first second, first ≠ [] ∧ second ≠ [] ∧ sequence = first ++ second ∧
        first <:+ front := by
  obtain ⟨before, after, same⟩ := occurs
  rcases List.append_eq_append_iff.mp same with ⟨rest, rfl, -⟩ | ⟨second, split, rfl⟩
  · exact .inl ⟨before, rest, rfl⟩
  · rcases List.append_eq_append_iff.mp split with ⟨first, rfl, rfl⟩ | ⟨between, -, rfl⟩
    · by_cases noFirst : first = []
      · subst noFirst
        exact .inr (.inl (List.prefix_append second after).isInfix)
      · by_cases noSecond : second = []
        · subst noSecond
          rw [List.append_nil]
          exact .inl (List.suffix_append before first).isInfix
        · exact .inr (.inr ⟨first, second, noFirst, noSecond, rfl, List.suffix_append _ _⟩)
    · exact .inr (.inl ⟨between, after, rfl⟩)

namespace Sql

/-- A character with which a forbidden sequence begins that does not end with it. -/
def opensMark (c : Char) : Bool :=
  c == '-' || c == '/' || c == '*'

/-- A character that stands in no forbidden sequence. -/
def isInert (c : Char) : Bool :=
  !opensMark c && c != ';'

/-- No forbidden sequence stands in the text, and none can begin with the end of it. -/
structure Sealed (text : List Char) : Prop where
  free : ∀ sequence ∈ Literal.forbiddenSequences, ¬ sequence.toList <:+: text
  last : ∀ c ∈ text.getLast?, opensMark c = false

/-- A forbidden sequence is cut only behind a character that opens a mark. -/
theorem opensMark_of_split {sequence : String} (forbidden : sequence ∈ Literal.forbiddenSequences)
    {first second : List Char} (nonempty : first ≠ []) (nonempty' : second ≠ [])
    (split : sequence.toList = first ++ second) : ∃ c, first = [c] ∧ opensMark c = true := by
  obtain ⟨c, more, rfl⟩ := List.exists_cons_of_ne_nil nonempty
  obtain ⟨d, rest, rfl⟩ := List.exists_cons_of_ne_nil nonempty'
  have short : sequence.toList.length ≤ 2 ∧
      (sequence.toList.length = 2 → sequence.toList.all opensMark = true) := by
    have checked : ∀ sequence ∈ Literal.forbiddenSequences, sequence.toList.length ≤ 2 ∧
        (sequence.toList.length = 2 → sequence.toList.all opensMark = true) := by decide
    exact checked sequence forbidden
  rw [split] at short
  simp only [List.cons_append, List.length_cons, List.length_append] at short
  have alone : more = [] := List.eq_nil_of_length_eq_zero (by omega)
  subst alone
  have opens := short.2 (by simp only [List.length_nil] at *; omega)
  exact ⟨c, rfl, List.all_eq_true.mp opens c List.mem_cons_self⟩

namespace Sealed

variable {front back : List Char}

/-- Two such texts together are one. -/
theorem append (first : Sealed front) (second : Sealed back) : Sealed (front ++ back) := by
  constructor
  · intro sequence forbidden occurs
    rcases Text.infix_append_cases occurs with here | here | ⟨start, rest, some, more, split, ends⟩
    · exact first.free sequence forbidden here
    · exact second.free sequence forbidden here
    · obtain ⟨c, rfl, opens⟩ := opensMark_of_split forbidden some more split
      obtain ⟨before, rfl⟩ := ends
      have closed := first.last c (by simp)
      rw [opens] at closed
      cases closed
  · intro c ends
    rw [List.getLast?_append] at ends
    cases there : back.getLast? with
    | none =>
        rw [there] at ends
        exact first.last c ends
    | some d =>
        rw [there] at ends
        exact second.last c (there ▸ ends)

/-- A text in which nothing occurs that stands in a forbidden sequence. -/
theorem of_inert {text : List Char} (inert : text.all isInert = true) : Sealed text := by
  rw [List.all_eq_true] at inert
  constructor
  · intro sequence forbidden occurs
    have hostile : ∀ sequence ∈ Literal.forbiddenSequences,
        sequence.toList.all isInert = false := by decide
    have within : sequence.toList.all isInert = true :=
      List.all_eq_true.mpr fun c there => inert c (occurs.subset there)
    rw [hostile sequence forbidden] at within
    cases within
  · intro c ends
    have harmless := inert c (List.mem_of_getLast? ends)
    rw [isInert, Bool.and_eq_true] at harmless
    simpa using harmless.1

/-- A single character that stands in no forbidden sequence, in front of a text. -/
theorem cons {c : Char} (inert : isInert c = true) (sealed : Sealed back) :
    Sealed (c :: back) := by
  have single : Sealed [c] := of_inert (by simp [inert])
  exact single.append sealed

/-- A text between parentheses. -/
theorem enclosed {text : List Char} (inside : Sealed text) :
    Sealed ('(' :: text ++ [')']) := by
  have closing : Sealed [')'] := .of_inert rfl
  exact (inside.append closing).cons rfl

/-- A dash in front of a text that begins with something harmless. -/
theorem dash {c : Char} (harmless : opensMark c = false) (sealed : Sealed (c :: back)) :
    Sealed ('-' :: c :: back) := by
  constructor
  · intro sequence forbidden occurs
    rcases List.infix_cons_iff.mp occurs with here | later
    · have dashes : ∀ sequence ∈ Literal.forbiddenSequences,
          sequence.toList.head? = some '-' → sequence.toList = ['-', '-'] := by decide
      have filled : ∀ sequence ∈ Literal.forbiddenSequences, sequence.toList ≠ [] := by decide
      obtain ⟨d, more, spelled⟩ := List.exists_cons_of_ne_nil (filled sequence forbidden)
      rw [spelled, List.cons_prefix_cons] at here
      have doubled := dashes sequence forbidden (by rw [spelled, here.1]; rfl)
      rw [spelled, here.1] at doubled
      rw [(List.cons.inj doubled).2, List.cons_prefix_cons] at here
      rw [← here.2.1] at harmless
      cases harmless
    · exact sealed.free sequence forbidden later
  · intro d ends
    exact sealed.last d (by simpa using ends)

end Sealed

/-! ### The pieces of the text -/

/-- Characters that have a property that no hostile character has are harmless. -/
theorem Sealed.of_all {kind : Char → Bool} {text : List Char}
    (ascii : ∀ c, kind c = true → c.toNat < 128)
    (inert : ∀ code < 128, kind (Char.ofNat code) = true → isInert (Char.ofNat code) = true)
    (all : ∀ c ∈ text, kind c = true) : Sealed text := by
  have checked : ∀ c : Char, c.toNat < 128 → kind c = true → isInert c = true :=
    Text.forall_ascii inert
  exact .of_inert (List.all_eq_true.mpr fun c there =>
    checked c (ascii c (all c there)) (all c there))

/-- A name in snake case. -/
theorem sealed_of_isSnakeName {name : List Char} (snake : Field.isSnakeName name = true) :
    Sealed name :=
  .of_all (fun _ part => Field.ascii_of_isNamePart (Field.isNamePart_of_isSnakePart part))
    (by decide) (Field.isSnakePart_of_mem snake)

/-- Digits. -/
theorem sealed_of_isDigits {digits : List Char} (isDigits : Numeral.IsDigits digits) :
    Sealed digits := by
  have part {c : Char} (digit : c.isDigit = true) : Numeral.isNumeralPart c = true := by
    simp [Numeral.isNumeralPart, digit]
  exact .of_all (fun _ digit => Numeral.ascii_of_isNumeralPart (part digit)) (by decide) isDigits

/-- A sign in front of something harmless. -/
theorem Sealed.sign {sign rest : List Char} {c : Char} (isSign : Numeral.IsSign sign)
    (harmless : opensMark c = false) (sealed : Sealed (c :: rest)) :
    Sealed (sign ++ c :: rest) := by
  rcases isSign with rfl | rfl | rfl
  · exact sealed
  · exact sealed.cons rfl
  · exact sealed.dash harmless

/-- A digit opens no mark. -/
theorem opensMark_of_isDigit {c : Char} (digit : c.isDigit = true) : opensMark c = false :=
  (sealed_of_isDigits (by simpa [Numeral.IsDigits] using digit) : Sealed [c]).last c rfl

/-- An exponent, or nothing. -/
theorem sealed_of_isExponent {digits written : List Char}
    (exponent : Numeral.IsExponent digits written) : Sealed written := by
  rcases exponent with rfl | ⟨mark, sign, marks, isSign, nonempty, isDigits, rfl⟩
  · exact .of_inert rfl
  · obtain ⟨c, rest, rfl⟩ := List.exists_cons_of_ne_nil nonempty
    have harmless := opensMark_of_isDigit (isDigits c List.mem_cons_self)
    have signed := (sealed_of_isDigits isDigits).sign isSign harmless
    rcases marks with rfl | rfl
    · exact signed.cons rfl
    · exact signed.cons rfl

/-- A number, although its characters are not checked: the dashes in it have digits
behind them. -/
theorem sealed_of_isNumber {text : String} (number : isNumber text = true) :
    Sealed text.toList := by
  unfold isNumber at number
  split at number
  · next n read =>
      obtain ⟨⟨sign, point, exponent, isSign, isPoint, isExponent, written⟩, whole, fraction,
        nonempty⟩ := Numeral.spells_of_read? read
      have tail : Sealed (point ++ exponent) := by
        refine .append ?_ (sealed_of_isExponent isExponent)
        rcases isPoint with ⟨rfl, -⟩ | rfl
        · exact .of_inert rfl
        · exact (sealed_of_isDigits fraction).cons rfl
      have unsigned := (sealed_of_isDigits whole).append tail
      -- the sign stands before a digit or before the point
      have begins : ∃ c rest, n.whole ++ (point ++ exponent) = c :: rest ∧
          opensMark c = false := by
        cases digits : n.whole with
        | cons c rest =>
            have digit : c.isDigit = true := whole c (by simp [digits])
            exact ⟨c, rest ++ (point ++ exponent), rfl, opensMark_of_isDigit digit⟩
        | nil =>
            rcases isPoint with ⟨-, none⟩ | rfl
            · rcases nonempty with some | some
              · exact absurd digits some
              · exact absurd none some
            · exact ⟨'.', n.fraction ++ exponent, rfl, rfl⟩
      obtain ⟨c, rest, here, harmless⟩ := begins
      rw [here] at unsigned
      rw [written, here]
      exact unsigned.sign isSign harmless
  · cases number

/-- A quoted string whose text has been checked: its last quote begins nothing. -/
theorem sealed_quote {body : List Char}
    (free : ∀ sequence ∈ Literal.forbiddenSequences,
      ¬ sequence.toList <:+: Literal.quote body) : Sealed (Literal.quote body) := by
  refine ⟨free, fun c ends => ?_⟩
  rw [Literal.quote, List.getLast?_concat] at ends
  obtain rfl := Option.some.inj ends
  rfl

/-- A safe literal. -/
theorem sealed_of_isSafe {value : Literal} (safe : value.IsSafe) : Sealed value.sql.toList := by
  cases safe with
  | number number => exact sealed_of_isNumber number
  | keyword keyword =>
      have inert : ∀ word ∈ keywordLiterals, word.toList.all isInert = true := by decide
      exact .of_inert (inert value.sql keyword)
  | string body quoted free =>
      rw [quoted] at free ⊢
      exact sealed_quote free

/-- The texts of some values with commas between them. -/
theorem sealed_listText {values : List Literal} (safe : ∀ value ∈ values, value.IsSafe) :
    Sealed (Filter.listText values).toList := by
  induction values with
  | nil => exact .of_inert rfl
  | cons first rest ih =>
      have here := sealed_of_isSafe (safe first List.mem_cons_self)
      cases rest with
      | nil => exact here
      | cons second rest =>
          have comma : Sealed [',', ' '] := .of_inert rfl
          have later := ih fun value there => safe value (List.mem_cons_of_mem _ there)
          rw [Filter.listText_cons]
          simpa using (here.append comma).append later

/-- Whatever is put together while a filter is written begins and ends no forbidden
sequence. -/
theorem writing_sealed :
    Filter.Writing (fun field => Field.isSnakeName field.name.toList = true) Literal.IsSafe
      (fun _ text => Sealed text.toList) where
  condition {field comparison value} snake safe := by
    have sign : Sealed (' ' :: comparison.sql.toList ++ [' ']) := by
      cases comparison <;> exact .of_inert rfl
    simpa [Filter.conditionText] using
      ((sealed_of_isSnakeName snake).append sign).append (sealed_of_isSafe safe)
  oneOf snake _ safe := by
    have opening : Sealed " IN (".toList := .of_inert rfl
    have closing : Sealed [')'] := .of_inert rfl
    simpa [Filter.oneOfText] using
      ((sealed_of_isSnakeName snake).append opening).append
        ((sealed_listText safe).append closing)
  binary {connective _ _ _ _} first second := by
    have between : Sealed (Filter.separator connective).toList := by
      cases connective <;> exact .of_inert rfl
    simpa using (first.append between).append second
  negation operand := by
    have keyword : Sealed "NOT ".toList := .of_inert rfl
    simpa using keyword.append operand
  group inner := by simpa using inner.enclosed
  enclosed inside := by simpa using inside.enclosed

/-- The text of a translated filter. -/
theorem sealed_of_parse {translator : Translator} {text : String} {filter : Filter}
    (parsed : translator.parse text = .ok (some filter)) : Sealed filter.sql.toList := by
  obtain ⟨tokens, -, read⟩ := Translator.ofTokens_of_parse parsed
  exact writing_sealed.sql (Filter.leaves_of_parse read
    (fun _ _ _ _ named => (Field.isSafe_of_ofName named).isSnakeName)
    (fun _ _ _ given => Literal.isSafe_of_ofText given))

end Sql

namespace Translator

/-- Whatever the settings are and whatever text is converted: the SQL that comes of it
holds no semicolon and neither kind of comment mark, wherever one might begin. -/
theorem convert_holds_no_terminator {translator : Translator} {text sql : String}
    (converted : translator.convert text = .ok sql) :
    ∀ sequence ∈ [";", "--", "/*", "*/"], ¬ sequence.toList <:+: sql.toList := by
  rw [convert] at converted
  cases parsed : translator.parse text with
  | error rejection =>
      rw [parsed] at converted
      cases converted
  | ok outcome =>
      rw [parsed] at converted
      obtain rfl := Except.ok.inj converted
      cases outcome with
      | none =>
          have empty : Sql.Sealed "".toList := .of_inert rfl
          exact empty.free
      | some filter => exact (Sql.sealed_of_parse parsed).free

/-- There may be dashes in numbers and in values; no two of them come together. -/
theorem convert_holds_no_terminator_dashes :
    standard.convert "Delta lt -1e-5 or note eq '-'" = .ok "delta < -1e-5 OR note = '-'" ∧
      ∀ sequence ∈ [";", "--", "/*", "*/"],
        ¬ sequence.toList <:+: "delta < -1e-5 OR note = '-'".toList := by
  have given : Lexer.Spells .string "'-'".toList "'-'".toList [] :=
    .string "-".toList (by decide)
  have blank : Text.isBlank ' ' = true := rfl
  have cuts : Lexer.Cuts [] 0 "Delta lt -1e-5 or note eq '-'".toList _ :=
    .spaced "Delta" (by decide) rfl blank <| .spaced "lt" (by decide) rfl blank <|
      .spaced "-1e-5" (by decide) rfl blank <| .spaced "or" (by decide) rfl blank <|
      .spaced "note" (by decide) rfl blank <| .spaced "eq" (by decide) rfl blank <|
      .spelled given (.done _)
  have parsed : standard.parse "Delta lt -1e-5 or note eq '-'" =
      .ok (some (.binary .or (.condition ⟨"delta"⟩ .less ⟨"-1e-5"⟩)
        (.condition ⟨"note"⟩ .equal ⟨"'-'"⟩))) :=
    parse_of_cuts rfl (by decide) rfl cuts rfl
  have converted :
      standard.convert "Delta lt -1e-5 or note eq '-'" = .ok "delta < -1e-5 OR note = '-'" := by
    rw [convert_of_parse parsed, Filter.sql_eq_textAt]
    rfl
  exact ⟨converted, convert_holds_no_terminator converted⟩

end Translator

end WhereClause
