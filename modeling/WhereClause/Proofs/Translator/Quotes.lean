/-
# Quotes without a partner

A text has a string that is not closed exactly if the number of its quotes is odd. What is cut
off as a token has an even number of them, whether it is a string with pairs inside or has no
quotes at all; and where a string is not closed, all quotes behind the opening one stand in
pairs.

Which quote opens that string can be told without cutting the text into tokens: it is the last
one that has an even number of quotes before it and none right before it. A quote in a pair that
follows it misses one of the two.

Since a text is cut into tokens before any of them is read, a translator finds such a string
first, whatever else is wrong with the text.
-/

import Mathlib.Algebra.Ring.Parity
import WhereClause.Proofs.Translator

namespace WhereClause

namespace Lexer

/-! ### Quotes in tokens and in strings that are not closed -/

/-- A token takes an even number of quotes from the text. -/
theorem Spells.even_count {kind : TokenKind} {text slice after : List Char}
    (spells : Spells kind text slice after) : Even (slice.count '\'') := by
  cases spells with
  | string body _ =>
      refine ⟨1 + body.count '\'', ?_⟩
      rw [List.count_append, List.count_cons_self, Text.count_double, List.count_singleton_self]
      omega
  | punctuation _ mark =>
      have notQuote : _ ≠ '\'' := (separates_of_punctuation mark).2
      rw [List.count_cons_of_ne notQuote]
      exact Even.zero
  | word _ letters _ =>
      rw [List.count_eq_zero.mpr fun there => ?_]
      · exact Even.zero
      · have letter := letters '\'' there
        cases letter

/-- What has been cut into tokens has an even number of quotes. -/
theorem Cuts.even_count {offset : Nat} {front rest : List Char} {tokens : List Token}
    (cuts : Cuts rest offset front tokens) : Even (front.count '\'') := by
  induction cuts with
  | done => exact Even.zero
  | blank blank _ ih => rwa [List.count_cons_of_ne (separates_of_isBlank blank).2]
  | token spells _ _ ih =>
      rw [List.count_append]
      exact spells.even_count.add ih

/-- Where reading a string does not come to an end, all quotes stand in pairs. -/
theorem eq_double_of_readString {slice cs : List Char} {copy : Option (List Char)}
    (endless : readString slice copy cs = none) : ∃ body, cs = Text.double '\'' body := by
  fun_induction readString slice copy cs with
  | case1 => exact ⟨[], rfl⟩
  | case2 slice copy cs ih =>
      obtain ⟨body, rfl⟩ := ih endless
      exact ⟨'\'' :: body, by simp [Text.double_cons]⟩
  | case3 => cases endless
  | case4 slice copy c cs _ other ih =>
      have notQuote : c ≠ '\'' := other
      obtain ⟨body, rfl⟩ := ih endless
      exact ⟨c :: body, by simp [Text.double_cons, notQuote]⟩

/-- A string that is not closed is made of its opening quote and of quotes in pairs. -/
theorem Unclosed.eq_double {rest : List Char} (unclosed : Unclosed rest) :
    ∃ body, rest = '\'' :: Text.double '\'' body := by
  obtain ⟨inner, rfl, never⟩ := unclosed
  obtain ⟨body, rfl⟩ := eq_double_of_readString (unclosed_cons_iff.mp ⟨inner, rfl, never⟩)
  exact ⟨body, rfl⟩

/-- So it has an odd number of quotes. -/
theorem Unclosed.odd_count {rest : List Char} (unclosed : Unclosed rest) :
    Odd (rest.count '\'') := by
  obtain ⟨body, rfl⟩ := unclosed.eq_double
  rw [List.count_cons_self, Text.count_double]
  exact ⟨_, rfl⟩

/-! ### The quote that opens the string -/

/-- The quote behind `before` has an even number of quotes before it and none right before
it. -/
structure CanOpen (text before : List Char) : Prop where
  here : ∃ after, text = before ++ '\'' :: after
  even : Even (before.count '\'')
  apart : before.getLast? ≠ some '\''

/-- It is the last such quote in the text. -/
structure LastToOpen (text before : List Char) : Prop extends CanOpen text before where
  last : ∀ other, CanOpen text other → other.length ≤ before.length

/-- A text has at most one last quote of this kind. -/
theorem LastToOpen.unique {text before other : List Char} (last : LastToOpen text before)
    (last' : LastToOpen text other) : before = other := by
  obtain ⟨after, here⟩ := last.here
  obtain ⟨after', here'⟩ := last'.here
  have sameLength : before.length = other.length :=
    Nat.le_antisymm (last'.last before last.toCanOpen) (last.last other last'.toCanOpen)
  exact List.append_inj_left (here.symm.trans here') sameLength

/-- A string that is not closed begins with the last quote of the text that can open one. -/
theorem Unclosed.lastToOpen {front rest : List Char} {tokens : List Token}
    (unclosed : Unclosed rest) (cuts : Cuts rest 0 front tokens) :
    LastToOpen (front ++ rest) front := by
  obtain ⟨body, rfl⟩ := unclosed.eq_double
  refine ⟨⟨⟨_, rfl⟩, cuts.even_count, ?_⟩, fun other canOpen => ?_⟩
  · intro quote
    exact (cuts.seam '\'' quote '\'' rfl).2 rfl rfl
  · refine Nat.le_of_not_lt fun beyond => ?_
    obtain ⟨after, here⟩ := canOpen.here
    obtain ⟨more, rfl, same⟩ : ∃ more, other = front ++ '\'' :: more ∧
        Text.double '\'' body = more ++ '\'' :: after := by
      rcases List.append_eq_append_iff.mp here with ⟨more, rfl, same⟩ | ⟨more, rfl, -⟩
      · cases more with
        | nil => simp at beyond
        | cons c more =>
            rw [List.cons_append, List.cons_eq_cons] at same
            exact ⟨more, by rw [same.1], same.2⟩
      · rw [List.length_append] at beyond
        omega
    -- a quote further behind is the second of a pair if the number before it is even
    have odd : more.count '\'' % 2 = 1 := by
      have even := Nat.even_iff.mp canOpen.even
      have evenFront := Nat.even_iff.mp cuts.even_count
      rw [List.count_append, List.count_cons_self] at even
      omega
    apply canOpen.apart
    rw [List.getLast?_append, List.getLast?_cons, Text.getLast?_of_double_eq same odd]
    rfl

/-! ### What it is that fails -/

/-- The string that the error reports begins with the last quote of the text that can open
one, and it goes on to the end. -/
def Reports (error : UnclosedString) (text : String) : Prop :=
  ∃ before, LastToOpen text.toList before ∧
    error.span = ⟨utf8Length before, text.utf8ByteSize⟩

/-- A text with an even number of quotes has tokens, and one with an odd number has a string
that is not closed. -/
theorem tokenize_by_parity (text : String) :
    (Even (text.toList.count '\'') ∧ ∃ tokens, tokenize text = .ok tokens) ∨
      (Odd (text.toList.count '\'') ∧ ∃ error, tokenize text = .error error ∧
        Reports error text) := by
  obtain ⟨front, rest, tokens, same, rfl | unclosed, cuts⟩ := exists_cuts text.toList 0
  · left
    rw [List.append_nil] at same
    rw [← same] at cuts
    exact ⟨cuts.even_count, tokens, cuts.tokenize⟩
  · right
    refine ⟨?_, _, unclosed.tokenize same cuts, front, ?_, by rw [utf8Length_toList]⟩
    · rw [same, List.count_append]
      exact cuts.even_count.add_odd unclosed.odd_count
    · rw [same]
      exact unclosed.lastToOpen cuts

/-- Cutting a text into tokens fails exactly if the number of its quotes is odd. -/
theorem exists_tokenize_eq_error_iff {text : String} :
    (∃ error, tokenize text = .error error) ↔ Odd (text.toList.count '\'') := by
  rcases tokenize_by_parity text with ⟨even, tokens, cut⟩ | ⟨odd, error, failed, -⟩
  · simp [cut, even]
  · exact iff_of_true ⟨error, failed⟩ odd

/-- The error is the one that reports the last quote that can open a string. -/
theorem tokenize_eq_error_iff {text : String} {error : UnclosedString} :
    tokenize text = .error error ↔ Odd (text.toList.count '\'') ∧ Reports error text := by
  rcases tokenize_by_parity text with ⟨even, tokens, cut⟩ | ⟨odd, found, failed, reports⟩
  · rw [cut]
    refine iff_of_false (by simp) ?_
    rintro ⟨odd, -⟩
    exact Nat.not_even_iff_odd.mpr odd even
  · rw [failed, Except.error.injEq]
    constructor
    · rintro rfl
      exact ⟨odd, reports⟩
    · rintro ⟨-, before, last, place⟩
      obtain ⟨before', last', place'⟩ := reports
      obtain rfl := last.unique last'
      obtain ⟨span⟩ := found
      obtain ⟨span'⟩ := error
      exact congrArg UnclosedString.mk (place'.trans place.symm)

end Lexer

namespace Translator

/-- A text that is not blank and not too long is refused for a string that is not closed exactly
if it cannot be cut into tokens for that reason, whatever a parser would find wrong with it. -/
theorem parse_eq_unclosed_iff {translator : Translator} {text filter : String}
    {error : UnclosedString} (nonblank : Text.trim text ≠ "")
    (short : translator.exceededLimit? (Text.trim text).utf8ByteSize = none) :
    translator.parse text = .error ⟨filter, .unclosedString error⟩ ↔
      filter = Text.trim text ∧ tokenize (Text.trim text) = .error error := by
  cases cut : tokenize (Text.trim text) with
  | error found =>
      have refused : translator.parse text = .error ⟨Text.trim text, .unclosedString found⟩ := by
        simp [parse, nonblank, read, short, cut]
      rw [refused]
      simp [eq_comm]
  | ok tokens =>
      rw [parse, read_of_tokenize short cut]
      cases outcome :
          Filter.ofTokens translator.reserved translator.nestingLimit.toNat tokens with
      | error error => simp [nonblank, Except.mapError]
      | ok tree => simp [nonblank, Except.mapError]

/-- A string that is not closed is what is wrong with a text exactly if the number of its quotes
is odd.

Cutting the text into tokens fails then and only then. The string that is reported goes from
the last quote that has an even number of quotes before it, and none right before it, to the
end of the text. A translator refuses a text for this reason then and only then as well, if
there is something left of it when it is trimmed which is not too long. Quotes are counted, and
places are measured, in what is left; what a parser would have to say does not matter. -/
theorem unclosed_iff_odd_quotes (text : String) :
    ((∃ error, tokenize text = .error error) ↔ Odd (text.toList.count '\'')) ∧
    (∀ error, tokenize text = .error error → Lexer.Reports error text) ∧
    ∀ translator : Translator, Text.trim text ≠ "" →
      (∀ limit ∈ translator.lengthLimit, (Text.trim text).utf8ByteSize ≤ limit.toNat) →
      ((∃ filter error, translator.parse text = .error ⟨filter, .unclosedString error⟩) ↔
        Odd ((Text.trim text).toList.count '\'')) ∧
      ∀ filter error, translator.parse text = .error ⟨filter, .unclosedString error⟩ →
        filter = Text.trim text ∧ Lexer.Reports error (Text.trim text) := by
  refine ⟨Lexer.exists_tokenize_eq_error_iff, fun error failed => ?_, ?_⟩
  · exact (Lexer.tokenize_eq_error_iff.mp failed).2
  intro translator nonblank within
  have short := exceededLimit?_eq_none_iff.mpr within
  refine ⟨?_, fun filter error refused => ?_⟩
  · rw [← Lexer.exists_tokenize_eq_error_iff]
    simp [parse_eq_unclosed_iff nonblank short]
  · obtain ⟨same, failed⟩ := (parse_eq_unclosed_iff nonblank short).mp refused
    exact ⟨same, (Lexer.tokenize_eq_error_iff.mp failed).2⟩

/-- The last quote of all has an even number of quotes before it, but it comes second in a pair;
the string begins before that pair. That the text begins with a connective is not found out. -/
theorem unclosed_iff_odd_quotes_lastPair :
    let translator : Translator := { standard with lengthLimit := some 14 }
    Text.trim " or 'é''' 'x''\n" ≠ "" ∧
      (∀ limit ∈ translator.lengthLimit,
        (Text.trim " or 'é''' 'x''\n").utf8ByteSize ≤ limit.toNat) ∧
      translator.parse " or 'é''' 'x''\n" =
        .error ⟨"or 'é''' 'x''", .unclosedString ⟨⟨10, 14⟩⟩⟩ ∧
      Odd ("or 'é''' 'x''".toList.count '\'') ∧
      Lexer.Reports ⟨⟨10, 14⟩⟩ "or 'é''' 'x''" := by
  intro translator
  have nonblank : Text.trim " or 'é''' 'x''\n" ≠ "" := by decide
  have within : ∀ limit ∈ translator.lengthLimit,
      (Text.trim " or 'é''' 'x''\n").utf8ByteSize ≤ limit.toNat := by
    rintro _ ⟨⟩
    decide
  have first : Lexer.Spells .string "'é''".toList "'é'''".toList " 'x''".toList :=
    .string "é'".toList (by decide)
  have cuts : Lexer.Cuts "'x''".toList 0 "or 'é''' ".toList _ :=
    .spaced "or" (by decide) rfl rfl <| .spelled first <| .blank rfl (.done _)
  have unclosed : Lexer.Unclosed "'x''".toList := Lexer.unclosed_cons_iff.mpr rfl
  have trimmed : Text.trim " or 'é''' 'x''\n" = "or 'é''' 'x''" := by decide
  have failed : tokenize "or 'é''' 'x''" = .error ⟨⟨10, 14⟩⟩ := unclosed.tokenize rfl cuts
  have refused : translator.parse " or 'é''' 'x''\n" =
      .error ⟨"or 'é''' 'x''", .unclosedString ⟨⟨10, 14⟩⟩⟩ := by
    rw [parse_eq_unclosed_iff nonblank (exceededLimit?_eq_none_iff.mpr within), trimmed]
    exact ⟨rfl, failed⟩
  obtain ⟨odd, reports⟩ :=
    (unclosed_iff_odd_quotes " or 'é''' 'x''\n").2.2 translator nonblank within
  rw [trimmed] at odd reports
  exact ⟨nonblank, within, refused, odd.mp ⟨_, _, refused⟩, (reports _ _ refused).2⟩

end Translator

end WhereClause
