/-
# Reserved words in filters

A word that settings reserve is refused in a filter wherever it stands as a value, in a
comparison or in a list, and however its ASCII letters are written.

Where a field stands, case is disregarded less than that. What is compared with the
reserved words there is the snake case form of what is written. In a spelling without a
capital right behind a small letter or a digit this is the reserved word, and the spelling
is refused. With such a capital it is another word: `trunCate` becomes `trun_cate`. Such a
spelling is refused only if it is made like no name, as `dRop-table` is, or if that other
word is reserved or a literal as well. Otherwise it is let through as a field, although
the word that it spells is reserved.
-/

import WhereClause.Proofs.Draft.Place
import WhereClause.Proofs.Filter.Rendering
import WhereClause.Proofs.Rejection
import WhereClause.Proofs.Reserved
import WhereClause.Proofs.Translator

namespace WhereClause

open Text (SpelledAlike)

namespace Filter

section Refusals

variable {reserved : ReservedWords} {limit : Nat} {before : List Token} {token : Token}

/-- A word that names no field is refused in the place of one. -/
theorem ofTokens_of_objection (sound : Extendable reserved limit before)
    (place : placeAfter before = .operand) (identifies : token.kind = .identifier)
    {objection : Objection} (refused : Field.ofName reserved token.text = .error objection)
    (after : List Token) :
    ofTokens reserved limit (before ++ token :: after) =
      .error (.invalidField token.text objection) := by
  obtain ⟨⟨groups, chains, phase⟩, reached⟩ := exists_reaches_of_extendable sound
  rw [reached.placeAfter_eq] at place
  refine ofTokens_of_refusal reached ?_ after
  cases phase with
  | operand lead =>
      simp only [Draft.step, Draft.stepOperand, identifies, refused]
      rfl
  | field | comparison | membership | listStart | listValue | listComma | complete => cases place

/-- A word that names one is let through there: some filter begins like that. -/
theorem extendable_of_named (sound : Extendable reserved limit before)
    (place : placeAfter before = .operand) (identifies : token.kind = .identifier)
    {field : Field} (named : Field.ofName reserved token.text = .ok field) :
    Extendable reserved limit (before ++ [token]) := by
  obtain ⟨⟨groups, chains, phase⟩, reached⟩ := exists_reaches_of_extendable sound
  rw [reached.placeAfter_eq] at place
  cases phase with
  | operand lead =>
      exact extendable_of_reaches (reached.advance (.nameField groups chains lead identifies named))
  | field | comparison | membership | listStart | listValue | listComma | complete => cases place

/-- It is refused in the place of a value. -/
theorem ofTokens_of_reserved_value (sound : Extendable reserved limit before)
    (place : placeAfter before = .value) (identifies : token.kind = .identifier)
    (notNumber : isNumber token.text = false)
    (isReserved : reserved.contains (Text.lowercase token.text) = true) (after : List Token) :
    ofTokens reserved limit (before ++ token :: after) =
      .error (.invalidValue token.text
        ((Literal.forbiddenSequence? token.text).elim
          (.reservedWord (Text.lowercase token.text)) .forbiddenSequence)) := by
  obtain ⟨⟨groups, chains, phase⟩, reached⟩ := exists_reaches_of_extendable sound
  rw [reached.placeAfter_eq] at place
  refine ofTokens_of_refusal reached ?_ after
  have refused := Literal.ofText_of_reserved notNumber isReserved
  have isValue : token.kind.isValue = true := by rw [identifies]; rfl
  cases phase with
  | comparison | listComma =>
      simp only [Draft.step, Draft.stepValue, isValue, refused]
      rfl
  | listStart =>
      simp only [Draft.step, identifies, Draft.stepValue, TokenKind.isValue, refused]
      rfl
  | operand | field | membership | listValue | complete => cases place

end Refusals

end Filter

namespace Translator

/-- Words that settings reserve, in the two places where words stand. Let a word among them
be an identifier when it is trimmed, and let a spelling of it, in which the case of ASCII
letters may be another, be a token of a filter that is not too long, behind tokens that can
still be continued to a filter.

Where a value stands, the filter is refused at the token, whatever the spelling.

Where a field stands, the filter is refused at the token if the spelling is not made like a
name, or if its snake case form is reserved, or is a literal. In no other case is it: then
the tokens up to the spelling can be continued to a filter too. If the spelling has no
capital right behind a small letter or a digit, its snake case form is the word in lowercase
and reserved. -/
theorem refuses_reserved_spelling {settings : Settings} {word spelling text : String}
    {span : Span} {before after : List Token} {token : Token}
    (listed : word ∈ settings.reservedWords)
    (identifier : tokenize (Text.trim word) = .ok [⟨.identifier, Text.trim word, span⟩])
    (alike : SpelledAlike spelling (Text.trim word))
    (short : (ofSettings settings).exceededLimit? (Text.trim text).utf8ByteSize = none)
    (cut : tokenize (Text.trim text) = .ok (before ++ token :: after))
    (spelled : token.text = spelling)
    (sound : Filter.Extendable (ofSettings settings).reserved
      (ofSettings settings).nestingLimit.toNat before) :
    let translator := ofSettings settings
    let name := Field.snakeCase spelling
    (Filter.placeAfter before = .value →
      translator.Refuses text
        (.invalidValue spelling
          ((Literal.forbiddenSequence? spelling).elim
            (.reservedWord (Text.lowercase (Text.trim word))) .forbiddenSequence))) ∧
    (Filter.placeAfter before = .operand →
      (Field.isName spelling.toList = false →
        translator.Refuses text (.invalidField spelling .malformedName)) ∧
      (Field.isName spelling.toList = true →
        (translator.reserved.contains name = true →
          translator.Refuses text (.invalidField spelling (.reservedWord name))) ∧
        (translator.reserved.contains name = false → name ∈ ["true", "false", "null"] →
          translator.Refuses text (.invalidField spelling (.literalAsField name))) ∧
        (translator.reserved.contains name = false → name ∉ ["true", "false", "null"] →
          Filter.Extendable translator.reserved translator.nestingLimit.toNat
            (before ++ [token])))) ∧
    (Field.Humpless spelling.toList →
      name = Text.lowercase (Text.trim word) ∧ translator.reserved.contains name = true) := by
  subst spelled
  intro translator name
  obtain ⟨identifies, notNumber⟩ := Lexer.identifies_of_alike identifier cut (by simp) alike
  have nonblank : Text.trim word ≠ "" := by
    intro blank
    rw [blank, Lexer.tokenize_empty] at identifier
    cases identifier
  have isReserved : translator.reserved.contains (Text.lowercase token.text) = true :=
    ReservedWords.contains_lowercase_of_mem listed nonblank alike
  have nonempty : before ++ token :: after ≠ [] := by simp
  refine ⟨fun place => ?_, fun place => ?_, fun humpless => ?_⟩
  · rw [← alike.lowercase_eq]
    apply refuses_of_ofTokens short cut nonempty
    exact Filter.ofTokens_of_reserved_value sound place identifies notNumber isReserved after
  · have refuses {objection : Objection}
        (refused : Field.ofName translator.reserved token.text = .error objection) :
        translator.Refuses text (.invalidField token.text objection) :=
      refuses_of_ofTokens short cut nonempty
        (Filter.ofTokens_of_objection sound place identifies refused after)
    refine ⟨fun malformed => refuses ?_, fun made => ⟨fun isReserved => refuses ?_,
      fun free isLiteral => refuses ?_, fun free notLiteral => ?_⟩⟩
    · simp [Field.ofName, malformed]
    · simp [Field.ofName, made, name, isReserved]
    · have listed := Literal.mem_keywordLiterals_iff.mpr isLiteral
      simp [Field.ofName, made, name, free, listed]
    · have named : Field.ofName translator.reserved token.text = .ok ⟨name⟩ :=
        Field.ofName_eq_ok_iff.mpr ⟨made, free, notLiteral, rfl⟩
      exact Filter.extendable_of_named sound place identifies named
  · have snake : name = Text.lowercase token.text := Field.snakeCase_of_humpless humpless
    rw [← alike.lowercase_eq, snake]
    exact ⟨rfl, isReserved⟩

/-- In capitals, `grant` is refused as a field behind a negation, and with a hump in it as
the second value of a list. -/
theorem refuses_reserved_spelling_grant :
    let settings : Settings := { Settings.standard with reservedWords := [" Grant "] }
    tokenize (Text.trim " Grant ") = .ok [⟨.identifier, "Grant", ⟨0, 5⟩⟩] ∧
      (ofSettings settings).Refuses "not GRANT eq 1"
        (.invalidField "GRANT" (.reservedWord "grant")) ∧
      (ofSettings settings).Refuses "id in (1,gRANT)"
        (.invalidValue "gRANT" (.reservedWord "grant")) := by
  intro settings
  have blank : Text.isBlank ' ' = true := rfl
  have listed : " Grant " ∈ settings.reservedWords := List.mem_singleton_self _
  have identifier : tokenize (Text.trim " Grant ") = .ok [⟨.identifier, "Grant", ⟨0, 5⟩⟩] :=
    Lexer.tokenize_word (by decide) (Text.forall_mem_of_all rfl)
  have one (after : List Char) (stops : ∀ c ∈ after.head?, Lexer.isDelimiter c = true) :
      Lexer.Spells (Lexer.wordKind "1") "1".toList "1".toList after :=
    .word (by decide) (Text.forall_mem_of_all rfl) stops
  have second : Lexer.Spells (Lexer.wordKind "gRANT") "gRANT".toList "gRANT".toList [')'] :=
    .word (by decide) (Text.forall_mem_of_all rfl) (Lexer.stops_cons rfl _)
  have inField : tokenize (Text.trim "not GRANT eq 1") =
      .ok ([⟨.negation, "not", ⟨0, 3⟩⟩] ++ ⟨.identifier, "GRANT", ⟨4, 9⟩⟩ ::
        [⟨.comparison .equal, "eq", ⟨10, 12⟩⟩, ⟨.number, "1", ⟨13, 14⟩⟩]) := by
    have cuts : Lexer.Cuts [] 0 "not GRANT eq 1".toList _ :=
      .spaced "not" (by decide) rfl blank <| .spaced "GRANT" (by decide) rfl blank <|
        .spaced "eq" (by decide) rfl blank <| .spelled (one [] Lexer.stops_nil) (.done _)
    exact cuts.tokenize
  have inList : tokenize (Text.trim "id in (1,gRANT)") =
      .ok ([⟨.identifier, "id", ⟨0, 2⟩⟩, ⟨.membership, "in", ⟨3, 5⟩⟩, ⟨.opening, "(", ⟨6, 7⟩⟩,
        ⟨.number, "1", ⟨7, 8⟩⟩, ⟨.comma, ",", ⟨8, 9⟩⟩] ++ ⟨.identifier, "gRANT", ⟨9, 14⟩⟩ ::
        [⟨.closing, ")", ⟨14, 15⟩⟩]) := by
    have cuts : Lexer.Cuts [] 0 "id in (1,gRANT)".toList _ :=
      .spaced "id" (by decide) rfl blank <| .spaced "in" (by decide) rfl blank <|
        .spelled (.punctuation _ rfl) <| .spelled (one _ (Lexer.stops_cons rfl _)) <|
        .spelled (.punctuation _ rfl) <| .spelled second <|
        .spelled (.punctuation _ rfl) (.done _)
    exact cuts.tokenize
  have operand : Filter.Extendable (ofSettings settings).reserved
      (ofSettings settings).nestingLimit.toNat [⟨.negation, "not", ⟨0, 3⟩⟩] :=
    ⟨[⟨.identifier, "id", ⟨4, 6⟩⟩, ⟨.comparison .equal, "eq", ⟨7, 9⟩⟩,
      ⟨.number, "1", ⟨10, 11⟩⟩], _, rfl⟩
  have value : Filter.Extendable (ofSettings settings).reserved
      (ofSettings settings).nestingLimit.toNat
      [⟨.identifier, "id", ⟨0, 2⟩⟩, ⟨.membership, "in", ⟨3, 5⟩⟩, ⟨.opening, "(", ⟨6, 7⟩⟩,
        ⟨.number, "1", ⟨7, 8⟩⟩, ⟨.comma, ",", ⟨8, 9⟩⟩] :=
    ⟨[⟨.number, "2", ⟨9, 10⟩⟩, ⟨.closing, ")", ⟨10, 11⟩⟩], _, rfl⟩
  obtain ⟨-, field, lowered⟩ :=
    refuses_reserved_spelling listed identifier (by decide) rfl inField rfl operand
  obtain ⟨listValue, -⟩ :=
    refuses_reserved_spelling listed identifier (by decide) rfl inList rfl value
  obtain ⟨-, isReserved⟩ := lowered (by decide)
  exact ⟨identifier, ((field rfl).2 rfl).1 isReserved, listValue rfl⟩

/-- With a hump in it, the reserved `truncate` is let through as a field. -/
theorem accepts_reserved_spelling_hump :
    let settings : Settings := { Settings.standard with reservedWords := ["truncate"] }
    "truncate" ∈ settings.reservedWords ∧
      tokenize (Text.trim "truncate") = .ok [⟨.identifier, "truncate", ⟨0, 8⟩⟩] ∧
      SpelledAlike "trunCate" (Text.trim "truncate") ∧
      tokenize (Text.trim "trunCate eq 1") =
        .ok ([] ++ ⟨.identifier, "trunCate", ⟨0, 8⟩⟩ ::
          [⟨.comparison .equal, "eq", ⟨9, 11⟩⟩, ⟨.number, "1", ⟨12, 13⟩⟩]) ∧
      Filter.placeAfter [] = .operand ∧
      (ofSettings settings).convert "trunCate eq 1" = .ok "trun_cate = 1" ∧
      ∀ error, ¬ (ofSettings settings).Refuses "trunCate eq 1" error := by
  intro settings
  have blank : Text.isBlank ' ' = true := rfl
  have identifier : tokenize (Text.trim "truncate") = .ok [⟨.identifier, "truncate", ⟨0, 8⟩⟩] :=
    Lexer.tokenize_word (by decide) (Text.forall_mem_of_all rfl)
  have last : Lexer.Spells (Lexer.wordKind "1") "1".toList "1".toList [] :=
    .word (by decide) (Text.forall_mem_of_all rfl) Lexer.stops_nil
  have cuts : Lexer.Cuts [] 0 "trunCate eq 1".toList
      ([] ++ ⟨.identifier, "trunCate", ⟨0, 8⟩⟩ ::
        [⟨.comparison .equal, "eq", ⟨9, 11⟩⟩, ⟨.number, "1", ⟨12, 13⟩⟩]) :=
    .spaced "trunCate" (by decide) rfl blank <| .spaced "eq" (by decide) rfl blank <|
      .spelled last (.done _)
  have parsed : (ofSettings settings).parse "trunCate eq 1" =
      .ok (some (.condition ⟨"trun_cate"⟩ .equal ⟨"1"⟩)) :=
    parse_of_cuts rfl (by decide) rfl cuts rfl
  have converted : (ofSettings settings).convert "trunCate eq 1" = .ok "trun_cate = 1" := by
    rw [convert_of_parse parsed, Filter.sql_eq_textAt]
    rfl
  refine ⟨List.mem_singleton_self _, identifier, by decide, cuts.tokenize, rfl, converted, ?_⟩
  intro error refused
  have contradiction := refused.parse.symm.trans parsed
  cases contradiction

end Translator

end WhereClause
