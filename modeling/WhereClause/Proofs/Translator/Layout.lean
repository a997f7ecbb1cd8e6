/-
# Layout carries no meaning

White space around and between tokens and the case of keywords are all that two texts can
differ in if their tokens are of the same kinds and have the same texts wherever they may be
values. Such texts are the same filter and have the same SQL text, or the same is wrong with
both. Inside of quotes white space is not layout: it belongs to the text of a token.

A translator sees a text without the white space at its ends, so the tokens are moved to the
trimmed text first, which leaves them as they are but for their places.
-/

import WhereClause.Proofs.Token.Boundary
import WhereClause.Proofs.Translator

namespace WhereClause

namespace Lexer

/-! ### Trimming -/

/-- No token begins or ends with white space. -/
theorem Spells.edged {kind : TokenKind} {text slice after : List Char}
    (spells : Spells kind text slice after) : Text.Edged slice := by
  cases spells with
  | string body =>
      refine ⟨⟨'\'', rfl, by decide⟩, ⟨'\'', ?_, by decide⟩⟩
      exact List.getLast?_concat
  | @punctuation c _ _ mark =>
      have visible : Text.isBlank c = false := by
        unfold punctuation? at mark
        split at mark <;> cases mark <;> decide
      exact ⟨⟨c, rfl, visible⟩, ⟨c, rfl, visible⟩⟩
  | word nonempty letters => exact .of_word nonempty letters

section Trim

variable {rest front back : List Char} {offset : Nat} {tokens : List Token}

/-- No token begins in white space. -/
theorem Cuts.of_isBlank {c : Char} (blank : Text.isBlank c = true)
    (cuts : Cuts rest offset (c :: front) tokens) :
    Cuts rest (offset + c.utf8Size) front tokens := by
  generalize whole : c :: front = text at cuts
  cases cuts with
  | done => cases whole
  | blank _ later =>
      cases whole
      exact later
  | @token _ slice _ _ _ spells =>
      obtain ⟨first, isFirst, visible⟩ := spells.edged.first
      obtain ⟨more, rfl⟩ := List.head?_eq_some_iff.mp isFirst
      obtain rfl := (List.cons.inj whole).1
      rw [blank] at visible
      cases visible

/-- White space in front of a text is passed over. -/
theorem Cuts.dropFront (blank : ∀ c ∈ front, Text.isBlank c = true)
    (cuts : Cuts rest offset (front ++ back) tokens) :
    Cuts rest (offset + utf8Length front) back tokens := by
  induction front generalizing offset with
  | nil => exact cuts
  | cons c front ih =>
      obtain ⟨isBlank, blank⟩ := List.forall_mem_cons.mp blank
      rw [utf8Length_cons, ← Nat.add_assoc]
      exact ih blank (cuts.of_isBlank isBlank)

/-- No token goes on in white space behind it, which may as well be left. -/
theorem Cuts.dropBack {whole : List Char} (cuts : Cuts rest offset whole tokens)
    (same : whole = front ++ back) (blank : ∀ c ∈ back, Text.isBlank c = true) :
    Cuts (back ++ rest) offset front tokens := by
  induction cuts generalizing front back with
  | done =>
      obtain ⟨rfl, rfl⟩ := List.append_eq_nil_iff.mp same.symm
      exact .done _
  | @blank offset c text tokens isBlank _ ih =>
      cases front with
      | nil =>
          obtain rfl : c :: text = back := same
          have nothing := ih (List.nil_append text).symm
            fun d there => blank d (List.mem_cons_of_mem c there)
          obtain rfl := List.length_eq_zero_iff.mp (Nat.le_zero.mp nothing.length_le)
          exact .done _
      | cons d front =>
          obtain ⟨rfl, rfl⟩ := List.cons.inj same
          exact .blank isBlank (ih rfl blank)
  | @token offset slice text token tokens spells place _ ih =>
      obtain ⟨more, rfl, rfl⟩ : ∃ more, front = slice ++ more ∧ text = more ++ back := by
        rcases List.append_eq_append_iff.mp same with found | ⟨more, rfl, rfl⟩
        · exact found
        by_cases nothing : more = []
        · exact ⟨[], by simp [nothing], by simp [nothing]⟩
        · obtain ⟨last, isLast, visible⟩ := spells.edged.last
          rw [Option.mem_def, List.getLast?_append_of_ne_nil front nothing] at isLast
          rw [blank last (List.mem_append_left text (List.mem_of_getLast? isLast))] at visible
          cases visible
      rw [List.append_assoc] at spells
      exact .token spells place (ih rfl blank)

/-- Without tokens there is nothing but white space. -/
theorem Cuts.isBlank_of_nil (cuts : Cuts rest offset front []) :
    ∀ c ∈ front, Text.isBlank c = true := by
  generalize none : ([] : List Token) = tokens at cuts
  induction cuts with
  | done => exact List.forall_mem_nil _
  | blank blank _ ih => exact List.forall_mem_cons.mpr ⟨blank, ih none⟩
  | token => cases none

/-- The trimmed text is made of tokens like those of the whole. -/
theorem Yields.trim {text : String} (yields : Yields text.toList tokens) :
    Yields (Text.trim text).toList tokens := by
  obtain ⟨placed, alike, cuts⟩ := yields
  obtain ⟨front, back, before, behind, around⟩ := Text.exists_around_trim text
  exact .of_alike alike ((cuts.dropBack around behind).dropFront before).yields

end Trim

end Lexer

/-- White space is trimmed to nothing. -/
theorem Text.trim_of_isBlank {text : String} (blank : ∀ c ∈ text.toList, isBlank c = true) :
    trim text = "" := by
  have dropped : text.toList.dropWhile isBlank = [] := List.dropWhile_eq_nil_iff.mpr blank
  rw [trim, trimChars, dropped]
  rfl

namespace Translator

/-- Both texts are the same filter with the same SQL text, or are blank, or the same is wrong
with both. -/
inductive Agree (translator : Translator) (text other : String) : Prop
  | converted {filter : Option Filter} {sql : String} :
      translator.parse text = .ok filter → translator.parse other = .ok filter →
      translator.convert text = .ok sql → translator.convert other = .ok sql →
      Agree translator text other
  | refused {error error' : SyntaxError} : error.Alike error' → translator.Refuses text error →
      translator.Refuses other error' → Agree translator text other

variable {translator : Translator} {text other : String} {tokens others : List Token}

/-- A text that is not too long and has tokens has the filter that they are read as. -/
theorem parse_of_ofTokens {filter : Filter}
    (short : translator.exceededLimit? (Text.trim text).utf8ByteSize = none)
    (cut : tokenize (Text.trim text) = .ok tokens) (nonempty : tokens ≠ [])
    (read : Filter.ofTokens translator.reserved translator.nestingLimit.toNat tokens =
      .ok filter) : translator.parse text = .ok (some filter) := by
  refine parse_eq_some_iff.mpr ⟨fun empty => ?_, ?_⟩
  · rw [empty, Lexer.tokenize_empty] at cut
    exact nonempty (Except.ok.inj cut).symm
  · rw [read_of_tokenize short cut, read]
    rfl

/-- A text without tokens is no filter and has no SQL text. -/
theorem parse_of_tokenize_nil (cut : tokenize text = .ok []) :
    translator.parse text = .ok none ∧ translator.convert text = .ok "" := by
  have blank := (Lexer.tokenize_eq_ok_iff_cuts.mp cut).isBlank_of_nil
  have parsed : translator.parse text = .ok none := by
    rw [parse, Text.trim_of_isBlank blank]
    rfl
  exact ⟨parsed, by rw [convert, parsed]; rfl⟩

/-- Texts whose tokens are alike are the same filter, or the same is wrong with both. -/
theorem agree_of_alike (short : translator.exceededLimit? (Text.trim text).utf8ByteSize = none)
    (short' : translator.exceededLimit? (Text.trim other).utf8ByteSize = none)
    (cut : tokenize text = .ok tokens) (cut' : tokenize other = .ok others)
    (alike : List.Forall₂ Token.Alike tokens others) : translator.Agree text other := by
  by_cases nothing : tokens = []
  · subst nothing
    cases alike
    obtain ⟨parsed, converted⟩ := parse_of_tokenize_nil cut
    obtain ⟨parsed', converted'⟩ := parse_of_tokenize_nil cut'
    exact .converted parsed parsed' converted converted'
  -- what is read are the tokens of the trimmed texts, at other places
  obtain ⟨placed, toPlaced, cuts⟩ := (Lexer.Yields.of_tokenize cut).trim
  obtain ⟨placed', toPlaced', cuts'⟩ := (Lexer.Yields.of_tokenize cut').trim
  have nonempty : placed ≠ [] := by
    rintro rfl
    cases toPlaced
    exact nothing rfl
  have same : List.Forall₂ Token.Alike placed placed' :=
    Token.alike_trans (Token.alike_symm toPlaced) (Token.alike_trans alike toPlaced')
  have nonempty' : placed' ≠ [] := by
    rintro rfl
    cases same
    exact nonempty rfl
  have recased := Lexer.recased_of_tokenize cuts.tokenize cuts'.tokenize same
  have outcomes := Filter.ofTokens_alike recased translator.reserved
    translator.nestingLimit.toNat
  generalize read :
    Filter.ofTokens translator.reserved translator.nestingLimit.toNat placed = outcome at outcomes
  generalize read' :
    Filter.ofTokens translator.reserved translator.nestingLimit.toNat placed' = outcome' at outcomes
  cases outcomes with
  | ok filter =>
      have parsed := parse_of_ofTokens short cuts.tokenize nonempty read
      have parsed' := parse_of_ofTokens short' cuts'.tokenize nonempty' read'
      exact .converted parsed parsed' (convert_of_parse parsed) (convert_of_parse parsed')
  | error errors =>
      exact .refused errors (refuses_of_ofTokens short cuts.tokenize nonempty read)
        (refuses_of_ofTokens short' cuts'.tokenize nonempty' read')

/-- Where two texts agree, they have the same SQL text or none. -/
theorem Agree.convert_eq_ok_iff (agree : translator.Agree text other) (sql : String) :
    translator.convert text = .ok sql ↔ translator.convert other = .ok sql := by
  cases agree with
  | converted _ _ converted converted' => rw [converted, converted']
  | refused _ refused refused' =>
      rw [refused.convert, refused'.convert]
      exact iff_of_false nofun nofun

/-- Layout and the spelling of keywords carry no meaning. Of two texts that are not too long,
and whose tokens have the same kinds and the same texts wherever they may be values, both are
the same filter and have the same SQL text, or the same is wrong with both. So white space that
is put between tokens or taken away from between them, at any number of places where no token
comes to go across, does not change the SQL text, nor does the case of the keywords. -/
theorem layout_carries_no_meaning
    (short : translator.exceededLimit? (Text.trim text).utf8ByteSize = none)
    (short' : translator.exceededLimit? (Text.trim other).utf8ByteSize = none) :
    (∀ tokens others, tokenize text = .ok tokens → tokenize other = .ok others →
      List.Forall₂ Token.Alike tokens others → translator.Agree text other) ∧
    (Relation.EqvGen Lexer.Restyles text other →
      ∀ sql, translator.convert text = .ok sql ↔ translator.convert other = .ok sql) := by
  refine ⟨fun tokens others cut cut' alike => agree_of_alike short short' cut cut' alike,
    fun restyled sql => ?_⟩
  rcases Lexer.alike_of_restyled restyled with rfl | ⟨tokens, others, cut, cut', alike⟩
  · exact Iff.rfl
  · exact (agree_of_alike short short' cut cut' alike).convert_eq_ok_iff sql

/-- A keyword in capitals, and a space less in front of a parenthesis. The longer of the two
texts is as long as the limit admits. -/
theorem layout_carries_no_meaning_negation :
    let translator : Translator := { standard with lengthLimit := some 12 }
    translator.exceededLimit? (Text.trim "not (a eq 1)").utf8ByteSize = none ∧
      translator.exceededLimit? (Text.trim "NOT(a eq 1)").utf8ByteSize = none ∧
      translator.Agree "not (a eq 1)" "NOT(a eq 1)" ∧
      Relation.EqvGen Lexer.Restyles "not (a eq 1)" "NOT(a eq 1)" ∧
      ∀ sql, translator.convert "not (a eq 1)" = .ok sql ↔
        translator.convert "NOT(a eq 1)" = .ok sql := by
  intro translator
  have opening : Lexer.Spells .opening ['('] ['('] "a eq 1)".toList := .punctuation _ rfl
  have closing : Lexer.Spells .closing [')'] [')'] [] := .punctuation _ rfl
  have one : Lexer.Spells _ "1".toList "1".toList ")".toList :=
    .word (by decide) (Text.forall_mem_of_all rfl) (Lexer.stops_cons rfl [])
  have negates : Lexer.Spells _ "NOT".toList "NOT".toList "(a eq 1)".toList :=
    .word (by decide) (Text.forall_mem_of_all rfl) (Lexer.stops_cons rfl _)
  have inside (offset : Nat) : Lexer.Cuts [] offset "(a eq 1)".toList _ :=
    .spelled opening <| .spaced "a" (by decide) rfl rfl <| .spaced "eq" (by decide) rfl rfl <|
      .spelled one <| .spelled closing (.done _)
  have cuts : Lexer.Cuts [] 0 "not (a eq 1)".toList _ :=
    .spaced "not" (by decide) rfl rfl (inside _)
  have cuts' : Lexer.Cuts [] 0 "NOT(a eq 1)".toList _ := .spelled negates (inside _)
  have cut := cuts.tokenize
  have cut' := cuts'.tokenize
  have recased : Lexer.Restyles "not (a eq 1)" "NOT (a eq 1)" :=
    @Lexer.Restyles.recase [] " (a eq 1)".toList "not" "NOT" ⟨_, cut, by decide⟩
      ⟨_, cut, by decide⟩ (by decide) (by decide)
  have spaced : Lexer.Restyles "NOT(a eq 1)" "NOT (a eq 1)" :=
    @Lexer.Restyles.space "NOT".toList [' '] "(a eq 1)".toList ⟨_, cut', by decide⟩
      (Text.forall_mem_of_all rfl)
  have restyled : Relation.EqvGen Lexer.Restyles "not (a eq 1)" "NOT(a eq 1)" :=
    .trans _ _ _ (.rel _ _ recased) (.symm _ _ (.rel _ _ spaced))
  have short : translator.exceededLimit? (Text.trim "not (a eq 1)").utf8ByteSize = none := rfl
  have short' : translator.exceededLimit? (Text.trim "NOT(a eq 1)").utf8ByteSize = none := rfl
  obtain ⟨agrees, converts⟩ := layout_carries_no_meaning short short'
  refine ⟨short, short', agrees _ _ cut cut' ?_, restyled, converts restyled⟩
  exact .cons ⟨rfl, nofun⟩ <| .cons ⟨rfl, nofun⟩ <| .cons ⟨rfl, fun _ => rfl⟩ <|
    .cons ⟨rfl, nofun⟩ <| .cons ⟨rfl, fun _ => rfl⟩ <| .cons ⟨rfl, nofun⟩ .nil

end Translator

end WhereClause
