/-
# Places between tokens

White space may stand at any place that no token goes across, and none need stand there if
no token comes to go across it. A text is divided at such a place: what is in front of it and
what is behind it are cut into tokens each for itself, so that one part can be changed without
the other.

Two ways of changing a text are looked at, white space at a place between tokens and the case
of a keyword that stands between two such places. Neither changes the tokens, but for their
places and the spelling of that keyword, and so no sequence of such changes does, in whichever
direction.
-/

import Mathlib.Logic.Relation
import WhereClause.Proofs.Draft.Alike
import WhereClause.Proofs.Text.Spelling
import WhereClause.Proofs.Token.Seam

namespace WhereClause

namespace Lexer

/-! ### Dividing a text -/

section Division

variable {rest rest' front back : List Char} {offset : Nat} {tokens : List Token}

/-- A text is cut into tokens like these wherever it stands, if there is a seam behind it. -/
theorem Cuts.anywhere (cuts : Cuts rest offset front tokens) (seam : Seam front rest')
    (offset' : Nat) :
    ∃ placed, List.Forall₂ Token.Alike tokens placed ∧ Cuts rest' offset' front placed := by
  induction cuts generalizing offset' with
  | done => exact ⟨[], .nil, .done _⟩
  | @blank offset c front tokens blank _ ih =>
      have seam' : Seam ([c] ++ front) rest' := seam
      obtain ⟨placed, alike, cuts⟩ := ih seam'.of_append (offset' + c.utf8Size)
      exact ⟨placed, alike, .blank blank cuts⟩
  | @token offset slice front token tokens spells _ _ ih =>
      obtain ⟨placed, alike, cuts⟩ := ih seam.of_append (offset' + utf8Length slice)
      refine ⟨{ token with span := ⟨offset', offset' + utf8Length slice⟩ } :: placed,
        .cons ⟨rfl, fun _ => rfl⟩ alike, .token (spells.of_seam seam) rfl cuts⟩

/-- What has been cut is made of its tokens. -/
theorem Cuts.yields (cuts : Cuts rest offset front tokens) : Yields front tokens :=
  cuts.anywhere (by simp [Seam]) 0

/-- A text can be divided where no token goes across. -/
theorem Cuts.divide {whole : List Char} (cuts : Cuts rest offset whole tokens)
    (same : whole = front ++ back)
    (between : ∀ token ∈ tokens, token.span.stop ≤ offset + utf8Length front ∨
      offset + utf8Length front ≤ token.span.start) :
    ∃ first second, tokens = first ++ second ∧ Cuts (back ++ rest) offset front first ∧
      Cuts rest (offset + utf8Length front) back second := by
  induction cuts generalizing front with
  | done =>
      obtain ⟨rfl, rfl⟩ := List.append_eq_nil_iff.mp same.symm
      exact ⟨[], [], rfl, .done _, .done _⟩
  | @blank offset c text tokens blank later ih =>
      cases front with
      | nil =>
          obtain rfl : c :: text = back := same
          exact ⟨[], tokens, rfl, .done _, .blank blank later⟩
      | cons d front =>
          obtain ⟨rfl, rfl⟩ := List.cons.inj same
          rw [utf8Length_cons, ← Nat.add_assoc] at between ⊢
          obtain ⟨first, second, rfl, before, behind⟩ := ih rfl between
          exact ⟨first, second, rfl, .blank blank before, behind⟩
  | @token offset slice text token tokens spells place later ih =>
      cases front with
      | nil =>
          obtain rfl : slice ++ text = back := same
          exact ⟨[], token :: tokens, rfl, .done _, .token spells place later⟩
      | cons d front =>
          -- the place lies behind the first token, since it is not in front of it
          have positive := d.utf8Size_pos
          have within : utf8Length slice ≤ utf8Length (d :: front) := by
            have apart := between token List.mem_cons_self
            simp only [place, utf8Length_cons] at apart ⊢
            omega
          obtain ⟨more, split, rfl⟩ : ∃ more, d :: front = slice ++ more ∧ text = more ++ back := by
            rcases List.append_eq_append_iff.mp same with found | ⟨more, rfl, rfl⟩
            · exact found
            · rw [utf8Length_append] at within
              obtain rfl : more = [] := utf8Length_eq_zero_iff.mp (by omega)
              exact ⟨[], by simp, by simp⟩
          rw [split, utf8Length_append, ← Nat.add_assoc] at between ⊢
          obtain ⟨first, second, rfl, before, behind⟩ :=
            ih rfl fun other there => between other (List.mem_cons_of_mem token there)
          refine ⟨token :: first, second, rfl, .token ?_ place before, behind⟩
          rwa [← List.append_assoc]

end Division

/-! ### Tokens without values in them -/

/-- No punctuation mark makes the token of a keyword. -/
theorem keyword?_ne_of_punctuation {c : Char} {kind : TokenKind}
    (mark : punctuation? c = some kind) (word : String) :
    TokenKind.keyword? word ≠ some kind := by
  intro found
  have other : ∀ entry ∈ TokenKind.keywords,
      entry.2 ≠ .opening ∧ entry.2 ≠ .closing ∧ entry.2 ≠ .comma := by decide
  obtain ⟨notOpening, notClosing, notComma⟩ := other _ (mem_keywords_of_keyword? found)
  unfold punctuation? at mark
  split at mark <;> cases mark
  · exact notOpening rfl
  · exact notClosing rfl
  · exact notComma rfl

/-- There is one punctuation mark of each kind. -/
theorem punctuation?_inj {c d : Char} {kind : TokenKind} (mark : punctuation? c = some kind)
    (mark' : punctuation? d = some kind) : c = d := by
  unfold punctuation? at mark mark'
  split at mark <;> cases mark <;> split at mark' <;> cases mark' <;> rfl

/-- What is no value is a punctuation mark, or it spells a keyword. -/
theorem Spells.of_not_isValue {kind : TokenKind} {text slice after : List Char}
    (spells : Spells kind text slice after) (notValue : kind.isValue = false) :
    (∃ c, punctuation? c = some kind ∧ text = [c]) ∨
      TokenKind.keyword? (String.ofList text) = some kind := by
  cases spells with
  | string => cases notValue
  | punctuation _ mark => exact .inl ⟨_, mark, rfl⟩
  | word =>
      right
      unfold wordKind at notValue ⊢
      split at notValue
      · assumption
      · split at notValue <;> cases notValue

/-- Tokens that are alike and were cut from texts differ in the spelling of keywords only. -/
theorem Spells.recased {token other : Token} {slice after slice' after' : List Char}
    (spells : Spells token.kind token.text.toList slice after)
    (spells' : Spells other.kind other.text.toList slice' after') (alike : token.Alike other) :
    token.Recased other := by
  refine { alike with spelling := ?_ }
  cases isValue : token.kind.isValue with
  | true => exact .inl (alike.text isValue)
  | false =>
      rw [← alike.kind] at spells'
      have text := spells.of_not_isValue isValue
      have text' := spells'.of_not_isValue isValue
      rw [String.ofList_toList] at text text'
      rcases text with ⟨c, mark, is⟩ | keyword <;> rcases text' with ⟨d, mark', is'⟩ | keyword'
      · obtain rfl := punctuation?_inj mark mark'
        exact .inl (String.toList_inj.mp (is.trans is'.symm))
      · exact absurd keyword' (keyword?_ne_of_punctuation mark _)
      · exact absurd keyword (keyword?_ne_of_punctuation mark' _)
      · exact .inr ⟨_, keyword, keyword'⟩

/-- Nothing else in the tokens of two texts can differ if they are alike. -/
theorem recased_of_tokenize {text other : String} {tokens others : List Token}
    (cut : tokenize text = .ok tokens) (cut' : tokenize other = .ok others)
    (alike : List.Forall₂ Token.Alike tokens others) :
    List.Forall₂ Token.Recased tokens others := by
  obtain ⟨counted, each⟩ := List.forall₂_iff_zip.mp alike
  refine List.forall₂_iff_zip.mpr ⟨counted, fun {token other} there => ?_⟩
  obtain ⟨here, here'⟩ := List.of_mem_zip there
  obtain ⟨_, _, -, spells⟩ := covers_of_tokenize cut token here
  obtain ⟨_, _, -, spells'⟩ := covers_of_tokenize cut' other here'
  exact spells.recased spells' (each there)

/-! ### Changes that leave the tokens alike -/

section Word

variable {front back : List Char} {word : String}

/-- A word that may stand somewhere may do so because something in front of it ends words. -/
theorem seam_append_word_iff (nonempty : word.toList ≠ [])
    (letters : ∀ c ∈ word.toList, isDelimiter c = false) :
    Seam front (word.toList ++ back) ↔ ∀ last ∈ front.getLast?, isDelimiter last = true := by
  obtain ⟨c, more, spelled⟩ := List.exists_cons_of_ne_nil nonempty
  rw [spelled] at letters ⊢
  have letter := letters c List.mem_cons_self
  constructor
  · intro seam last there
    rcases (seam last there c rfl).1 with ends | ends
    · exact ends
    · rw [letter] at ends
      cases ends
  · intro ends last there first here
    obtain rfl : c = first := Option.some.inj here
    refine ⟨.inl (ends last there), ?_⟩
    rintro - rfl
    cases letter

/-- And something behind it ends it. -/
theorem seam_word_iff (nonempty : word.toList ≠ [])
    (letters : ∀ c ∈ word.toList, isDelimiter c = false) :
    Seam word.toList back ↔ ∀ first ∈ back.head?, isDelimiter first = true := by
  have last := List.getLast?_eq_some_getLast nonempty
  have letter := letters _ (List.getLast_mem nonempty)
  constructor
  · intro seam first there
    rcases (seam _ last first there).1 with ends | ends
    · rw [letter] at ends
      cases ends
    · exact ends
  · intro ends c isLast first there
    refine ⟨.inr (ends first there), ?_⟩
    rintro rfl
    have inside := letters '\'' (List.mem_of_getLast? isLast)
    cases inside

/-- A keyword has letters only, in whatever case. -/
theorem SpellsKeyword.of_keyword? {kind : TokenKind}
    (keyword : TokenKind.keyword? word = some kind) : SpellsKeyword word kind := by
  refine ⟨fun c there => ?_, keyword⟩
  have letters : ∀ entry ∈ TokenKind.keywords,
      entry.1.toList.all (isDelimiter · = false) = true := by decide
  have low := Text.forall_mem_of_all (letters _ (mem_keywords_of_keyword? keyword)) c.toLower
  rw [String.toList_ofList] at low
  have caseless : isDelimiter c.toLower = isDelimiter c := Text.apply_toLower (by decide) c
  rw [← caseless]
  exact low (List.mem_map_of_mem there)

end Word

/-- No token of the text goes across the place between its two parts. -/
def Boundary (front back : List Char) : Prop :=
  ∃ tokens, tokenize (String.ofList (front ++ back)) = .ok tokens ∧
    ∀ token ∈ tokens, token.span.stop ≤ utf8Length front ∨ utf8Length front ≤ token.span.start

/-- One change of layout or spelling: white space is put at a place between tokens, or a
keyword between two such places is written in another case. -/
inductive Restyles : String → String → Prop
  | space {front blanks back : List Char} : Boundary front back →
      (∀ c ∈ blanks, Text.isBlank c = true) →
      Restyles (String.ofList (front ++ back)) (String.ofList (front ++ blanks ++ back))
  | recase {front back : List Char} {word word' : String} :
      Boundary front (word.toList ++ back) → Boundary (front ++ word.toList) back →
      TokenKind.keyword? word ≠ none → Text.SpelledAlike word word' →
      Restyles (String.ofList (front ++ word.toList ++ back))
        (String.ofList (front ++ word'.toList ++ back))

section Restyles

variable {text other : String} {tokens others : List Token}

/-- The word is read as it is in another spelling of the keyword. -/
theorem Yields.respelled {word word' : String} {kind : TokenKind}
    (yields : Yields word.toList tokens) (spelled : SpellsKeyword word kind)
    (spelled' : SpellsKeyword word' kind) : Yields word'.toList tokens := by
  obtain ⟨placed, alike, cuts⟩ := yields
  obtain rfl := Except.ok.inj
    (cuts.tokenize.symm.trans (tokenize_word spelled.ne_nil spelled.letters))
  have isKind : wordKind word = kind := by rw [wordKind, spelled.keyword]
  refine .of_alike alike (.word spelled'.ne_nil spelled'.letters ?_ fun isValue => ?_)
  · rw [isKind, wordKind, spelled'.keyword]
  · rw [isKind, isValue_of_keyword? spelled.keyword] at isValue
    cases isValue

/-- One change leaves the tokens alike. -/
theorem Restyles.yields (restyles : Restyles text other) :
    ∃ tokens, tokenize text = .ok tokens ∧ Yields other.toList tokens := by
  cases restyles with
  | @space front blanks back boundary blank =>
      obtain ⟨tokens, cut, between⟩ := boundary
      refine ⟨tokens, cut, ?_⟩
      have cuts := tokenize_eq_ok_iff_cuts.mp cut
      rw [String.toList_ofList] at cuts ⊢
      obtain ⟨first, second, rfl, before, behind⟩ := cuts.divide rfl (by simpa using between)
      have spaced := Yields.surrounded blank (List.forall_mem_nil _) behind.yields
      rw [List.append_nil] at spaced before
      rw [List.append_assoc]
      refine before.yields.append spaced ?_
      cases blanks with
      | nil => exact before.seam
      | cons c blanks =>
          refine Seam.of_head fun d there => ?_
          obtain rfl := Option.some.inj there
          exact separates_of_isBlank (blank _ List.mem_cons_self)
  | @recase front back word word' boundary boundary' keyword alike =>
      obtain ⟨tokens, cut, between⟩ := boundary
      obtain ⟨_, cut', between'⟩ := boundary'
      rw [List.append_assoc] at cut'
      obtain rfl := Except.ok.inj (cut.symm.trans cut')
      refine ⟨tokens, by rwa [List.append_assoc], ?_⟩
      have cuts := tokenize_eq_ok_iff_cuts.mp cut
      rw [String.toList_ofList] at cuts ⊢
      obtain ⟨first, _, rfl, before, later⟩ := cuts.divide rfl (by simpa using between)
      obtain ⟨middle, second, rfl, within, behind⟩ := later.divide rfl fun token there => by
        have apart := between' token (List.mem_append_right first there)
        rwa [utf8Length_append, ← Nat.zero_add (utf8Length front)] at apart
      obtain ⟨kind, is⟩ := Option.ne_none_iff_exists'.mp keyword
      have is' : TokenKind.keyword? word' = some kind := by
        rwa [TokenKind.keyword?, ← alike]
      have spelled := SpellsKeyword.of_keyword? is
      have spelled' := SpellsKeyword.of_keyword? is'
      have seam : Seam front word'.toList := by
        have seam := before.seam
        rw [List.append_nil, seam_append_word_iff spelled.ne_nil spelled.letters] at seam
        rwa [← List.append_nil word'.toList,
          seam_append_word_iff spelled'.ne_nil spelled'.letters]
      have seam' : Seam word'.toList back := by
        have seam := within.seam
        rw [List.append_nil, seam_word_iff spelled.ne_nil spelled.letters] at seam
        rwa [seam_word_iff spelled'.ne_nil spelled'.letters]
      have changed := before.yields.append (within.yields.respelled spelled spelled') seam
      have whole := changed.append behind.yields (seam'.behind spelled'.ne_nil front)
      rwa [List.append_assoc first] at whole

/-- Changes of layout and spelling, in either direction and one after another, leave the tokens
alike. -/
theorem alike_of_restyled (restyled : Relation.EqvGen Restyles text other) :
    text = other ∨ ∃ tokens others, tokenize text = .ok tokens ∧ tokenize other = .ok others ∧
      List.Forall₂ Token.Alike tokens others := by
  induction restyled with
  | rel text other restyles =>
      obtain ⟨tokens, cut, placed, alike, cuts⟩ := restyles.yields
      exact .inr ⟨tokens, placed, cut, cuts.tokenize, alike⟩
  | refl text => exact .inl rfl
  | symm text other _ ih =>
      rcases ih with rfl | ⟨tokens, others, cut, cut', alike⟩
      · exact .inl rfl
      · exact .inr ⟨others, tokens, cut', cut, Token.alike_symm alike⟩
  | trans text other third _ _ ih ih' =>
      rcases ih with rfl | ⟨tokens, others, cut, cut', alike⟩
      · exact ih'
      rcases ih' with rfl | ⟨_, thirds, again, cutThird, alike'⟩
      · exact .inr ⟨tokens, others, cut, cut', alike⟩
      obtain rfl := Except.ok.inj (cut'.symm.trans again)
      exact .inr ⟨tokens, thirds, cut, cutThird, Token.alike_trans alike alike'⟩

end Restyles

end Lexer

end WhereClause
