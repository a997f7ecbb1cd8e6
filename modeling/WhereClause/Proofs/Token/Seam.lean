/-
# The tokens of texts put together

Two texts put together have the tokens of the first and then those of the second, unless
a token goes on across the seam: a word that meets a word, or a string that meets a
string. The tokens of the second text move with it; apart from their places nothing
happens to them.

A parser does not look at places, nor at how a keyword is spelled. So for texts that are
composed of parts it is enough to know their tokens up to these two things. The second
half of the file composes texts in this way, part by part.
-/

import Mathlib.Data.List.Forall2
import WhereClause.Proofs.Text.Lowercase
import WhereClause.Proofs.Token.Lexer

namespace WhereClause

/-- The tokens differ at most in their places and, where they are keywords or punctuation
marks, in their texts. -/
structure Token.Alike (token other : Token) : Prop where
  kind : token.kind = other.kind
  text : token.kind.isValue = true → token.text = other.text

namespace Token

/-- The token, if the text that it stands in has some bytes more in front. -/
def moved (distance : Nat) (token : Token) : Token :=
  { token with span := ⟨distance + token.span.start, distance + token.span.stop⟩ }

/-- A token without a place. -/
def unplaced (kind : TokenKind) (text : String) : Token :=
  { kind, text, span := ⟨0, 0⟩ }

/-- A keyword or a punctuation mark, of which only the kind matters. -/
def bare (kind : TokenKind) : Token :=
  .unplaced kind ""

theorem Alike.refl (token : Token) : token.Alike token :=
  ⟨rfl, fun _ => rfl⟩

theorem Alike.symm {token other : Token} (alike : token.Alike other) : other.Alike token :=
  ⟨alike.kind.symm, fun isValue => (alike.text (alike.kind ▸ isValue)).symm⟩

theorem Alike.trans {token other third : Token} (alike : token.Alike other)
    (alike' : other.Alike third) : token.Alike third :=
  ⟨alike.kind.trans alike'.kind, fun isValue =>
    (alike.text isValue).trans (alike'.text (alike.kind ▸ isValue))⟩

theorem alike_symm {tokens others : List Token} (alike : List.Forall₂ Alike tokens others) :
    List.Forall₂ Alike others tokens :=
  (alike.imp fun _ _ same => same.symm).flip

theorem alike_trans {tokens others thirds : List Token}
    (alike : List.Forall₂ Alike tokens others) (alike' : List.Forall₂ Alike others thirds) :
    List.Forall₂ Alike tokens thirds := by
  induction alike generalizing thirds with
  | nil => exact alike'
  | cons same _ ih =>
      cases alike' with
      | cons same' alike' => exact .cons (same.trans same') (ih alike')

/-- Moving a token changes its place only. -/
theorem Alike.moved {token other : Token} (alike : token.Alike other) (distance : Nat) :
    token.Alike (other.moved distance) :=
  ⟨alike.kind, alike.text⟩

/-- Where tokens are alike one by one, they are alike part by part. -/
theorem alike_append {front back others : List Token}
    (alike : List.Forall₂ Alike (front ++ back) others) :
    ∃ first second, List.Forall₂ Alike front first ∧ List.Forall₂ Alike back second ∧
      others = first ++ second := by
  refine ⟨_, _, ?_, ?_, (List.take_append_drop front.length others).symm⟩
  · exact (List.forall₂_take_append others front back alike.flip).flip
  · exact (List.forall₂_drop_append others front back alike.flip).flip

end Token

namespace Lexer

/-- No token at the end of `front` goes on in `rest`. -/
def Seam (front rest : List Char) : Prop :=
  ∀ last ∈ front.getLast?, ∀ first ∈ rest.head?,
    (isDelimiter last = true ∨ isDelimiter first = true) ∧ (last = '\'' → first ≠ '\'')

instance (front rest : List Char) : Decidable (Seam front rest) :=
  have (last : Char) : Decidable (∀ first ∈ rest.head?,
      (isDelimiter last = true ∨ isDelimiter first = true) ∧ (last = '\'' → first ≠ '\'')) :=
    Option.decidableForallMem _
  Option.decidableForallMem _

section Seam

variable {front back rest : List Char} {offset : Nat} {tokens more : List Token}

/-- There is a seam in front of white space and of punctuation marks. -/
theorem Seam.of_head (ends : ∀ c ∈ rest.head?, isDelimiter c = true ∧ c ≠ '\'') :
    Seam front rest :=
  fun _ _ first there => ⟨.inr (ends first there).1, fun _ => (ends first there).2⟩

/-- There is a seam behind white space and behind punctuation marks. -/
theorem Seam.of_getLast (ends : ∀ c ∈ front.getLast?, isDelimiter c = true ∧ c ≠ '\'') :
    Seam front rest :=
  fun last there _ _ => ⟨.inl (ends last there).1, fun quote => absurd quote (ends last there).2⟩

/-- White space is no part of a token. -/
theorem separates_of_isBlank {c : Char} (blank : Text.isBlank c = true) :
    isDelimiter c = true ∧ c ≠ '\'' := by
  refine ⟨by rw [isDelimiter, blank, Bool.true_or, Bool.true_or], ?_⟩
  rintro rfl
  cases blank

/-- A punctuation mark is no part of any other token. -/
theorem separates_of_punctuation {c : Char} {kind : TokenKind}
    (mark : punctuation? c = some kind) : isDelimiter c = true ∧ c ≠ '\'' := by
  unfold punctuation? at mark
  split at mark <;> cases mark <;> exact ⟨by decide, by decide⟩

/-- What stands further in front does not close a seam. -/
theorem Seam.behind (seam : Seam back rest) (nonempty : back ≠ []) (front : List Char) :
    Seam (front ++ back) rest := by
  intro last there
  rw [List.getLast?_append_of_ne_nil front nonempty] at there
  exact seam last there

/-- Whether there is a seam depends only on what stands next to it. -/
theorem Seam.of_append (seam : Seam (front ++ back) rest) : Seam back rest := by
  intro last there
  refine seam last ?_
  rw [Option.mem_def] at there ⊢
  rw [List.getLast?_append, there]
  rfl

/-- A slice that makes a token does not go on in what follows it. -/
theorem Spells.seam {kind : TokenKind} {text slice after : List Char}
    (spells : Spells kind text slice after) : Seam slice after := by
  cases spells with
  | string body stops =>
      intro last isLast first there
      rw [List.getLast?_concat] at isLast
      obtain rfl := Option.some.inj isLast
      refine ⟨.inl rfl, ?_⟩
      rintro - rfl
      exact stops there
  | punctuation _ mark =>
      refine Seam.of_getLast fun c there => ?_
      obtain rfl := Option.some.inj there
      exact separates_of_punctuation mark
  | word nonempty letters stops =>
      intro last isLast first there
      refine ⟨.inr (stops first there), ?_⟩
      rintro rfl
      have letter := letters '\'' (List.mem_of_getLast? isLast)
      cases letter

/-- What has been cut does not go on in what follows it. -/
theorem Cuts.seam (cuts : Cuts rest offset front tokens) : Seam front rest := by
  induction cuts with
  | done => simp [Seam]
  | @blank offset c front tokens blank _ ih =>
      cases front with
      | nil =>
          refine Seam.of_getLast fun d there => ?_
          obtain rfl : c = d := Option.some.inj there
          exact separates_of_isBlank blank
      | cons d front => exact ih.behind (List.cons_ne_nil d front) [c]
  | @token offset slice front token tokens spells _ _ ih =>
      cases front with
      | nil =>
          rw [List.append_nil]
          exact spells.seam
      | cons d front => exact ih.behind (List.cons_ne_nil d front) slice

/-- A slice makes the same token where something else follows, if the two are not
joined. -/
theorem Spells.of_seam {kind : TokenKind} {text slice : List Char}
    (spells : Spells kind text slice (front ++ back)) (seam : Seam (slice ++ front) rest) :
    Spells kind text slice (front ++ rest) := by
  -- the first character behind the slice is the same, unless the seam is there
  have follows : front ≠ [] → (front ++ rest).head? = (front ++ back).head? := by
    intro nonempty
    obtain ⟨c, more, rfl⟩ := List.exists_cons_of_ne_nil nonempty
    rfl
  by_cases here : front = []
  · subst here
    rw [List.append_nil] at seam
    rw [List.nil_append]
    cases spells with
    | string body _ =>
        apply Spells.string
        intro quote
        exact (seam '\'' List.getLast?_concat '\'' quote).2 rfl rfl
    | punctuation _ mark => exact .punctuation _ mark
    | word nonempty letters _ =>
        refine .word nonempty letters fun c there => ?_
        have last := List.getLast?_eq_some_getLast nonempty
        have inside := letters _ (List.getLast_mem nonempty)
        rcases (seam _ last c there).1 with ends | ends
        · rw [inside] at ends
          cases ends
        · exact ends
  · cases spells with
    | string body stops => exact .string body (by rwa [follows here])
    | punctuation _ mark => exact .punctuation _ mark
    | word nonempty letters stops =>
        exact .word nonempty letters (by rwa [follows here])

/-- A text is cut into the same tokens wherever it stands, apart from their places, if
there is a seam behind it. -/
theorem Cuts.moved (cuts : Cuts back offset front tokens) (seam : Seam front rest)
    (distance : Nat) :
    Cuts rest (distance + offset) front (tokens.map (Token.moved distance)) := by
  induction cuts with
  | done => exact .done _
  | @blank offset c front tokens blank _ ih =>
      have seam' : Seam ([c] ++ front) rest := seam
      have later := ih seam'.of_append
      rw [← Nat.add_assoc] at later
      exact .blank blank later
  | @token offset slice front token tokens spells place _ ih =>
      have later := ih seam.of_append
      rw [← Nat.add_assoc] at later
      refine .token (spells.of_seam seam) ?_ later
      rw [Token.moved, place, Nat.add_assoc]

/-- Cutting goes on behind the first of two texts. -/
theorem Cuts.append (first : Cuts (back ++ rest) offset front tokens)
    (second : Cuts rest (offset + utf8Length front) back more) :
    Cuts rest offset (front ++ back) (tokens ++ more) := by
  induction first with
  | done => exact second
  | @blank offset c front tokens blank _ ih =>
      rw [utf8Length_cons, ← Nat.add_assoc] at second
      exact .blank blank (ih second)
  | @token offset slice front token tokens spells place _ ih =>
      rw [utf8Length_append, ← Nat.add_assoc] at second
      rw [List.append_assoc]
      refine .token ?_ place (ih second)
      rwa [List.append_assoc]

/-- A text is cut into the same tokens whatever follows it, if there is a seam behind it. -/
theorem Cuts.before (cuts : Cuts back offset front tokens) (seam : Seam front rest) :
    Cuts rest offset front tokens := by
  have same (token : Token) : token.moved 0 = token := by simp [Token.moved]
  have moved := cuts.moved seam 0
  rwa [Nat.zero_add, List.map_congr_left fun token _ => same token, List.map_id'] at moved

/-- Two texts with a seam between them are cut as each of them is by itself. -/
theorem Cuts.compose (first : Cuts [] 0 front tokens) (second : Cuts rest 0 back more)
    (seam : Seam front (back ++ rest)) :
    Cuts rest 0 (front ++ back) (tokens ++ more.map (Token.moved (utf8Length front))) := by
  refine (first.before seam).append ?_
  rw [Nat.zero_add]
  exact second.moved second.seam (utf8Length front)

end Seam

/-- The word is a keyword of this kind, in whatever case. -/
structure SpellsKeyword (word : String) (kind : TokenKind) : Prop where
  letters : ∀ c ∈ word.toList, isDelimiter c = false
  keyword : TokenKind.keyword? word = some kind

namespace SpellsKeyword

theorem ne_nil {word : String} {kind : TokenKind} (spelled : SpellsKeyword word kind) :
    word.toList ≠ [] := by
  intro empty
  have keyword := spelled.keyword
  rw [TokenKind.keyword?, empty] at keyword
  cases keyword

theorem connective (joint : Connective) : SpellsKeyword joint.keyword (.connective joint) := by
  cases joint <;> exact ⟨Text.forall_mem_of_all rfl, rfl⟩

theorem comparison (sign : Comparison) : SpellsKeyword sign.keyword (.comparison sign) := by
  cases sign <;> exact ⟨Text.forall_mem_of_all rfl, rfl⟩

end SpellsKeyword

/-! ### Texts and their tokens, places and spelling aside -/

/-- The text is made of tokens like these. -/
def Yields (text : List Char) (tokens : List Token) : Prop :=
  ∃ placed, List.Forall₂ Token.Alike tokens placed ∧ Cuts [] 0 text placed

namespace Yields

variable {text text' : List Char} {tokens tokens' : List Token}

/-- The tokens that a text is cut into. -/
theorem of_tokenize {text : String} (cut : tokenize text = .ok tokens) :
    Yields text.toList tokens :=
  ⟨tokens, List.forall₂_same.mpr fun token _ => .refl token, tokenize_eq_ok_iff_cuts.mp cut⟩

/-- A text is made of all tokens that are like the ones it is made of. -/
theorem of_alike {others : List Token} (alike : List.Forall₂ Token.Alike tokens others)
    (yields : Yields text others) : Yields text tokens := by
  obtain ⟨placed, alike', cuts⟩ := yields
  exact ⟨placed, Token.alike_trans alike alike', cuts⟩

/-- Two texts with a seam between them. -/
theorem append (first : Yields text tokens) (second : Yields text' tokens')
    (seam : Seam text text') : Yields (text ++ text') (tokens ++ tokens') := by
  obtain ⟨placed, alike, cuts⟩ := first
  obtain ⟨placed', alike', cuts'⟩ := second
  refine ⟨_, List.rel_append alike ?_, cuts.compose cuts' (by rwa [List.append_nil])⟩
  rw [List.forall₂_map_right_iff]
  exact alike'.imp fun _ _ same => same.moved _

/-- White space around a text makes no token. -/
theorem surrounded {front back : List Char} (before : ∀ c ∈ front, Text.isBlank c = true)
    (behind : ∀ c ∈ back, Text.isBlank c = true) (yields : Yields text tokens) :
    Yields (front ++ text ++ back) tokens := by
  have space {blanks : List Char} (blank : ∀ c ∈ blanks, Text.isBlank c = true) :
      Yields blanks [] := by
    have cuts : Cuts [] 0 (blanks ++ []) [] := .blanks blank (.done _)
    rw [List.append_nil] at cuts
    exact ⟨[], .nil, cuts⟩
  have first : Yields (front ++ text) tokens := by
    refine (space before).append yields (Seam.of_getLast fun c there => ?_)
    exact separates_of_isBlank (before c (List.mem_of_getLast? there))
  rw [← List.append_nil tokens]
  refine first.append (space behind) (Seam.of_head fun c there => ?_)
  exact separates_of_isBlank (behind c (List.mem_of_head? there))

/-- White space in front of a text. -/
theorem blank {c : Char} (blank : Text.isBlank c = true) (yields : Yields text tokens) :
    Yields (c :: text) tokens := by
  have around := surrounded (by simpa using blank : ∀ d ∈ [c], _) (List.forall_mem_nil _) yields
  rwa [List.append_nil] at around

/-- A slice that makes a token by itself. -/
theorem single {kind : TokenKind} {slice : List Char} {token : Token}
    (spells : Spells kind text slice []) (isKind : token.kind = kind)
    (written : kind.isValue = true → token.text = String.ofList text) : Yields slice [token] := by
  have cuts : Cuts [] 0 _ _ := .spelled spells (.done _)
  rw [List.append_nil] at cuts
  refine ⟨_, .cons ⟨isKind, fun isValue => written ?_⟩ .nil, cuts⟩
  rwa [← isKind]

/-- A punctuation mark in front of a text. -/
theorem mark {c : Char} {kind : TokenKind} (mark : punctuation? c = some kind)
    (yields : Yields text tokens) : Yields (c :: text) (.bare kind :: tokens) := by
  have notValue {c : Char} {kind : TokenKind} (mark : punctuation? c = some kind) :
      kind.isValue = false := by
    unfold punctuation? at mark
    split at mark <;> cases mark <;> rfl
  have alone : Yields [c] [.bare kind] := by
    refine .single (.punctuation [] mark) rfl fun isValue => ?_
    rw [notValue mark] at isValue
    cases isValue
  refine alone.append yields (Seam.of_getLast fun d there => ?_)
  obtain rfl : c = d := Option.some.inj there
  exact separates_of_punctuation mark

/-- A single word. -/
theorem word {word : String} {token : Token} (nonempty : word.toList ≠ [])
    (letters : ∀ c ∈ word.toList, isDelimiter c = false) (kind : token.kind = wordKind word)
    (written : token.kind.isValue = true → token.text = word) : Yields word.toList [token] := by
  have spells : Spells (wordKind word) word.toList word.toList [] := by
    have made : Spells _ word.toList word.toList [] := .word nonempty letters stops_nil
    rwa [String.ofList_toList] at made
  refine .single spells kind fun isValue => ?_
  rw [String.ofList_toList]
  exact written (kind ▸ isValue)

/-- A keyword. -/
theorem keyword {word : String} {kind : TokenKind} (spelled : SpellsKeyword word kind) :
    Yields word.toList [.bare kind] := by
  have isKind : kind = wordKind word := by rw [wordKind, spelled.keyword]
  refine .word spelled.ne_nil spelled.letters isKind fun isValue => ?_
  have notValue : (Token.bare kind).kind.isValue = false := isValue_of_keyword? spelled.keyword
  rw [notValue] at isValue
  cases isValue

/-- A single string. -/
theorem string (body : List Char) :
    Yields ('\'' :: Text.double '\'' body ++ ['\''])
      [.unplaced .string (String.ofList ('\'' :: body ++ ['\'']))] :=
  .single (.string body (by decide)) rfl fun _ => rfl

/-- Two texts with a space between them. -/
theorem spaced (first : Yields text tokens) (second : Yields text' tokens') :
    Yields (text ++ ' ' :: text') (tokens ++ tokens') := by
  refine first.append (.blank (by decide) second) (Seam.of_head fun c there => ?_)
  obtain rfl := Option.some.inj there
  exact ⟨by decide, by decide⟩

/-- Two texts with a comma and a space between them. -/
theorem separated (first : Yields text tokens) (second : Yields text' tokens') :
    Yields (text ++ ',' :: ' ' :: text') (tokens ++ .bare .comma :: tokens') := by
  have comma : punctuation? ',' = some .comma := rfl
  refine first.append (.mark comma (.blank (by decide) second)) (Seam.of_head fun c there => ?_)
  obtain rfl := Option.some.inj there
  exact ⟨by decide, by decide⟩

/-- A text between parentheses. -/
theorem enclosed (inside : Yields text tokens) :
    Yields ('(' :: text ++ [')']) (.bare .opening :: tokens ++ [.bare .closing]) := by
  have opening : punctuation? '(' = some .opening := rfl
  have closing : punctuation? ')' = some .closing := rfl
  have nothing : Yields [] [] := ⟨[], .nil, .done 0⟩
  refine .mark opening (inside.append (.mark closing nothing) (Seam.of_head fun c there => ?_))
  obtain rfl := Option.some.inj there
  exact ⟨by decide, by decide⟩

end Yields

end Lexer

end WhereClause
