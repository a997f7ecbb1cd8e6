/-
# Tokens and the text they were cut from

Cutting a text into tokens loses nothing but white space. Each token stands for a
slice of the text, the slices follow one another in the order of the tokens, and
what lies between them is blank. A slice determines the kind and the text of its
token, and only a quoted string is not copied: its text has one quote where the
slice has two.

What a slice is depends on what follows it: a word goes on until something ends it,
and a string is closed by a quote that no quote follows. With that taken into account
every text can be cut in such a way, up to its end or up to a string that is not
closed, and what the lexer answers with are the tokens of any such cut.
-/

import Mathlib.Data.List.TakeWhile
import WhereClause.Proofs.Text.Doubling
import WhereClause.Token.Lexer

namespace WhereClause

namespace Lexer

theorem foldl_utf8Size (length : Nat) (cs : List Char) :
    cs.foldl (fun length c => length + c.utf8Size) length = length + utf8Length cs := by
  induction cs generalizing length with
  | nil => rfl
  | cons c rest ih =>
      rw [utf8Length, List.foldl_cons, List.foldl_cons, ih, ih (0 + c.utf8Size), Nat.zero_add,
        Nat.add_assoc]

@[simp]
theorem utf8Length_nil : utf8Length [] = 0 :=
  rfl

/-- The length of a text in UTF-8, the first character of it set apart. -/
theorem utf8Length_cons (c : Char) (rest : List Char) :
    utf8Length (c :: rest) = c.utf8Size + utf8Length rest := by
  rw [utf8Length, List.foldl_cons, foldl_utf8Size, Nat.zero_add]

/-- Lengths in UTF-8 add up. -/
theorem utf8Length_append (front back : List Char) :
    utf8Length (front ++ back) = utf8Length front + utf8Length back := by
  rw [utf8Length, List.foldl_append, foldl_utf8Size]
  rfl

/-- The length of the characters of a text is its length in bytes. -/
theorem utf8Length_toList (text : String) : utf8Length text.toList = text.utf8ByteSize := by
  have listed (cs : List Char) : utf8Length cs = (String.ofList cs).utf8ByteSize := by
    induction cs with
    | nil => rfl
    | cons c rest ih =>
        rw [String.ofList_cons, String.utf8ByteSize_append, String.utf8ByteSize_singleton, ← ih,
          utf8Length_cons]
  rw [listed, String.ofList_toList]

/-- A text has no more characters than bytes. -/
theorem length_le_utf8Length (cs : List Char) : cs.length ≤ utf8Length cs := by
  induction cs with
  | nil => exact Nat.le_refl _
  | cons c rest ih =>
      have positive := c.utf8Size_pos
      rw [utf8Length_cons, List.length_cons]
      omega

/-- Only without characters is there no length. -/
theorem utf8Length_eq_zero_iff {cs : List Char} : utf8Length cs = 0 ↔ cs = [] := by
  constructor
  · intro none
    have few := length_le_utf8Length cs
    exact List.eq_nil_of_length_eq_zero (by omega)
  · rintro rfl
    rfl

end Lexer

/-- The span covers this slice of the text. -/
def Span.Covers (text : List Char) (span : Span) (slice : List Char) : Prop :=
  ∃ before after, text = before ++ slice ++ after ∧
    span = ⟨Lexer.utf8Length before, Lexer.utf8Length (before ++ slice)⟩

namespace Lexer

/-- The slice makes a token of this kind and with this text, if this follows it. -/
inductive Spells : TokenKind → List Char → List Char → List Char → Prop
  | string (body : List Char) {after : List Char} : after.head? ≠ some '\'' →
      Spells .string ('\'' :: body ++ ['\'']) ('\'' :: Text.double '\'' body ++ ['\'']) after
  | punctuation {c : Char} {kind : TokenKind} (after : List Char) :
      punctuation? c = some kind → Spells kind [c] [c] after
  | word {word after : List Char} : word ≠ [] → (∀ c ∈ word, isDelimiter c = false) →
      (∀ c ∈ after.head?, isDelimiter c = true) →
      Spells (wordKind (String.ofList word)) word word after

/-- A text, which begins `offset` bytes after the beginning of a longer one and has `rest`
behind it, is made of the slices of the tokens and of white space. -/
inductive Cuts (rest : List Char) : Nat → List Char → List Token → Prop
  | done (offset : Nat) : Cuts rest offset [] []
  | blank {offset : Nat} {c : Char} {front : List Char} {tokens : List Token} :
      Text.isBlank c = true → Cuts rest (offset + c.utf8Size) front tokens →
      Cuts rest offset (c :: front) tokens
  | token {offset : Nat} {slice front : List Char} {token : Token} {tokens : List Token} :
      Spells token.kind token.text.toList slice (front ++ rest) →
      token.span = ⟨offset, offset + utf8Length slice⟩ →
      Cuts rest (offset + utf8Length slice) front tokens →
      Cuts rest offset (slice ++ front) (token :: tokens)

/-- The text begins with a quote that no quote closes. -/
def Unclosed (text : List Char) : Prop :=
  ∃ inner, text = '\'' :: inner ∧
    ∀ body after, inner = Text.double '\'' body ++ '\'' :: after → after.head? = some '\''

/-- A slice has at least one character. -/
theorem Spells.slice_ne_nil {kind : TokenKind} {text slice after : List Char}
    (spells : Spells kind text slice after) : slice ≠ [] := by
  cases spells with
  | string => simp
  | punctuation => simp
  | word nonempty => exact nonempty

section Cuts

variable {offset : Nat} {front rest : List Char} {tokens : List Token}

/-- White space at the front of a text belongs to no token. -/
theorem Cuts.blanks {blanks : List Char} (blank : ∀ c ∈ blanks, Text.isBlank c = true)
    (cuts : Cuts rest (offset + utf8Length blanks) front tokens) :
    Cuts rest offset (blanks ++ front) tokens := by
  induction blanks generalizing offset with
  | nil => exact cuts
  | cons c blanks ih =>
      rw [utf8Length_cons, ← Nat.add_assoc] at cuts
      exact .blank (blank c List.mem_cons_self)
        (ih (fun d there => blank d (List.mem_cons_of_mem _ there)) cuts)

/-- A slice at the front of a text makes the first token. -/
theorem Cuts.spelled {kind : TokenKind} {text slice : List Char}
    (spells : Spells kind text slice (front ++ rest))
    (cuts : Cuts rest (offset + utf8Length slice) front tokens) :
    Cuts rest offset (slice ++ front)
      (⟨kind, String.ofList text, ⟨offset, offset + utf8Length slice⟩⟩ :: tokens) := by
  refine .token ?_ rfl cuts
  rwa [String.toList_ofList]

/-- A word ends where the text ends. -/
theorem stops_nil : ∀ c ∈ ([] : List Char).head?, isDelimiter c = true := by
  simp

/-- A word ends where something stands that ends words. -/
theorem stops_cons {c : Char} (ends : isDelimiter c = true) (rest : List Char) :
    ∀ d ∈ (c :: rest).head?, isDelimiter d = true := by
  intro d there
  obtain rfl : c = d := Option.some.inj there
  exact ends

/-- A word at the front of a text, with white space behind it, is the first token. -/
theorem Cuts.spaced (word : String) {c : Char} (nonempty : word.toList ≠ [])
    (letters : word.toList.all (!isDelimiter ·) = true) (blank : Text.isBlank c = true)
    (cuts : Cuts rest (offset + utf8Length word.toList + c.utf8Size) front tokens) :
    Cuts rest offset (word.toList ++ c :: front)
      (⟨wordKind word, word, ⟨offset, offset + utf8Length word.toList⟩⟩ :: tokens) := by
  have ends : isDelimiter c = true := by rw [isDelimiter, blank, Bool.true_or, Bool.true_or]
  have letters : ∀ d ∈ word.toList, isDelimiter d = false := by simpa using letters
  have spelled := Cuts.spelled (.word nonempty letters (stops_cons ends _)) (.blank blank cuts)
  rwa [String.ofList_toList] at spelled

/-- There are no more tokens than characters. -/
theorem Cuts.length_le (cuts : Cuts rest offset front tokens) :
    tokens.length ≤ front.length := by
  induction cuts with
  | done => exact Nat.le_refl _
  | blank _ _ ih => exact Nat.le_succ_of_le ih
  | token spells _ _ ih =>
      have nonempty := List.length_pos_iff.mpr spells.slice_ne_nil
      simp only [List.length_cons, List.length_append]
      omega

/-- Each token was made from a slice of the text, which stands at the place of its
span. -/
theorem Cuts.slice_of_mem (cuts : Cuts rest offset front tokens) :
    ∀ token ∈ tokens, ∃ before slice after, front = before ++ slice ++ after ∧
      token.span = ⟨offset + utf8Length before, offset + utf8Length (before ++ slice)⟩ ∧
      Spells token.kind token.text.toList slice (after ++ rest) := by
  induction cuts with
  | done => simp
  | @blank offset c front tokens _ _ ih =>
      intro token there
      obtain ⟨before, slice, after, rfl, place, spells⟩ := ih token there
      refine ⟨c :: before, slice, after, rfl, ?_, spells⟩
      rw [place, List.cons_append, utf8Length_cons, utf8Length_cons, Nat.add_assoc, Nat.add_assoc]
  | @token offset slice front first tokens spells place _ ih =>
      intro token there
      rcases List.mem_cons.mp there with rfl | later
      · exact ⟨[], slice, front, rfl, place, spells⟩
      · obtain ⟨before, slice', after, rfl, place', spells'⟩ := ih token later
        refine ⟨slice ++ before, slice', after, by simp, ?_, spells'⟩
        rw [place', List.append_assoc, utf8Length_append slice, utf8Length_append slice,
          Nat.add_assoc, Nat.add_assoc]

end Cuts

/-! ### Every text can be cut -/

/-- A string ends at the first quote that does not stand in a pair. Its text is its slice
with one quote for every pair, whether a copy was begun before, is begun later or is not
needed at all. -/
theorem readString_eq_some_iff {slice cs text whole after : List Char}
    {copy : Option (List Char)} :
    readString slice copy cs = some (text, whole, after) ↔
      ∃ body, cs = Text.double '\'' body ++ '\'' :: after ∧ after.head? ≠ some '\'' ∧
        text = (copy.getD slice).reverse ++ body ++ ['\''] ∧
        whole = slice.reverse ++ Text.double '\'' body ++ ['\''] := by
  constructor
  · intro read
    fun_induction readString slice copy cs with
    | case1 => cases read
    | case2 slice copy cs ih =>
        obtain ⟨body, rfl, closed, rfl, rfl⟩ := ih read
        exact ⟨'\'' :: body, by simp [Text.double_cons], closed, by simp,
          by simp [Text.double_cons]⟩
    | case3 slice copy cs single =>
        cases read
        refine ⟨[], by simp [Text.double], fun again => ?_, by simp, by simp [Text.double]⟩
        obtain ⟨later, rfl⟩ := List.head?_eq_some_iff.mp again
        exact single later rfl
    | case4 slice copy c cs _ other ih =>
        have notQuote : c ≠ '\'' := other
        obtain ⟨body, rfl, closed, rfl, rfl⟩ := ih read
        refine ⟨c :: body, by simp [Text.double_cons, notQuote], closed, ?_,
          by simp [Text.double_cons, notQuote]⟩
        cases copy <;> simp
  · rintro ⟨body, rfl, closed, rfl, rfl⟩
    induction body generalizing slice copy with
    | nil =>
        cases after with
        | nil => simp [readString, Text.double]
        | cons c after =>
            have notQuote : c ≠ '\'' := by simpa using closed
            simp [readString, Text.double, notQuote]
    | cons c body ih =>
        by_cases quote : c = '\''
        · subst quote
          have step := @ih ('\'' :: '\'' :: slice) (some ('\'' :: copy.getD slice))
          simpa [Text.double_cons, readString] using step
        · have step := @ih (c :: slice) (copy.map (c :: ·))
          cases copy <;> simpa [Text.double_cons, readString, quote] using step

/-- A quote is not closed exactly if reading on from it does not come to an end. -/
theorem unclosed_cons_iff {inner : List Char} :
    Unclosed ('\'' :: inner) ↔ readString ['\''] none inner = none := by
  constructor
  · rintro ⟨_, same, never⟩
    obtain rfl := (List.cons.inj same).2
    cases outcome : readString ['\''] none inner with
    | none => rfl
    | some parts =>
        obtain ⟨body, written, stops, -, -⟩ := readString_eq_some_iff.mp outcome
        exact absurd (never body _ written) stops
  · intro endless
    refine ⟨inner, rfl, fun body after written => Classical.byContradiction fun stops => ?_⟩
    rw [readString_eq_some_iff.mpr ⟨body, written, stops, rfl, rfl⟩] at endless
    cases endless

/-- Where no white space stands there is a token, or a string that is not closed. -/
theorem spells_or_unclosed {c : Char} (visible : Text.isBlank c = false) (cs : List Char) :
    (∃ kind text slice after, c :: cs = slice ++ after ∧ Spells kind text slice after) ∨
      Unclosed (c :: cs) := by
  by_cases quote : c = '\''
  · subst quote
    cases outcome : readString ['\''] none cs with
    | none => exact .inr (unclosed_cons_iff.mpr outcome)
    | some parts =>
        obtain ⟨body, rfl, stops, -, -⟩ := readString_eq_some_iff.mp outcome
        exact .inl ⟨_, _, _, _, by simp, .string body stops⟩
  left
  cases mark : punctuation? c with
  | some kind => exact ⟨kind, [c], [c], cs, rfl, .punctuation cs mark⟩
  | none =>
      have letters : ∀ d ∈ c :: cs.takeWhile (!isDelimiter ·), isDelimiter d = false := by
        intro d there
        rcases List.mem_cons.mp there with rfl | later
        · simp [isDelimiter, visible, quote, mark]
        · simpa using List.mem_takeWhile_imp later
      have stops : ∀ d ∈ (cs.dropWhile (!isDelimiter ·)).head?, isDelimiter d = true := by
        intro d there
        have stopped := List.head?_dropWhile_not (!isDelimiter ·) cs
        rw [Option.mem_def.mp there] at stopped
        simpa using stopped
      exact ⟨_, _, c :: cs.takeWhile (!isDelimiter ·), cs.dropWhile (!isDelimiter ·), by simp,
        .word (List.cons_ne_nil _ _) letters stops⟩

/-- Every text can be cut into tokens, up to its end or up to a string that is not
closed. -/
theorem exists_cuts (cs : List Char) (offset : Nat) :
    ∃ front rest tokens, cs = front ++ rest ∧ (rest = [] ∨ Unclosed rest) ∧
      Cuts rest offset front tokens := by
  induction size : cs.length using Nat.strongRecOn generalizing cs offset with
  | ind length ih =>
      cases cs with
      | nil => exact ⟨[], [], [], rfl, .inl rfl, .done offset⟩
      | cons c cs =>
          cases visible : Text.isBlank c with
          | true =>
              have shorter : cs.length < length := by rw [← size]; exact Nat.lt_succ_self _
              obtain ⟨front, rest, tokens, rfl, ends, cuts⟩ := ih _ shorter cs _ rfl
              exact ⟨c :: front, rest, tokens, rfl, ends, .blank visible cuts⟩
          | false =>
              rcases spells_or_unclosed visible cs with
                ⟨kind, text, slice, after, same, spells⟩ | unclosed
              · have shorter : after.length < length := by
                  have nonempty := List.length_pos_iff.mpr spells.slice_ne_nil
                  rw [← size, same, List.length_append]
                  omega
                obtain ⟨front, rest, tokens, rfl, ends, cuts⟩ :=
                  ih _ shorter after (offset + utf8Length slice) rfl
                exact ⟨slice ++ front, rest, _, by rw [same, List.append_assoc], ends,
                  .spelled spells cuts⟩
              · exact ⟨[], c :: cs, [], rfl, .inr unclosed, .done offset⟩

/-! ### What the lexer answers where a text is cut -/

/-- White space at the front does not matter for the next token, apart from its place. -/
theorem next_of_isBlank {c : Char} (blank : Text.isBlank c = true) (rest : List Char)
    (offset : Nat) :
    (Lexer.mk (c :: rest) offset).next = (Lexer.mk rest (offset + c.utf8Size)).next := by
  have skipped : (Lexer.mk (c :: rest) offset).skipBlank =
      (Lexer.mk rest (offset + c.utf8Size)).skipBlank := by
    simp only [skipBlank, List.dropWhile_cons_of_pos blank, List.takeWhile_cons_of_pos blank,
      utf8Length_cons, Nat.add_assoc]
  rw [next, next, skipped]

/-- Where a token begins that is not blank, no white space is skipped. -/
theorem next_eq_nextVisible {c : Char} (visible : Text.isBlank c = false) (rest : List Char)
    (offset : Nat) :
    (Lexer.mk (c :: rest) offset).next = (Lexer.mk (c :: rest) offset).nextVisible := by
  simp [next, skipBlank, visible]

/-- A word is cut off where a character follows that ends words. -/
theorem next_word {word after : List Char} (nonempty : word ≠ [])
    (letters : ∀ c ∈ word, isDelimiter c = false)
    (stops : ∀ c ∈ after.head?, isDelimiter c = true) (offset : Nat) :
    (Lexer.mk (word ++ after) offset).next =
      (Lexer.mk (word ++ after) offset).emit (wordKind (String.ofList word)) word word after := by
  obtain ⟨c, more, rfl⟩ := List.exists_cons_of_ne_nil nonempty
  obtain ⟨⟨visible, notMark⟩, notQuote⟩ :
      (Text.isBlank c = false ∧ punctuation? c = none) ∧ c ≠ '\'' := by
    simpa [isDelimiter] using letters c List.mem_cons_self
  have inside : ∀ d ∈ more, (!isDelimiter d) = true := by
    intro d there
    rw [letters d (List.mem_cons_of_mem _ there)]
    rfl
  have outside :
      after.takeWhile (!isDelimiter ·) = [] ∧ after.dropWhile (!isDelimiter ·) = after := by
    cases after with
    | nil => exact ⟨rfl, rfl⟩
    | cons d after => simp [stops d rfl]
  rw [List.cons_append, next_eq_nextVisible visible]
  simp only [nextVisible, notMark]
  rw [List.takeWhile_append_of_pos inside, List.dropWhile_append_of_pos inside, outside.1,
    outside.2, List.append_nil]

/-- A string is cut off at its closing quote. -/
theorem next_string (body : List Char) {after : List Char} (stops : after.head? ≠ some '\'')
    (offset : Nat) :
    (Lexer.mk (('\'' :: Text.double '\'' body ++ ['\'']) ++ after) offset).next =
      (Lexer.mk (('\'' :: Text.double '\'' body ++ ['\'']) ++ after) offset).emit .string
        ('\'' :: body ++ ['\'']) ('\'' :: Text.double '\'' body ++ ['\'']) after := by
  have read : readString ['\''] none (Text.double '\'' body ++ ['\''] ++ after) =
      some ('\'' :: body ++ ['\''], '\'' :: Text.double '\'' body ++ ['\''], after) :=
    readString_eq_some_iff.mpr ⟨body, by simp, stops, by simp, by simp⟩
  rw [List.cons_append, List.cons_append, next_eq_nextVisible (by decide)]
  simp only [nextVisible, read, List.cons_append]

/-- A punctuation mark is a token of its own. -/
theorem next_punctuation {c : Char} {kind : TokenKind} (mark : punctuation? c = some kind)
    (after : List Char) (offset : Nat) :
    (Lexer.mk (c :: after) offset).next =
      (Lexer.mk (c :: after) offset).emit kind [c] [c] after := by
  unfold punctuation? at mark
  split at mark <;> cases mark <;> exact next_eq_nextVisible (by decide) after offset

/-- Where a slice stands that makes a token, the token is the next one, and the lexer
stands behind the slice. -/
theorem Spells.next {token : Token} {slice after : List Char} {offset : Nat}
    (spells : Spells token.kind token.text.toList slice after)
    (place : token.span = ⟨offset, offset + utf8Length slice⟩) :
    (Lexer.mk (slice ++ after) offset).next =
      (some (.ok token), ⟨after, offset + utf8Length slice⟩) := by
  have emitted : (Lexer.mk (slice ++ after) offset).emit token.kind token.text.toList slice after =
      (some (.ok token), ⟨after, offset + utf8Length slice⟩) := by
    rw [emit, String.ofList_toList, ← place]
  rw [← emitted]
  generalize token.kind = kind, token.text.toList = text at spells
  cases spells with
  | string body stops => exact next_string body stops offset
  | punctuation _ mark => exact next_punctuation mark after offset
  | word nonempty letters stops => exact next_word nonempty letters stops offset

/-- A string that is not closed is reported from its opening quote to the end of the text,
where the lexer is left. -/
theorem Unclosed.next {rest : List Char} (unclosed : Unclosed rest) (offset : Nat) :
    (Lexer.mk rest offset).next =
      (some (.error ⟨⟨offset, offset + utf8Length rest⟩⟩), ⟨[], offset + utf8Length rest⟩) := by
  obtain ⟨inner, rfl, never⟩ := unclosed
  have read := unclosed_cons_iff.mp ⟨inner, rfl, never⟩
  rw [next_eq_nextVisible (by decide)]
  simp only [nextVisible, read]

/-- The tokens from a place on, the first of them set apart. -/
theorem tokensFrom_of_next {lexer after : Lexer} {token : Token}
    (found : lexer.next = (some (.ok token), after)) (done : List Token) :
    lexer.tokensFrom done = after.tokensFrom (token :: done) := by
  rw [tokensFrom]
  split
  · next none => rw [found] at none; cases none
  · next error => rw [found] at error; cases error
  · next same =>
      rw [found] at same
      cases same
      rfl

/-- The tokens of a text that is cut come before what is found behind it. -/
theorem Cuts.tokensFrom {offset : Nat} {front rest : List Char} {tokens : List Token}
    (cuts : Cuts rest offset front tokens) (done : List Token) :
    (Lexer.mk (front ++ rest) offset).tokensFrom done =
      (Lexer.mk rest (offset + utf8Length front)).tokensFrom (tokens.reverse ++ done) := by
  induction cuts generalizing done with
  | done => rfl
  | @blank offset c front tokens blank _ ih =>
      have skipped : (Lexer.mk (c :: (front ++ rest)) offset).tokensFrom done =
          (Lexer.mk (front ++ rest) (offset + c.utf8Size)).tokensFrom done := by
        rw [Lexer.tokensFrom, Lexer.tokensFrom, next_of_isBlank blank]
      rw [List.cons_append, skipped, ih, utf8Length_cons, Nat.add_assoc]
  | token spells place _ ih =>
      rw [List.append_assoc, tokensFrom_of_next (spells.next place), ih, utf8Length_append,
        Nat.add_assoc, List.reverse_cons, List.append_assoc, List.singleton_append]

/-- A text that is cut to its end has the tokens of the cut. -/
theorem Cuts.tokenize {text : String} {tokens : List Token}
    (cuts : Cuts [] 0 text.toList tokens) : tokenize text = .ok tokens := by
  have found := cuts.tokensFrom []
  have nothing (offset : Nat) (done : List Token) :
      (Lexer.mk [] offset).tokensFrom done = .ok done.reverse := by
    rw [Lexer.tokensFrom]
    rfl
  rw [List.append_nil, nothing, List.append_nil, List.reverse_reverse] at found
  exact found

/-- A text that can be cut up to a string that is not closed has no tokens. -/
theorem Unclosed.tokenize {text : String} {front rest : List Char} {tokens : List Token}
    (unclosed : Unclosed rest) (same : text.toList = front ++ rest)
    (cuts : Cuts rest 0 front tokens) :
    tokenize text = .error ⟨⟨utf8Length front, utf8Length text.toList⟩⟩ := by
  have refused (offset : Nat) (done : List Token) : (Lexer.mk rest offset).tokensFrom done =
      .error ⟨⟨offset, offset + utf8Length rest⟩⟩ := by
    rw [Lexer.tokensFrom, unclosed.next offset]
  rw [WhereClause.tokenize, ofText, same, cuts.tokensFrom, refused, utf8Length_append,
    Nat.zero_add]

/-- The tokens of a text are the ones that it can be cut into. -/
theorem tokenize_eq_ok_iff_cuts {text : String} {tokens : List Token} :
    tokenize text = .ok tokens ↔ Cuts [] 0 text.toList tokens := by
  refine ⟨fun cut => ?_, Cuts.tokenize⟩
  obtain ⟨front, rest, found, same, rfl | unclosed, cuts⟩ := exists_cuts text.toList 0
  · rw [List.append_nil] at same
    rw [← same] at cuts
    obtain rfl := Except.ok.inj (cuts.tokenize.symm.trans cut)
    exact cuts
  · rw [unclosed.tokenize same cuts] at cut
    cases cut

/-- The span of each token of a text covers the slice that it was made from. -/
theorem covers_of_tokenize {text : String} {tokens : List Token}
    (cut : tokenize text = .ok tokens) :
    ∀ token ∈ tokens, ∃ slice after, token.span.Covers text.toList slice ∧
      Spells token.kind token.text.toList slice after := by
  intro token there
  obtain ⟨before, slice, after, same, place, spells⟩ :=
    (tokenize_eq_ok_iff_cuts.mp cut).slice_of_mem token there
  rw [Nat.zero_add, Nat.zero_add] at place
  exact ⟨slice, _, ⟨before, after, same, place⟩, spells⟩

/-! ### Tokens that may be values -/

/-- The keyword that a word spells is one of the list. -/
theorem mem_keywords_of_keyword? {word : String} {kind : TokenKind}
    (keyword : TokenKind.keyword? word = some kind) :
    (String.ofList (word.toList.map Char.toLower), kind) ∈ TokenKind.keywords := by
  obtain ⟨before, after, listed, -⟩ := List.lookup_eq_some_iff.mp keyword
  simp [listed]

/-- No keyword may stand where a value is expected. -/
theorem isValue_of_keyword? {word : String} {kind : TokenKind}
    (keyword : TokenKind.keyword? word = some kind) : kind.isValue = false := by
  have none : ∀ entry ∈ TokenKind.keywords, entry.2.isValue = false := by decide
  exact none _ (mem_keywords_of_keyword? keyword)

/-- A word that is a value is none of the keywords. -/
theorem keyword?_eq_none_of_isValue {word : String}
    (value : (wordKind word).isValue = true) : TokenKind.keyword? word = none := by
  cases keyword : TokenKind.keyword? word with
  | none => rfl
  | some kind =>
      rw [wordKind, keyword, isValue_of_keyword? keyword] at value
      cases value

/-- What may stand where a value is expected is a quoted string or a word that is no
keyword, and a word is copied. -/
theorem Spells.of_isValue {kind : TokenKind} {text slice after : List Char}
    (spells : Spells kind text slice after) (value : kind.isValue = true) :
    (kind = .string ∧ ∃ body, text = '\'' :: body ++ ['\''] ∧
      slice = '\'' :: Text.double '\'' body ++ ['\'']) ∨
    (kind ≠ .string ∧ slice = text ∧ (∀ c ∈ text, isDelimiter c = false) ∧
      kind = wordKind (String.ofList text) ∧ TokenKind.keyword? (String.ofList text) = none) := by
  cases spells with
  | string body _ => exact .inl ⟨rfl, body, rfl, rfl⟩
  | punctuation _ mark =>
      unfold punctuation? at mark
      split at mark <;> cases mark <;> cases value
  | word _ letters _ =>
      have notKeyword := keyword?_eq_none_of_isValue value
      refine .inr ⟨?_, rfl, letters, rfl, notKeyword⟩
      simp only [wordKind, notKeyword]
      split <;> exact TokenKind.noConfusion

/-- An identifier of a text is a word, and none of the keywords. -/
theorem word_of_identifier {text : String} {tokens : List Token} {token : Token}
    (cut : tokenize text = .ok tokens) (there : token ∈ tokens)
    (identifies : token.kind = .identifier) :
    (∀ c ∈ token.text.toList, isDelimiter c = false) ∧ TokenKind.keyword? token.text = none := by
  obtain ⟨slice, after, -, spells⟩ := covers_of_tokenize cut token there
  have isValue : token.kind.isValue = true := by rw [identifies]; rfl
  rcases spells.of_isValue isValue with ⟨isString, -⟩ | ⟨-, -, letters, -, notKeyword⟩
  · rw [identifies] at isString
    cases isString
  · rw [String.ofList_toList] at notKeyword
    exact ⟨letters, notKeyword⟩

/-- A token whose text could be a word is one. -/
theorem kind_eq_wordKind_of_tokenize {text : String} {tokens : List Token} {token : Token}
    (cut : tokenize text = .ok tokens) (there : token ∈ tokens)
    (letters : ∀ c ∈ token.text.toList, isDelimiter c = false) :
    token.kind = wordKind token.text := by
  obtain ⟨slice, after, -, spells⟩ := covers_of_tokenize cut token there
  rw [← String.ofList_toList (s := token.text)]
  generalize token.kind = kind, token.text.toList = chars at spells letters
  cases spells with
  | string body _ =>
      have quote := letters '\'' (by simp)
      cases quote
  | punctuation _ mark =>
      have letter := letters _ (List.mem_singleton_self _)
      simp [isDelimiter, mark] at letter
  | word => rfl

/-- Without text there are no tokens. -/
theorem tokenize_empty : tokenize "" = .ok [] := by
  have done : Cuts [] 0 "".toList [] := .done 0
  exact done.tokenize

/-- A text without white space, punctuation and quotes is a single token. -/
theorem tokenize_word {word : String} (nonempty : word.toList ≠ [])
    (letters : ∀ c ∈ word.toList, isDelimiter c = false) :
    tokenize word = .ok [⟨wordKind word, word, ⟨0, utf8Length word.toList⟩⟩] := by
  have spells : Spells _ word.toList word.toList [] := .word nonempty letters stops_nil
  have cuts : Cuts [] 0 _ _ := .spelled spells (.done _)
  rw [String.ofList_toList, List.append_nil, Nat.zero_add] at cuts
  exact cuts.tokenize

end Lexer

end WhereClause
