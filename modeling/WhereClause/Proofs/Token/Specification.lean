/-
# What the tokens of a text are

The tokens of a text are described by where they stand and by what stands there. Their
spans follow one another and are not empty. Each of them covers a word, a punctuation
mark or a quoted string, which ends where something follows that ends it. Whatever is
in no span is white space. Nothing in this mentions how the tokens are found, and yet no
two lists of tokens answer to the description for the same text.

A text with a string that is not closed has no tokens. The lexer, asked again and again,
gives those in front of the string all the same, then reports the string, and then is at
the end. So the description is given for the front of a text.
-/

import WhereClause.Proofs.Text.Lowercase
import WhereClause.Proofs.Token.Lexer

namespace WhereClause

namespace Lexer

/-- The characters that end a word. -/
def Delimits (c : Char) : Prop :=
  Text.isBlank c = true ∨ c ∈ ['(', ')', ',', '\'']

/-- The word is the keyword, the case of ASCII letters aside. -/
def IsKeyword (word : String) (keyword : String) : Prop :=
  word.toList.map Char.toLower = keyword.toList

/-- The ten keywords, in lowercase, and what they are. -/
inductive KeywordKind : String → TokenKind → Prop
  | membership : KeywordKind "in" .membership
  | negation : KeywordKind "not" .negation
  | and : KeywordKind "and" (.connective .and)
  | or : KeywordKind "or" (.connective .or)
  | equal : KeywordKind "eq" (.comparison .equal)
  | unequal : KeywordKind "ne" (.comparison .unequal)
  | greater : KeywordKind "gt" (.comparison .greater)
  | atLeast : KeywordKind "ge" (.comparison .atLeast)
  | less : KeywordKind "lt" (.comparison .less)
  | atMost : KeywordKind "le" (.comparison .atMost)

/-- What a word is: one of the keywords, or else a number, or else an identifier. -/
inductive WordKind (word : String) : TokenKind → Prop
  | keyword {keyword : String} {kind : TokenKind} :
      KeywordKind keyword kind → IsKeyword word keyword → WordKind word kind
  | number : (∀ keyword kind, KeywordKind keyword kind → ¬ IsKeyword word keyword) →
      isNumber word = true → WordKind word .number
  | identifier : (∀ keyword kind, KeywordKind keyword kind → ¬ IsKeyword word keyword) →
      isNumber word = false → WordKind word .identifier

end Lexer

/-- The place lies in the span. -/
def Span.Holds (span : Span) (place : Nat) : Prop :=
  span.start ≤ place ∧ place < span.stop

/-- The token is what the slice makes where this follows it.

A word is copied, and it ends where something follows that ends words. Punctuation marks
are copied too. A string goes from a quote to a quote that no quote follows, the quotes
between them stand in pairs, and its text has one quote for each pair. -/
inductive Token.Made (token : Token) (slice after : List Char) : Prop
  | word : slice ≠ [] → (∀ c ∈ slice, ¬ Lexer.Delimits c) →
      (∀ c ∈ after.head?, Lexer.Delimits c) → token.text.toList = slice →
      Lexer.WordKind token.text token.kind → Made token slice after
  | punctuation (c : Char) :
      (c, token.kind) ∈ [('(', TokenKind.opening), (')', .closing), (',', .comma)] →
      slice = [c] → token.text.toList = slice → Made token slice after
  | string (body : List Char) : token.kind = .string →
      slice = '\'' :: Text.double '\'' body ++ ['\''] → after.head? ≠ some '\'' →
      token.text.toList = '\'' :: body ++ ['\''] → Made token slice after

namespace Lexer

/-- The tokens are those of a text that begins `offset` bytes after the beginning of a
longer one and has `rest` behind it. -/
structure Describes (offset : Nat) (front rest : List Char) (tokens : List Token) : Prop where
  filled : ∀ token ∈ tokens, token.span.start < token.span.stop
  ordered : tokens.Pairwise fun first second => first.span.stop ≤ second.span.start
  made : ∀ token ∈ tokens, ∃ before slice after, front = before ++ slice ++ after ∧
    token.span = ⟨offset + utf8Length before, offset + utf8Length (before ++ slice)⟩ ∧
    token.Made slice (after ++ rest)
  blank : ∀ before c after, front = before ++ c :: after →
    (∀ token ∈ tokens, ¬ token.span.Holds (offset + utf8Length before)) → Text.isBlank c = true

/-! ### Slices -/

/-- The punctuation marks and their kinds. -/
theorem punctuation?_eq_some_iff {c : Char} {kind : TokenKind} :
    punctuation? c = some kind ↔
      (c, kind) ∈ [('(', TokenKind.opening), (')', .closing), (',', .comma)] := by
  unfold punctuation?
  split
  · simp [eq_comm]
  · simp [eq_comm]
  · simp [eq_comm]
  · next notOpening notClosing notComma =>
      have other : c ≠ '(' ∧ c ≠ ')' ∧ c ≠ ',' := ⟨notOpening, notClosing, notComma⟩
      simp [other]

/-- The lexer stops words where they are to end. -/
theorem isDelimiter_iff {c : Char} : isDelimiter c = true ↔ Delimits c := by
  have marks : (punctuation? c).isSome = true ↔ c = '(' ∨ c = ')' ∨ c = ',' := by
    simp [Option.isSome_iff_exists, punctuation?_eq_some_iff, exists_or]
  simp only [isDelimiter, Delimits, Bool.or_eq_true, marks, beq_iff_eq, List.mem_cons,
    List.not_mem_nil, or_false, or_assoc]

theorem isDelimiter_eq_false_iff {c : Char} : isDelimiter c = false ↔ ¬ Delimits c := by
  rw [← isDelimiter_iff, Bool.not_eq_true]

/-- The table of the lexer holds the keywords. -/
theorem mem_keywords_iff {keyword : String} {kind : TokenKind} :
    (keyword, kind) ∈ TokenKind.keywords ↔ KeywordKind keyword kind := by
  constructor
  · intro listed
    simp only [TokenKind.keywords, List.mem_cons, Prod.mk.injEq, List.not_mem_nil,
      or_false] at listed
    rcases listed with ⟨rfl, rfl⟩ | ⟨rfl, rfl⟩ | ⟨rfl, rfl⟩ | ⟨rfl, rfl⟩ | ⟨rfl, rfl⟩ |
      ⟨rfl, rfl⟩ | ⟨rfl, rfl⟩ | ⟨rfl, rfl⟩ | ⟨rfl, rfl⟩ | ⟨rfl, rfl⟩ <;> constructor
  · rintro (_ | _) <;> decide

/-- Looking a word up finds the keyword that it is. -/
theorem keyword?_eq_some_iff {word : String} {kind : TokenKind} :
    TokenKind.keyword? word = some kind ↔
      ∃ keyword, KeywordKind keyword kind ∧ IsKeyword word keyword := by
  constructor
  · intro found
    exact ⟨_, mem_keywords_iff.mp (mem_keywords_of_keyword? found), String.toList_ofList.symm⟩
  · rintro ⟨keyword, is, same⟩
    have distinct : ∀ entry ∈ TokenKind.keywords,
        TokenKind.keywords.lookup entry.1 = some entry.2 := by decide
    rw [TokenKind.keyword?, same, String.ofList_toList]
    exact distinct _ (mem_keywords_iff.mpr is)

theorem keyword?_eq_none_iff {word : String} :
    TokenKind.keyword? word = none ↔
      ∀ keyword kind, KeywordKind keyword kind → ¬ IsKeyword word keyword := by
  rw [Option.eq_none_iff_forall_ne_some]
  constructor
  · intro none keyword kind is same
    exact none kind (keyword?_eq_some_iff.mpr ⟨keyword, is, same⟩)
  · intro none kind found
    obtain ⟨keyword, is, same⟩ := keyword?_eq_some_iff.mp found
    exact none keyword kind is same

/-- The lexer takes words for what they are. -/
theorem wordKind_eq_iff {word : String} {kind : TokenKind} :
    wordKind word = kind ↔ WordKind word kind := by
  constructor
  · rintro rfl
    unfold wordKind
    split
    · next kind found =>
        obtain ⟨keyword, keywordIs, same⟩ := keyword?_eq_some_iff.mp found
        exact .keyword keywordIs same
    · next none =>
        split
        · next number => exact .number (keyword?_eq_none_iff.mp none) number
        · next other =>
            exact .identifier (keyword?_eq_none_iff.mp none) (Bool.eq_false_iff.mpr other)
  · intro is
    cases is with
    | keyword keywordIs same => rw [wordKind, keyword?_eq_some_iff.mpr ⟨_, keywordIs, same⟩]
    | number none number => rw [wordKind, keyword?_eq_none_iff.mpr none, if_pos number]
    | identifier none other =>
        rw [wordKind, keyword?_eq_none_iff.mpr none, other]
        rfl

/-- A token is made from a slice exactly if the slice spells it. -/
theorem made_iff_spells {token : Token} {slice after : List Char} :
    token.Made slice after ↔ Spells token.kind token.text.toList slice after := by
  obtain ⟨kind, text, span⟩ := token
  constructor
  · intro made
    cases made with
    | word nonempty letters stops copied is =>
        subst copied
        have spells : Spells (wordKind (String.ofList text.toList)) text.toList text.toList after :=
          .word nonempty (fun c there => isDelimiter_eq_false_iff.mpr (letters c there))
            fun c there => isDelimiter_iff.mpr (stops c there)
        rwa [String.ofList_toList, wordKind_eq_iff.mpr is] at spells
    | punctuation c mark single copied =>
        subst single
        rw [copied]
        exact .punctuation after (punctuation?_eq_some_iff.mpr mark)
    | string body isString quoted stops written =>
        subst isString quoted
        rw [written]
        exact .string body stops
  · intro spells
    generalize written : Token.text ⟨kind, text, span⟩ = text' at spells
    obtain rfl : text = text' := written
    generalize chars : text.toList = cs at spells
    cases spells with
    | string body stops => exact .string body rfl rfl stops chars
    | punctuation _ mark =>
        exact .punctuation _ (punctuation?_eq_some_iff.mp mark) rfl chars
    | word nonempty letters stops =>
        rw [← chars, String.ofList_toList]
        exact .word (chars ▸ nonempty)
          (fun c there => isDelimiter_eq_false_iff.mp (letters c (chars ▸ there)))
          (fun c there => isDelimiter_iff.mp (stops c there)) rfl (wordKind_eq_iff.mp rfl)

/-! ### Descriptions and cuts -/

/-- Of two beginnings of a text the shorter one is the beginning of the other. -/
theorem exists_between {before before' after after' : List Char}
    (same : before ++ after = before' ++ after')
    (shorter : utf8Length before ≤ utf8Length before') :
    ∃ between, before' = before ++ between ∧ after = between ++ after' := by
  rcases List.append_eq_append_iff.mp same with found | ⟨between, rfl, rfl⟩
  · exact found
  · rw [utf8Length_append] at shorter
    have short := length_le_utf8Length between
    have none : between = [] := List.eq_nil_of_length_eq_zero (by omega)
    subst none
    exact ⟨[], by simp, rfl⟩

section Cuts

variable {offset : Nat} {front rest : List Char} {tokens : List Token}

/-- The tokens that a text is cut into stand behind each other. -/
theorem Cuts.ordered (cuts : Cuts rest offset front tokens) :
    tokens.Pairwise fun first second => first.span.stop ≤ second.span.start := by
  induction cuts with
  | done => exact .nil
  | blank _ _ ih => exact ih
  | token _ place cuts ih =>
      refine .cons (fun token there => ?_) ih
      obtain ⟨before, slice, after, -, place', -⟩ := cuts.slice_of_mem token there
      rw [place, place']
      exact Nat.le_add_right _ _

/-- What belongs to none of the tokens is white space. -/
theorem Cuts.isBlank_of_outside (cuts : Cuts rest offset front tokens)
    {before after : List Char} {c : Char} (here : front = before ++ c :: after)
    (outside : ∀ token ∈ tokens, ¬ token.span.Holds (offset + utf8Length before)) :
    Text.isBlank c = true := by
  induction cuts generalizing before with
  | done => simp at here
  | @blank offset d front tokens blank _ ih =>
      cases before with
      | nil =>
          obtain rfl := (List.cons.inj here).1
          exact blank
      | cons d before =>
          obtain ⟨rfl, later⟩ := List.cons.inj here
          refine ih later fun token there => ?_
          have beyond := outside token there
          rwa [utf8Length_cons, ← Nat.add_assoc] at beyond
  | @token offset slice front first tokens _ place _ ih =>
      -- the character stands behind the slice of the first token
      have behind : utf8Length slice ≤ utf8Length before := by
        refine Nat.le_of_not_lt fun within => outside first List.mem_cons_self ?_
        rw [Span.Holds, place]
        exact ⟨Nat.le_add_right _ _, Nat.add_lt_add_left within offset⟩
      obtain ⟨between, rfl, later⟩ := exists_between here behind
      refine ih later fun token there => ?_
      have beyond := outside token (List.mem_cons_of_mem _ there)
      rwa [utf8Length_append, ← Nat.add_assoc] at beyond

/-- What a text is cut into describes it. -/
theorem Cuts.describes (cuts : Cuts rest offset front tokens) :
    Describes offset front rest tokens := by
  have placed := cuts.slice_of_mem
  refine ⟨fun token there => ?_, cuts.ordered, fun token there => ?_, fun _ _ _ =>
    cuts.isBlank_of_outside⟩
  · obtain ⟨before, slice, after, -, place, spells⟩ := placed token there
    have nonempty := List.length_pos_iff.mpr spells.slice_ne_nil
    have short := length_le_utf8Length slice
    rw [place, utf8Length_append]
    show offset + utf8Length before < offset + (utf8Length before + utf8Length slice)
    omega
  · obtain ⟨before, slice, after, same, place, spells⟩ := placed token there
    exact ⟨before, slice, after, same, place, made_iff_spells.mpr spells⟩

/-- In front of the first token there is only white space. -/
theorem Describes.blank_before {first : Token} {before after : List Char}
    (describes : Describes offset (before ++ after) rest (first :: tokens))
    (start : first.span.start = offset + utf8Length before) :
    ∀ c ∈ before, Text.isBlank c = true := by
  intro c there
  obtain ⟨earlier, later, rfl⟩ := List.append_of_mem there
  refine describes.blank earlier c (later ++ after) (by simp) fun token there => ?_
  rintro ⟨reached, -⟩
  -- no token begins in front of the first
  have begins : first.span.start ≤ token.span.start := by
    rcases List.mem_cons.mp there with rfl | further
    · exact Nat.le_refl _
    · have filled := describes.filled first List.mem_cons_self
      have ordered := (List.pairwise_cons.mp describes.ordered).1 token further
      omega
  have positive := c.utf8Size_pos
  rw [utf8Length_append, utf8Length_cons] at start
  omega

/-- Behind the first token the text is described by the others. -/
theorem Describes.behind {first : Token} {before after : List Char}
    (describes : Describes offset (before ++ after) rest (first :: tokens))
    (stop : first.span.stop = offset + utf8Length before) :
    Describes (offset + utf8Length before) after rest tokens := by
  obtain ⟨follows, ordered⟩ := List.pairwise_cons.mp describes.ordered
  refine ⟨fun token there => describes.filled token (List.mem_cons_of_mem _ there), ordered,
    fun token there => ?_, fun earlier c later here outside => ?_⟩
  · obtain ⟨earlier, slice, later, same, place, made⟩ :=
      describes.made token (List.mem_cons_of_mem _ there)
    have begins := follows token there
    rw [place, stop] at begins
    rw [List.append_assoc] at same
    obtain ⟨between, rfl, further⟩ := exists_between same (by simpa using begins)
    refine ⟨between, slice, later, by rw [further, List.append_assoc], ?_, made⟩
    simp only [place, utf8Length_append, Nat.add_assoc]
  · refine describes.blank (before ++ earlier) c later (by rw [here, List.append_assoc]) ?_
    rw [utf8Length_append, ← Nat.add_assoc]
    refine List.forall_mem_cons.mpr ⟨?_, outside⟩
    rintro ⟨-, reached⟩
    omega

/-- A text can be cut into what describes it. -/
theorem Describes.cuts (describes : Describes offset front rest tokens) :
    Cuts rest offset front tokens := by
  induction tokens generalizing offset front with
  | nil =>
      have blank : ∀ c ∈ front, Text.isBlank c = true := by
        intro c there
        obtain ⟨before, after, same⟩ := List.append_of_mem there
        exact describes.blank before c after same (by simp)
      have cuts : Cuts rest offset (front ++ []) [] := .blanks blank (.done _)
      rwa [List.append_nil] at cuts
  | cons first tokens ih =>
      obtain ⟨before, slice, after, rfl, place, made⟩ := describes.made first List.mem_cons_self
      have later := ih (describes.behind (by rw [place]))
      rw [List.append_assoc] at describes ⊢
      have blank := describes.blank_before (by rw [place])
      refine .blanks blank (.token (made_iff_spells.mp made) ?_ ?_)
      · rw [place, utf8Length_append, Nat.add_assoc]
      · rwa [utf8Length_append, ← Nat.add_assoc] at later

/-- The tokens that describe a text are the ones that it can be cut into. -/
theorem describes_iff_cuts :
    Describes offset front rest tokens ↔ Cuts rest offset front tokens :=
  ⟨Describes.cuts, Cuts.describes⟩

end Cuts

/-! ### A lexer that is asked again and again -/

/-- What a lexer answers after it has answered a number of times. -/
def answer (lexer : Lexer) : Nat → Option (Except UnclosedString Token)
  | 0 => lexer.next.1
  | count + 1 => lexer.next.2.answer count

/-- White space at the front does not matter for any of the answers. -/
theorem answer_of_isBlank {c : Char} (blank : Text.isBlank c = true) (rest : List Char)
    (offset count : Nat) :
    (Lexer.mk (c :: rest) offset).answer count =
      (Lexer.mk rest (offset + c.utf8Size)).answer count := by
  cases count with
  | zero => rw [answer, answer, next_of_isBlank blank]
  | succ count => rw [answer, answer, next_of_isBlank blank]

/-- A lexer at the end stays there. -/
theorem answer_nil (offset count : Nat) : (Lexer.mk [] offset).answer count = none := by
  induction count with
  | zero => rfl
  | succ count ih => exact ih

/-- A string that is not closed is reported once. -/
theorem Unclosed.answer {rest : List Char} (unclosed : Unclosed rest) (offset count : Nat) :
    (Lexer.mk rest offset).answer count =
      [Except.error (UnclosedString.mk ⟨offset, offset + utf8Length rest⟩)][count]? := by
  cases count with
  | zero => rw [Lexer.answer, unclosed.next offset]; rfl
  | succ count => rw [Lexer.answer, unclosed.next offset, answer_nil]; rfl

/-- The answers in a text that is cut are its tokens, one after the other, and then what is
answered behind it. -/
theorem Cuts.answer {offset : Nat} {front rest : List Char} {tokens : List Token}
    (cuts : Cuts rest offset front tokens) {last : List (Except UnclosedString Token)}
    (ends : ∀ count,
      (Lexer.mk rest (offset + utf8Length front)).answer count = last[count]?) (count : Nat) :
    (Lexer.mk (front ++ rest) offset).answer count =
      (tokens.map Except.ok ++ last)[count]? := by
  induction cuts generalizing count with
  | done => exact ends count
  | @blank offset c front tokens blank _ ih =>
      rw [utf8Length_cons, ← Nat.add_assoc] at ends
      rw [List.cons_append, answer_of_isBlank blank, ih ends]
  | @token offset slice front token tokens spells place _ ih =>
      rw [utf8Length_append, ← Nat.add_assoc] at ends
      have next := spells.next place
      rw [List.append_assoc]
      cases count with
      | zero => rw [Lexer.answer, next]; rfl
      | succ count =>
          rw [Lexer.answer, next, List.map_cons, List.cons_append, List.getElem?_cons_succ]
          exact ih ends count

/-- What the tokens of a text are, and when it has none.

The tokens of a text are the only ones that describe it. A text has none exactly if there
is a string in it that is not closed behind a front which some tokens describe; the error
tells from where to where the string is. And a lexer, however often it is asked, answers
with the tokens that describe the text, or its front and then the error, one at a time,
and with nothing from then on. -/
theorem tokenize_specification (text : String) :
    (∀ tokens, tokenize text = .ok tokens ↔ Describes 0 text.toList [] tokens) ∧
    (∀ error, tokenize text = .error error ↔
      ∃ front rest tokens, text.toList = front ++ rest ∧ Unclosed rest ∧
        Describes 0 front rest tokens ∧
        error = ⟨⟨utf8Length front, utf8Length text.toList⟩⟩) ∧
    (∀ tokens, Describes 0 text.toList [] tokens →
      ∀ count, (ofText text).answer count = (tokens.map Except.ok)[count]?) ∧
    ∀ front rest tokens, text.toList = front ++ rest → Unclosed rest →
      Describes 0 front rest tokens →
        ∀ count, (ofText text).answer count =
          (tokens.map Except.ok ++
            [Except.error ⟨⟨utf8Length front, utf8Length text.toList⟩⟩])[count]? := by
  simp only [describes_iff_cuts]
  refine ⟨fun tokens => tokenize_eq_ok_iff_cuts, fun error => ⟨fun failed => ?_, ?_⟩, ?_, ?_⟩
  · obtain ⟨front, rest, tokens, same, rfl | unclosed, cuts⟩ := exists_cuts text.toList 0
    · rw [List.append_nil] at same
      rw [← same] at cuts
      rw [cuts.tokenize] at failed
      cases failed
    · rw [unclosed.tokenize same cuts] at failed
      exact ⟨front, rest, tokens, same, unclosed, cuts, (Except.error.inj failed).symm⟩
  · rintro ⟨front, rest, tokens, same, unclosed, cuts, rfl⟩
    exact unclosed.tokenize same cuts
  · intro tokens cuts count
    have nothing (count : Nat) : (Lexer.mk [] (0 + utf8Length text.toList)).answer count =
        ([] : List (Except UnclosedString Token))[count]? := answer_nil _ count
    simpa [ofText] using cuts.answer nothing count
  · intro front rest tokens same unclosed cuts count
    have answers := cuts.answer (unclosed.answer _) count
    rw [ofText, same, answers, Nat.zero_add, utf8Length_append]

/-- A string may stand right behind a word, and quotes in it are read as they are meant; and
where a string is not closed, the word in front of it is found before that is reported. -/
theorem tokenize_specification_quoted :
    (tokenize "eq'it''s'" =
        .ok [⟨.comparison .equal, "eq", ⟨0, 2⟩⟩, ⟨.string, "'it's'", ⟨2, 9⟩⟩] ∧
      Describes 0 "eq'it''s'".toList []
        [⟨.comparison .equal, "eq", ⟨0, 2⟩⟩, ⟨.string, "'it's'", ⟨2, 9⟩⟩]) ∧
    tokenize "eq 'it''s" = .error ⟨⟨3, 9⟩⟩ ∧
    (ofText "eq 'it''s").answer 0 = some (.ok ⟨.comparison .equal, "eq", ⟨0, 2⟩⟩) ∧
    (ofText "eq 'it''s").answer 1 = some (.error ⟨⟨3, 9⟩⟩) ∧
    (ofText "eq 'it''s").answer 2 = none := by
  have stops (after : List Char) : ∀ c ∈ ('\'' :: after).head?, isDelimiter c = true := by
    intro c there
    obtain rfl := Option.some.inj there
    rfl
  have word : Spells (wordKind (String.ofList ['e', 'q'])) ['e', 'q'] ['e', 'q'] "'it''s'".toList :=
    .word (List.cons_ne_nil _ _) (Text.forall_mem_of_all rfl) (stops _)
  have string : Spells .string "'it's'".toList "'it''s'".toList [] :=
    .string "it's".toList (by decide)
  have closed : Cuts [] 0 "eq'it''s'".toList
      [⟨.comparison .equal, "eq", ⟨0, 2⟩⟩, ⟨.string, "'it's'", ⟨2, 9⟩⟩] :=
    .spelled word (.spelled string (.done _))
  have unclosed : Unclosed "'it''s".toList := unclosed_cons_iff.mpr rfl
  have cut : Cuts "'it''s".toList 0 "eq ".toList [⟨.comparison .equal, "eq", ⟨0, 2⟩⟩] :=
    .spaced "eq" (by decide) rfl rfl (.done _)
  have described := closed.describes
  have found := (tokenize_specification "eq'it''s'").1 _ |>.mpr described
  have answers := (tokenize_specification "eq 'it''s").2.2.2 "eq ".toList "'it''s".toList _ rfl
    unclosed cut.describes
  have failed := (tokenize_specification "eq 'it''s").2.1 _ |>.mpr
    ⟨"eq ".toList, "'it''s".toList, _, rfl, unclosed, cut.describes, rfl⟩
  exact ⟨⟨found, described⟩, failed, answers 0, answers 1, answers 2⟩

end Lexer

end WhereClause
