/-
# From text to tokens

The lexer reads a filter from left to right, one token at a time. White space
separates tokens and is dropped; a parenthesis, a comma or a quote also ends a
word. Between quotes everything belongs to the string, a pair of quotes standing
for one quote.

The only failure is a string that is not closed. It takes the rest of the text
with it: a lexer that has reported one is at the end.
-/

import WhereClause.Numeral
import WhereClause.Text.Blank
import WhereClause.Token

namespace WhereClause

/-- What is left of a text, and how many bytes of it came before. -/
structure Lexer where
  rest : List Char
  offset : Nat
  deriving DecidableEq, Repr

/-- The stretch from the opening quote of a string without a closing one to the
end of the text. -/
structure UnclosedString where
  span : Span
  deriving DecidableEq, Repr

/-- What went wrong, as one line of text. -/
def UnclosedString.message (error : UnclosedString) : String :=
  "unclosed string literal starting at " ++ error.span.display

namespace Lexer

/-- The length of a list of characters in UTF-8. -/
def utf8Length (cs : List Char) : Nat :=
  cs.foldl (fun length c => length + c.utf8Size) 0

/-- The lexer at the beginning of a text. -/
def ofText (text : String) : Lexer :=
  { rest := text.toList, offset := 0 }

/-- The kind of token that a punctuation mark makes by itself. -/
def punctuation? : Char → Option TokenKind
  | '(' => some .opening
  | ')' => some .closing
  | ',' => some .comma
  | _ => none

/-- Whether a character ends a word. -/
def isDelimiter (c : Char) : Bool :=
  Text.isBlank c || (punctuation? c).isSome || c == '\''

/-- Read on in a string, answering its text, the slice of the input that it takes up
and what follows.

The slice so far, from the opening quote on, stands in `slice`, last character first. It
is the text as well until a pair of quotes is met. From then on there is a `copy`, last
character first, in which a pair is one quote. -/
def readString (slice : List Char) (copy : Option (List Char)) :
    List Char → Option (List Char × List Char × List Char)
  | [] => none
  | '\'' :: '\'' :: rest =>
    readString ('\'' :: '\'' :: slice) (some ('\'' :: copy.getD slice)) rest
  | '\'' :: rest => some (('\'' :: copy.getD slice).reverse, ('\'' :: slice).reverse, rest)
  | c :: rest => readString (c :: slice) (copy.map (c :: ·)) rest

/-- The kind of a word: a keyword, else a number, else an identifier. -/
def wordKind (word : String) : TokenKind :=
  match TokenKind.keyword? word with
  | some kind => kind
  | none => if isNumber word then .number else .identifier

/-- The token of the given kind and text whose slice of the input starts at the
lexer's place, and the lexer after that slice. -/
def emit (lexer : Lexer) (kind : TokenKind) (text slice rest : List Char) :
    Option (Except UnclosedString Token) × Lexer :=
  let stop := lexer.offset + utf8Length slice
  (some (.ok { kind, text := String.ofList text, span := { start := lexer.offset, stop } }),
    { rest, offset := stop })

/-- The lexer after the white space at its place. -/
def skipBlank (lexer : Lexer) : Lexer :=
  { rest := lexer.rest.dropWhile Text.isBlank
    offset := lexer.offset + utf8Length (lexer.rest.takeWhile Text.isBlank) }

/-- The token at the lexer's place, where no white space stands. -/
def nextVisible (lexer : Lexer) : Option (Except UnclosedString Token) × Lexer :=
  match lexer.rest with
  | [] => (none, lexer)
  | '\'' :: rest =>
    match readString ['\''] none rest with
    | some (text, slice, rest) => lexer.emit .string text slice rest
    | none =>
      let stop := lexer.offset + utf8Length lexer.rest
      (some (.error { span := { start := lexer.offset, stop } }), { rest := [], offset := stop })
  | c :: rest =>
    match punctuation? c with
    | some kind => lexer.emit kind [c] [c] rest
    | none =>
      let word := c :: rest.takeWhile (!isDelimiter ·)
      lexer.emit (wordKind (String.ofList word)) word word (rest.dropWhile (!isDelimiter ·))

/-- The next token, or the failure to find its end, or nothing at the end of the
text; and the lexer after it. -/
def next (lexer : Lexer) : Option (Except UnclosedString Token) × Lexer :=
  lexer.skipBlank.nextVisible

theorem length_readString {slice cs text whole rest : List Char} {copy : Option (List Char)}
    (h : readString slice copy cs = some (text, whole, rest)) : rest.length < cs.length := by
  fun_induction readString slice copy cs with
  | case1 => simp at h
  | case2 slice copy cs ih => have := ih h; grind
  | case3 slice copy cs _ => grind
  | case4 slice copy c cs _ _ ih => have := ih h; grind

/-- A token takes at least one character of the text. -/
theorem length_next {lexer after : Lexer} {token : Token}
    (h : lexer.next = (some (.ok token), after)) : after.rest.length < lexer.rest.length := by
  have skipped : lexer.skipBlank.rest.length ≤ lexer.rest.length :=
    (List.dropWhile_suffix _).length_le
  have taken : after.rest.length < lexer.skipBlank.rest.length := by
    unfold next nextVisible at h
    split at h
    · simp at h
    · rename_i rest heq
      split at h
      · rename_i text slice rest' hread
        have := length_readString hread
        simp only [emit, Prod.mk.injEq] at h
        rw [heq, ← h.2]
        simp only [List.length_cons]
        omega
      · simp at h
    · rename_i c rest _ heq
      split at h
      · simp only [emit, Prod.mk.injEq] at h
        rw [heq, ← h.2]
        simp
      · have : (rest.dropWhile (!isDelimiter ·)).length ≤ rest.length :=
          (List.dropWhile_suffix _).length_le
        simp only [emit, Prod.mk.injEq] at h
        rw [heq, ← h.2]
        simp only [List.length_cons]
        omega
  omega

/-- The tokens from the lexer's place to the end, put after those of `done`, which
stand in reverse. -/
def tokensFrom (lexer : Lexer) (done : List Token) : Except UnclosedString (List Token) :=
  match _step : lexer.next with
  | (none, _) => .ok done.reverse
  | (some (.error error), _) => .error error
  | (some (.ok token), after) => tokensFrom after (token :: done)
termination_by lexer.rest.length
decreasing_by exact length_next _step

end Lexer

/-- The tokens of a text, in order. -/
def tokenize (text : String) : Except UnclosedString (List Token) :=
  (Lexer.ofText text).tokensFrom []

end WhereClause
