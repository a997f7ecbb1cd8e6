/-
# The lexemes of SQL

How SQL is divided before anything is read from it. Words, strings, comparison
symbols and punctuation make up the text, with white space wherever it does not
break one of them. A word and a symbol reach as far as characters of their kind do.
A string reaches to the first quote that does not stand in a pair, whatever lies
between: parentheses, keywords, comment marks.

The rules are stated as a relation, and apart from the texts that this library
writes. No text is divided in two ways. The second half of the file is a calculus
for the other direction: it divides a text by the parts that it was put together
from, provided that every part is followed by something that ends it.
-/

import Mathlib.Data.List.TakeWhile
import WhereClause.Literal
import WhereClause.Operator
import WhereClause.Proofs.Text.Lowercase
import WhereClause.Proofs.Token.Lexer
import WhereClause.Text.Blank

namespace WhereClause

namespace Sql

/-- What a lexeme may be. -/
inductive LexemeKind
  | word
  | string
  | comparison
  | opening
  | closing
  | comma
  deriving DecidableEq, Repr

/-- A unit of SQL. A string is given by what stands between its quotes, with one
quote for every pair. -/
inductive Lexeme
  | word (letters : List Char)
  | string (body : List Char)
  | comparison (comparison : Comparison)
  | opening
  | closing
  | comma
  deriving DecidableEq, Repr

/-- The kind of lexeme that a character begins. White space begins none, and all
that has no other use is part of a word. -/
def kind? (c : Char) : Option LexemeKind :=
  if Text.isBlank c then
    none
  else
    match c with
    | '(' => some .opening
    | ')' => some .closing
    | ',' => some .comma
    | '\'' => some .string
    | '=' | '!' | '<' | '>' => some .comparison
    | _ => some .word

/-- White space begins no lexeme. -/
theorem kind?_of_isBlank {c : Char} (blank : Text.isBlank c = true) : kind? c = none := by
  simp [kind?, blank]

/-- How SQL writes a comparison. -/
def symbol : Comparison → List Char
  | .equal => ['=']
  | .unequal => ['!', '=']
  | .greater => ['>']
  | .atLeast => ['>', '=']
  | .less => ['<']
  | .atMost => ['<', '=']

/-- No symbol stands for two comparisons. -/
theorem symbol_injective : Function.Injective symbol := by
  intro comparison comparison' same
  cases comparison <;> cases comparison' <;> first | rfl | cases same

/-- A symbol is made of the characters that begin one. -/
theorem kind?_of_mem_symbol {comparison : Comparison} :
    ∀ c ∈ symbol comparison, kind? c = some .comparison := by
  cases comparison <;> exact Text.forall_mem_of_all rfl

/-- In filters that are turned into SQL, comparisons are written with these symbols. -/
theorem toList_sql_comparison (comparison : Comparison) :
    comparison.sql.toList = symbol comparison := by
  cases comparison <;> rfl

namespace Lexeme

/-- What a lexeme is. -/
def kind : Lexeme → LexemeKind
  | .word _ => .word
  | .string _ => .string
  | .comparison _ => .comparison
  | .opening => .opening
  | .closing => .closing
  | .comma => .comma

/-- How a lexeme is written. -/
def spelling : Lexeme → List Char
  | .word letters => letters
  | .string body => Literal.quote body
  | .comparison sign => symbol sign
  | .opening => ['(']
  | .closing => [')']
  | .comma => [',']

/-- A word has at least one character, and nothing else than parts of words in it. -/
def IsProper : Lexeme → Prop
  | .word letters => letters ≠ [] ∧ ∀ c ∈ letters, kind? c = some .word
  | _ => True

/-- The lexeme ends where the given text follows. Punctuation ends by itself; all
else is prolonged by a further character of its kind. -/
def Stops (lexeme : Lexeme) (rest : List Char) : Prop :=
  match lexeme with
  | .word _ | .string _ | .comparison _ => ∀ c ∈ rest.head?, kind? c ≠ some lexeme.kind
  | .opening | .closing | .comma => True

/-- A lexeme begins with a character of its kind. -/
theorem exists_cons_spelling {lexeme : Lexeme} (proper : lexeme.IsProper) :
    ∃ c more, lexeme.spelling = c :: more ∧ kind? c = some lexeme.kind := by
  cases lexeme with
  | word letters =>
      obtain ⟨c, more, rfl⟩ := List.exists_cons_of_ne_nil proper.1
      exact ⟨c, more, rfl, proper.2 c List.mem_cons_self⟩
  | string body => exact ⟨'\'', _, rfl, rfl⟩
  | comparison comparison => cases comparison <;> exact ⟨_, _, rfl, rfl⟩
  | opening => exact ⟨_, _, rfl, rfl⟩
  | closing => exact ⟨_, _, rfl, rfl⟩
  | comma => exact ⟨_, _, rfl, rfl⟩

end Lexeme

/-- Where a run of characters of one kind ends does not depend on how it was found. -/
theorem run_unique {kind : LexemeKind} {run run' rest rest' : List Char}
    (uniform : ∀ c ∈ run, kind? c = some kind) (uniform' : ∀ c ∈ run', kind? c = some kind)
    (stops : ∀ c ∈ rest.head?, kind? c ≠ some kind)
    (stops' : ∀ c ∈ rest'.head?, kind? c ≠ some kind) (same : run ++ rest = run' ++ rest') :
    run = run' ∧ rest = rest' := by
  have taken {run rest : List Char} (uniform : ∀ c ∈ run, kind? c = some kind)
      (stops : ∀ c ∈ rest.head?, kind? c ≠ some kind) :
      (run ++ rest).takeWhile (fun c => kind? c == some kind) = run := by
    rw [List.takeWhile_append_of_pos (by simpa using uniform)]
    cases rest with
    | nil => simp
    | cons c rest => simp [stops c rfl]
  have runs : run = run' := by rw [← taken uniform stops, same, taken uniform' stops']
  subst runs
  exact ⟨rfl, List.append_cancel_left same⟩

/-- Where a string ends does not depend on how it was found. -/
theorem quote_unique {body body' rest rest' : List Char} (stops : rest.head? ≠ some '\'')
    (stops' : rest'.head? ≠ some '\'')
    (same : Literal.quote body ++ rest = Literal.quote body' ++ rest') :
    body = body' ∧ rest = rest' := by
  simp only [Literal.quote, List.cons_append, List.append_assoc, List.cons.injEq, true_and,
    List.nil_append] at same
  -- both are what one search for the closing quote finds
  have found {body rest : List Char} (stops : rest.head? ≠ some '\'') :
      Lexer.readString ['\''] none (Text.double '\'' body ++ '\'' :: rest) =
        some ('\'' :: body ++ ['\''], Literal.quote body, rest) :=
    Lexer.readString_eq_some_iff.mpr ⟨body, rfl, stops, rfl, rfl⟩
  have both := (found stops).symm.trans ((congrArg _ same).trans (found stops'))
  simp only [Option.some.injEq, Prod.mk.injEq, List.cons_append, List.cons.injEq, true_and,
    List.append_cancel_right_eq] at both
  exact ⟨both.1, both.2.2⟩

/-- Two lexemes at the front of one text are the same, if each of them ends there. -/
theorem Lexeme.unique {lexeme lexeme' : Lexeme} {rest rest' : List Char}
    (proper : lexeme.IsProper) (proper' : lexeme'.IsProper) (stops : lexeme.Stops rest)
    (stops' : lexeme'.Stops rest')
    (same : lexeme.spelling ++ rest = lexeme'.spelling ++ rest') :
    lexeme = lexeme' ∧ rest = rest' := by
  -- the first character of the text says what both of them are
  have kinds : lexeme.kind = lexeme'.kind := by
    obtain ⟨c, more, spelled, begins⟩ := exists_cons_spelling proper
    obtain ⟨c', more', spelled', begins'⟩ := exists_cons_spelling proper'
    rw [spelled, spelled'] at same
    rw [(List.cons.inj same).1, begins'] at begins
    exact (Option.some.inj begins).symm
  cases lexeme with
  | word letters =>
      cases lexeme' with
      | word letters' =>
          obtain ⟨rfl, rfl⟩ := run_unique proper.2 proper'.2 stops stops' same
          exact ⟨rfl, rfl⟩
      | _ => cases kinds
  | string body =>
      cases lexeme' with
      | string body' =>
          have ends : rest.head? ≠ some '\'' := fun again => stops '\'' again rfl
          have ends' : rest'.head? ≠ some '\'' := fun again => stops' '\'' again rfl
          obtain ⟨rfl, rfl⟩ := quote_unique ends ends' same
          exact ⟨rfl, rfl⟩
      | _ => cases kinds
  | comparison sign =>
      cases lexeme' with
      | comparison sign' =>
          obtain ⟨signs, rfl⟩ := run_unique kind?_of_mem_symbol kind?_of_mem_symbol stops stops' same
          exact ⟨congrArg comparison (symbol_injective signs), rfl⟩
      | _ => cases kinds
  | opening =>
      cases lexeme' with
      | opening => exact ⟨rfl, (List.cons.inj same).2⟩
      | _ => cases kinds
  | closing =>
      cases lexeme' with
      | closing => exact ⟨rfl, (List.cons.inj same).2⟩
      | _ => cases kinds
  | comma =>
      cases lexeme' with
      | comma => exact ⟨rfl, (List.cons.inj same).2⟩
      | _ => cases kinds

/-- The text is made of the lexemes, in order, and of white space. -/
inductive Lexes : List Char → List Lexeme → Prop
  | done : Lexes [] []
  | blank {c : Char} {rest : List Char} {lexemes : List Lexeme} :
      Text.isBlank c = true → Lexes rest lexemes → Lexes (c :: rest) lexemes
  | lexeme {lexeme : Lexeme} {rest : List Char} {lexemes : List Lexeme} :
      lexeme.IsProper → lexeme.Stops rest → Lexes rest lexemes →
      Lexes (lexeme.spelling ++ rest) (lexeme :: lexemes)

/-- A text that begins with white space does not begin with a lexeme. -/
theorem blank_ne_spelling {c : Char} {rest after : List Char} {lexeme : Lexeme}
    (blank : Text.isBlank c = true) (proper : lexeme.IsProper) :
    c :: rest ≠ lexeme.spelling ++ after := by
  intro same
  obtain ⟨d, more, spelled, begins⟩ := Lexeme.exists_cons_spelling proper
  rw [spelled] at same
  rw [← (List.cons.inj same).1, kind?_of_isBlank blank] at begins
  cases begins

/-- A lexeme is not empty. -/
theorem nil_ne_spelling {after : List Char} {lexeme : Lexeme} (proper : lexeme.IsProper) :
    [] ≠ lexeme.spelling ++ after := by
  obtain ⟨c, more, spelled, -⟩ := Lexeme.exists_cons_spelling proper
  simp [spelled]

/-- No text is divided in two ways. -/
theorem Lexes.unique {text : List Char} {lexemes lexemes' : List Lexeme}
    (first : Lexes text lexemes) (second : Lexes text lexemes') : lexemes = lexemes' := by
  induction first generalizing lexemes' with
  | done =>
      generalize empty : [] = text at second
      cases second with
      | done => rfl
      | blank => cases empty
      | lexeme proper => exact absurd empty (nil_ne_spelling proper)
  | blank blank _ ih =>
      generalize same : _ :: _ = text at second
      cases second with
      | done => cases same
      | blank _ second =>
          cases same
          exact ih second
      | lexeme proper => exact absurd same (blank_ne_spelling blank proper)
  | lexeme proper stops _ ih =>
      generalize same : Lexeme.spelling _ ++ _ = text at second
      cases second with
      | done => exact absurd same.symm (nil_ne_spelling proper)
      | blank blank => exact absurd same.symm (blank_ne_spelling blank proper)
      | lexeme proper' stops' second =>
          obtain ⟨rfl, rfl⟩ := Lexeme.unique proper proper' stops stops' same
          rw [ih second]

/-- The text begins with something that ends every lexeme in front of it. -/
def Breaks (text : List Char) : Prop :=
  ∀ c ∈ text.head?, kind? c = none ∨ kind? c = some .closing ∨ kind? c = some .comma

/-- A lexeme ends where a text follows that breaks. -/
theorem Breaks.stops {text : List Char} (breaks : Breaks text) (lexeme : Lexeme) :
    lexeme.Stops text := by
  have other {kind : LexemeKind} (notClosing : kind ≠ .closing) (notComma : kind ≠ .comma) :
      ∀ c ∈ text.head?, kind? c ≠ some kind := by
    intro c there same
    rcases breaks c there with none | closing | comma
    · rw [none] at same
      cases same
    · exact notClosing (Option.some.inj (same.symm.trans closing))
    · exact notComma (Option.some.inj (same.symm.trans comma))
  cases lexeme with
  | word => exact other LexemeKind.noConfusion LexemeKind.noConfusion
  | string => exact other LexemeKind.noConfusion LexemeKind.noConfusion
  | comparison => exact other LexemeKind.noConfusion LexemeKind.noConfusion
  | opening => exact True.intro
  | closing => exact True.intro
  | comma => exact True.intro

/-- The text is made of the lexemes wherever a text follows that breaks. -/
def Writes (text : List Char) (lexemes : List Lexeme) : Prop :=
  ∀ (rest : List Char) (more : List Lexeme),
    Breaks rest → Lexes rest more → Lexes (text ++ rest) (lexemes ++ more)

namespace Writes

variable {text text' : List Char} {lexemes lexemes' : List Lexeme}

/-- At the end of everything, the text is made of the lexemes. -/
theorem lexes (writes : Writes text lexemes) : Lexes text lexemes := by
  have nothing : Breaks [] := by simp [Breaks]
  simpa using writes [] [] nothing .done

/-- A single lexeme. -/
theorem single {lexeme : Lexeme} (proper : lexeme.IsProper) :
    Writes lexeme.spelling [lexeme] :=
  fun _ _ breaks later => .lexeme proper (breaks.stops lexeme) later

/-- Two texts with a space between them. -/
theorem spaced (first : Writes text lexemes) (second : Writes text' lexemes') :
    Writes (text ++ ' ' :: text') (lexemes ++ lexemes') := by
  intro rest more breaks later
  have space : Breaks (' ' :: (text' ++ rest)) := by
    intro c there
    obtain rfl := Option.some.inj there
    exact .inl (by decide)
  simpa using first _ _ space (.blank (by decide) (second _ _ breaks later))

/-- Two texts with a comma and a space between them. -/
theorem separated (first : Writes text lexemes) (second : Writes text' lexemes') :
    Writes (text ++ ',' :: ' ' :: text') (lexemes ++ .comma :: lexemes') := by
  intro rest more breaks later
  have comma : Breaks (',' :: ' ' :: (text' ++ rest)) := by
    intro c there
    obtain rfl := Option.some.inj there
    exact .inr (.inr (by decide))
  have after : Lexes (Lexeme.comma.spelling ++ ' ' :: (text' ++ rest))
      (.comma :: (lexemes' ++ more)) :=
    .lexeme True.intro True.intro (.blank (by decide) (second _ _ breaks later))
  simpa using first _ _ comma after

/-- A text between parentheses. -/
theorem enclosed (inside : Writes text lexemes) :
    Writes ('(' :: text ++ [')']) (.opening :: lexemes ++ [.closing]) := by
  intro rest more _ later
  have closing : Breaks (')' :: rest) := by
    intro c there
    obtain rfl := Option.some.inj there
    exact .inr (.inl (by decide))
  have after : Lexes (Lexeme.closing.spelling ++ rest) (.closing :: more) :=
    .lexeme True.intro True.intro later
  have whole : Lexes (Lexeme.opening.spelling ++ (text ++ ')' :: rest))
      (.opening :: (lexemes ++ .closing :: more)) :=
    .lexeme True.intro True.intro (inside _ _ closing after)
  simpa [Lexeme.spelling] using whole

end Writes

end Sql

end WhereClause
