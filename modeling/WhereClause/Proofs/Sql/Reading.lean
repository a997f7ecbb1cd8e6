/-
# Reading SQL

What a text of SQL says as a condition: its lexemes are symbols of the grammar of
expressions, and the text reads as the trees that this grammar has for them. The
grammar is the one of filters, since both have disjunctions of conjunctions of
negations; only the lexemes differ. A word is a keyword in either case of its
letters. What is no keyword may name a field, give a value, or both.

The trees keep the groups that the parentheses of the text make, so that two texts
which differ in parentheses read differently. A text reads in at most one way.
-/

import WhereClause.Proofs.Field
import WhereClause.Proofs.Grammar
import WhereClause.Proofs.Numeral
import WhereClause.Proofs.Sql.Lexeme

namespace WhereClause.Sql

open Grammar

/-- The keywords of conditions, in lowercase. -/
def keywords : List (String × Symbol) :=
  [("and", .connective .and), ("or", .connective .or), ("not", .negation), ("in", .membership)]

/-- The keyword that a word spells, if it spells one. -/
def keyword? (letters : List Char) : Option Symbol :=
  keywords.lookup (String.ofList (letters.map Char.toLower))

/-- Whether a word gives a value: a numeral, a truth value or the missing value. -/
def isValue (letters : List Char) : Bool :=
  (Numeral.read? letters).isSome ||
    ["true", "false", "null"].contains (String.ofList (letters.map Char.toLower))

/-- What a lexeme is to the grammar. -/
def Lexeme.symbol : Lexeme → Symbol
  | .word letters =>
    match keyword? letters with
    | some keyword => keyword
    | none =>
      .word (if Field.isName letters then some ⟨String.ofList letters⟩ else none)
        (if isValue letters then some ⟨String.ofList letters⟩ else none)
  | .string body => .word none (some ⟨String.ofList (Literal.quote body)⟩)
  | .comparison sign => .comparison sign
  | .opening => .opening
  | .closing => .closing
  | .comma => .comma

@[simp]
theorem Lexeme.symbol_comparison (sign : Comparison) :
    (Lexeme.comparison sign).symbol = .comparison sign :=
  rfl

@[simp]
theorem Lexeme.symbol_opening : Lexeme.opening.symbol = .opening :=
  rfl

@[simp]
theorem Lexeme.symbol_closing : Lexeme.closing.symbol = .closing :=
  rfl

@[simp]
theorem Lexeme.symbol_comma : Lexeme.comma.symbol = .comma :=
  rfl

/-- The text as a whole reads as the tree. -/
def Reads (text : String) (tree : Filter) : Prop :=
  ∃ lexemes, Lexes text.toList lexemes ∧ Expression (lexemes.map Lexeme.symbol) tree

/-- A text reads in at most one way. -/
theorem Reads.unique {text : String} {tree tree' : Filter} (first : Reads text tree)
    (second : Reads text tree') : tree = tree' := by
  obtain ⟨lexemes, lexed, derived⟩ := first
  obtain ⟨lexemes', lexed', derived'⟩ := second
  obtain rfl := lexed.unique lexed'
  exact derived.unique derived'

/-- The field has a name in snake case that is none of the keywords. -/
structure IsColumn (field : Field) : Prop where
  isSnakeName : Field.isSnakeName field.name.toList = true
  not_keyword : field.name ∉ keywords.map Prod.fst

/-- The literal is a number, a word that stands for a truth value or for the missing
value, or a quoted string whose quotes are all doubled. -/
inductive IsValue (value : Literal) : Prop
  | number : isNumber value.sql = true → IsValue value
  | keyword : value.sql ∈ ["true", "false", "null"] → IsValue value
  | string (body : List Char) : value.sql.toList = Literal.quote body → IsValue value

section Leaves

/-- A word is none of the keywords exactly if its lowercase form is not listed. -/
theorem keyword?_eq_none_iff {letters : List Char} :
    keyword? letters = none ↔
      String.ofList (letters.map Char.toLower) ∉ keywords.map Prod.fst := by
  rw [keyword?, List.lookup_eq_none_iff]
  simp only [List.mem_map, not_exists, not_and, bne_iff_ne, ne_eq]
  constructor
  · intro distinct entry there same
    exact distinct entry there same.symm
  · intro absent entry there same
    exact absent entry there same.symm

/-- The characters of names in snake case are parts of words. -/
theorem kind?_of_isSnakePart {c : Char} (part : Field.isSnakePart c = true) :
    kind? c = some .word := by
  have parts : ∀ c : Char, c.toNat < 128 → Field.isSnakePart c = true → kind? c = some .word :=
    Text.forall_ascii (by decide)
  exact parts c (Field.ascii_of_isNamePart (Field.isNamePart_of_isSnakePart part)) part

/-- The characters of numerals are parts of words. -/
theorem kind?_of_isNumeralPart {c : Char} (part : Numeral.isNumeralPart c = true) :
    kind? c = some .word := by
  have parts : ∀ c : Char, c.toNat < 128 → Numeral.isNumeralPart c = true →
      kind? c = some .word := Text.forall_ascii (by decide)
  exact parts c (Numeral.ascii_of_isNumeralPart part) part

/-- A column is a word that names itself. -/
theorem IsColumn.symbol {field : Field} (column : IsColumn field) :
    (Lexeme.word field.name.toList).IsProper ∧
      ∃ asValue, (Lexeme.word field.name.toList).symbol = .word (some field) asValue := by
  have snake := column.isSnakeName
  have notKeyword : keyword? field.name.toList = none := by
    rw [keyword?_eq_none_iff, Field.map_toLower_of_isSnakeName snake, String.ofList_toList]
    exact column.not_keyword
  refine ⟨⟨?_, fun c there => kind?_of_isSnakePart (Field.isSnakePart_of_mem snake c there)⟩, ?_⟩
  · intro empty
    rw [empty] at snake
    cases snake
  · simp [Lexeme.symbol, notKeyword, Field.isName_of_isSnakeName snake]

/-- No numeral spells a keyword: each keyword has an `n` or an `o`. -/
theorem keyword?_eq_none_of_read? {letters : List Char} {numeral : Numeral}
    (read : Numeral.read? letters = some numeral) : keyword? letters = none := by
  rw [keyword?_eq_none_iff]
  intro listed
  have letter : ∀ word ∈ keywords.map Prod.fst, 'n' ∈ word.toList ∨ 'o' ∈ word.toList := by decide
  rcases letter _ listed with there | there
  all_goals
    rw [String.toList_ofList] at there
    cases Numeral.isNumeralPart_of_mem_map_toLower read there

/-- A literal is a lexeme that gives itself. -/
theorem IsValue.symbol {value : Literal} (literal : IsValue value) :
    ∃ lexeme : Lexeme, lexeme.IsProper ∧ lexeme.spelling = value.sql.toList ∧
      ∃ asField, lexeme.symbol = .word asField (some value) := by
  cases literal with
  | number number =>
      unfold isNumber at number
      split at number
      · next numeral read =>
          refine ⟨.word value.sql.toList, ⟨Numeral.ne_nil_of_read? read, fun c there =>
            kind?_of_isNumeralPart (Numeral.isNumeralPart_of_read? read there)⟩, rfl, ?_⟩
          simp [Lexeme.symbol, keyword?_eq_none_of_read? read, isValue, read]
      · cases number
  | keyword keyword =>
      obtain ⟨sql⟩ := value
      simp only [List.mem_cons, List.not_mem_nil, or_false] at keyword
      rcases keyword with rfl | rfl | rfl
      · exact ⟨.word "true".toList, ⟨by decide, Text.forall_mem_of_all rfl⟩, rfl, _, rfl⟩
      · exact ⟨.word "false".toList, ⟨by decide, Text.forall_mem_of_all rfl⟩, rfl, _, rfl⟩
      · exact ⟨.word "null".toList, ⟨by decide, Text.forall_mem_of_all rfl⟩, rfl, _, rfl⟩
  | string body quoted =>
      refine ⟨.string body, True.intro, quoted.symm, none, ?_⟩
      rw [Lexeme.symbol, ← quoted, String.ofList_toList]

end Leaves

end WhereClause.Sql
