/-
# The grammar of filter expressions

    expression  := conjunction (OR conjunction)*
    conjunction := operand (AND operand)*
    operand     := NOT operand | primary
    primary     := `(` expression `)` | condition
    condition   := FIELD COMPARISON value | FIELD IN `(` value (`,` value)* `)`

Both chains nest to the left. The grammar is stated as a relation between symbols
and trees, apart from any reader: it says which trees a sequence of symbols has,
not how one is found. A word is one symbol whether it names a field or gives a
value, because only its place tells the two apart.

The main statement is that the grammar is unambiguous. More than that, the front
of a sequence that makes up an operand does not depend on what follows it, and
the front that makes up a chain depends only on whether the chain could go on.
-/

import WhereClause.Filter
import WhereClause.Token

namespace WhereClause.Grammar

/-- What a token is to the grammar. Of a word only two things matter: the field
that it names, if it can name one, and the value that it gives, if it can give
one. -/
inductive Symbol
  | opening
  | closing
  | comma
  | membership
  | negation
  | connective (joint : Connective)
  | comparison (comparison : Comparison)
  | word (field : Option Field) (value : Option Literal)
  deriving DecidableEq, Repr

/-- The parts of an expression. The links of a chain are what follows its first
operands, when these amount to the filter `left`. -/
inductive Part
  | chain (joint : Connective)
  | links (joint : Connective) (left : Filter)
  | operand
  | primary

/-- What a chain is made of: disjunctions of conjunctions, conjunctions of
operands. -/
def Part.joinedBy : Connective → Part
  | .or => .chain .and
  | .and => .operand

/-- The symbols in front of `rest` are the values of a list, in order, with commas
between them. -/
inductive Values : List Symbol → List Literal → List Symbol → Prop
  | last (field : Option Field) (value : Literal) (rest : List Symbol) :
      Values (.word field (some value) :: rest) [value] rest
  | more (field : Option Field) (value : Literal) {symbols rest : List Symbol}
      {values : List Literal} :
      Values symbols values rest →
      Values (.word field (some value) :: .comma :: symbols) (value :: values) rest

/-- The symbols in front of `rest` make up the part and amount to the filter. -/
inductive Derives : Part → List Symbol → Filter → List Symbol → Prop
  | chain {joint : Connective} {symbols middle rest : List Symbol} {first whole : Filter} :
      Derives (Part.joinedBy joint) symbols first middle →
      Derives (.links joint first) middle whole rest →
      Derives (.chain joint) symbols whole rest
  | done (joint : Connective) (left : Filter) (rest : List Symbol) :
      Derives (.links joint left) rest left rest
  | link {joint : Connective} {symbols middle rest : List Symbol} {left right whole : Filter} :
      Derives (Part.joinedBy joint) symbols right middle →
      Derives (.links joint (.binary joint left right)) middle whole rest →
      Derives (.links joint left) (.connective joint :: symbols) whole rest
  | negation {symbols rest : List Symbol} {operand : Filter} :
      Derives .operand symbols operand rest →
      Derives .operand (.negation :: symbols) (.negation operand) rest
  | primary {symbols rest : List Symbol} {operand : Filter} :
      Derives .primary symbols operand rest → Derives .operand symbols operand rest
  | group {symbols rest : List Symbol} {inner : Filter} :
      Derives (.chain .or) symbols inner (.closing :: rest) →
      Derives .primary (.opening :: symbols) (.group inner) rest
  | condition (field : Field) (comparison : Comparison) (value : Literal)
      (asValue : Option Literal) (asField : Option Field) (rest : List Symbol) :
      Derives .primary
        (.word (some field) asValue :: .comparison comparison :: .word asField (some value) :: rest)
        (.condition field comparison value) rest
  | oneOf (field : Field) (asValue : Option Literal) {symbols rest : List Symbol}
      {values : List Literal} :
      Values symbols values (.closing :: rest) →
      Derives .primary (.word (some field) asValue :: .membership :: .opening :: symbols)
        (.oneOf field values) rest

/-- All of the symbols make up an expression that amounts to the filter. -/
def Expression (symbols : List Symbol) (filter : Filter) : Prop :=
  Derives (.chain .or) symbols filter []

/-- What follows the values of a list ends the sequence that they begin. -/
theorem Values.suffix {symbols rest : List Symbol} {values : List Literal}
    (list : Values symbols values rest) : rest <:+ symbols := by
  induction list with
  | last => exact List.suffix_cons _ _
  | more _ _ _ ih => exact ih.trans ((List.suffix_cons _ _).trans (List.suffix_cons _ _))

/-- What follows a part ends the sequence that it begins. -/
theorem Derives.suffix {part : Part} {symbols rest : List Symbol} {filter : Filter}
    (derived : Derives part symbols filter rest) : rest <:+ symbols := by
  induction derived with
  | chain _ _ ihHead ihTail => exact ihTail.trans ihHead
  | done => exact List.suffix_rfl
  | link _ _ ihHead ihTail => exact (ihTail.trans ihHead).trans (List.suffix_cons _ _)
  | negation _ ih => exact ih.trans (List.suffix_cons _ _)
  | primary _ ih => exact ih
  | group _ ih => exact ((List.suffix_cons _ _).trans ih).trans (List.suffix_cons _ _)
  | condition => exact ⟨[_, _, _], rfl⟩
  | oneOf _ _ values =>
      exact ((List.suffix_cons _ _).trans values.suffix).trans ⟨[_, _, _], rfl⟩

/-- A chain cannot go on with the symbols of `rest`. A conjunction is also the
front of a disjunction, so a disjunction stops at neither connective. -/
def Ends (joint : Connective) (rest : List Symbol) : Prop :=
  match joint with
  | .or => ∀ next, rest.head? ≠ some (.connective next)
  | .and => rest.head? ≠ some (.connective .and)

/-- A part is not broken off in front of `rest`. -/
def Part.Stops : Part → List Symbol → Prop
  | .chain joint, rest | .links joint _, rest => Ends joint rest
  | .operand, _ | .primary, _ => True

section Unambiguous

/-- The values of a list are determined by the symbols, if a closing parenthesis
follows them. -/
theorem Values.unique {symbols rest rest' : List Symbol} {values values' : List Literal}
    (first : Values symbols values (.closing :: rest))
    (second : Values symbols values' (.closing :: rest')) : values = values' ∧ rest = rest' := by
  generalize hend : Symbol.closing :: rest = ending at first
  induction first generalizing values' with
  | last field value =>
      subst hend
      cases second with
      | last => exact ⟨rfl, rfl⟩
  | more field value _ ih =>
      cases second with
      | more _ _ second =>
          obtain ⟨rfl, rfl⟩ := ih second hend
          exact ⟨rfl, rfl⟩

/-- Where a chain ends and stops, so does each of its operands. -/
theorem Derives.stops_joinedBy {joint : Connective} {left whole : Filter}
    {symbols rest : List Symbol} (links : Derives (.links joint left) symbols whole rest)
    (stops : Ends joint rest) : (Part.joinedBy joint).Stops symbols := by
  cases joint with
  | and => exact True.intro
  | or =>
      cases links with
      | done => exact stops .and
      | link => simp [Part.joinedBy, Part.Stops, Ends]

/-- A primary begins with a parenthesis or a word, not with a negation. -/
theorem Derives.primary_ne_negation {symbols rest : List Symbol} {filter : Filter}
    (derived : Derives .primary (.negation :: symbols) filter rest) : False := by
  cases derived

/-- The front of a sequence that makes up a part is determined by the sequence,
and so is the filter that it amounts to, provided that a chain is not broken off
where it could go on. -/
theorem Derives.unique {part : Part} {symbols rest rest' : List Symbol} {filter filter' : Filter}
    (first : Derives part symbols filter rest) (second : Derives part symbols filter' rest')
    (stops : part.Stops rest) (stops' : part.Stops rest') :
    filter = filter' ∧ rest = rest' := by
  induction first generalizing filter' rest' with
  | @chain joint symbols middle rest head whole _ tail ihHead ihTail =>
      cases second with
      | chain second tail' =>
          obtain ⟨rfl, rfl⟩ := ihHead second (tail.stops_joinedBy stops)
            (tail'.stops_joinedBy stops')
          exact ihTail tail' stops stops'
  | done joint left rest =>
      cases second with
      | done => exact ⟨rfl, rfl⟩
      | link => cases joint <;> simp [Part.Stops, Ends] at stops
  | @link joint symbols middle rest left right whole _ tail ihHead ihTail =>
      cases second with
      | done => cases joint <;> simp [Part.Stops, Ends] at stops'
      | link second tail' =>
          obtain ⟨rfl, rfl⟩ := ihHead second (tail.stops_joinedBy stops)
            (tail'.stops_joinedBy stops')
          exact ihTail tail' stops stops'
  | negation _ ih =>
      cases second with
      | negation second =>
          obtain ⟨rfl, rfl⟩ := ih second stops stops'
          exact ⟨rfl, rfl⟩
      | primary second => exact second.primary_ne_negation.elim
  | primary first ih =>
      cases second with
      | negation => exact first.primary_ne_negation.elim
      | primary second => exact ih second stops stops'
  | group _ ih =>
      cases second with
      | group second =>
          obtain ⟨rfl, same⟩ := ih second (by simp [Part.Stops, Ends]) (by simp [Part.Stops, Ends])
          exact ⟨rfl, (List.cons.inj same).2⟩
  | condition =>
      cases second with
      | condition => exact ⟨rfl, rfl⟩
  | oneOf _ _ values =>
      cases second with
      | oneOf _ _ values' =>
          obtain ⟨rfl, rfl⟩ := values.unique values'
          exact ⟨rfl, rfl⟩

/-- A sequence of symbols has at most one tree. -/
theorem Expression.unique {symbols : List Symbol} {filter filter' : Filter}
    (first : Expression symbols filter) (second : Expression symbols filter') :
    filter = filter' :=
  (Derives.unique first second (by simp [Part.Stops, Ends]) (by simp [Part.Stops, Ends])).1

end Unambiguous

end WhereClause.Grammar
