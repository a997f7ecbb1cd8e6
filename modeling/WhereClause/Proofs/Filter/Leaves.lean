/-
# The leaves of a filter

The type of filters admits leaves of any text, and writing a filter in SQL only
puts texts together. What makes the result safe is an invariant of the reader: the
fields and values of each filter that a parser answers with are safe, however the
tokens came about and however often the parser has been asked before.
-/

import WhereClause.Proofs.Draft.Induction
import WhereClause.Proofs.Field
import WhereClause.Proofs.Literal

namespace WhereClause.Filter

/-- Every field and every value of a filter has the property stated for it, and no
list of values is empty. -/
def Leaves (names : Field → Prop) (gives : Literal → Prop) : Filter → Prop
  | .condition field _ value => names field ∧ gives value
  | .oneOf field values => names field ∧ values ≠ [] ∧ ∀ value ∈ values, gives value
  | .binary _ left right => left.Leaves names gives ∧ right.Leaves names gives
  | .negation operand => operand.Leaves names gives
  | .group inner => inner.Leaves names gives

/-- What a parser takes for fields and values makes up the leaves of its filter. -/
theorem leaves_of_parse {parser : Parser} {filter : Filter} {names : Field → Prop}
    {gives : Literal → Prop} (parsed : parser.parse.1 = .ok filter)
    (named : ∀ token ∈ parser.rest, ∀ field, token.kind = .identifier →
      Field.ofName parser.rules.reserved token.text = .ok field → names field)
    (given : ∀ token ∈ parser.rest, ∀ value,
      Literal.ofText parser.rules.reserved token.text = .ok value → gives value) :
    filter.Leaves names gives := by
  have kept : Kept parser.rules (· ∈ parser.rest) names gives (fun _ => Leaves names gives) :=
    { field := fun there kind read => named _ there _ kind read
      value := fun there read => given _ there _ read.2
      condition := fun field value => ⟨field, value⟩
      oneOf := fun field nonempty values => ⟨field, nonempty, values⟩
      chained := fun _ => ⟨fun left right => ⟨left, right⟩, id⟩
      group := fun _ inner => inner }
  exact parse_induction parsed kept

/-- Whatever tokens a parser reads, under whatever reserved words and limit, and
whatever it has read before: in the filter that it answers with every field is a
name in snake case and neither reserved nor a literal, every list has a value, and
every value is a number, a word for a truth value or the missing value, or a quoted
string that nothing in it closes and that holds no forbidden sequence. -/
theorem leaves_isSafe_of_parse {parser : Parser} {filter : Filter}
    (parsed : parser.parse.1 = .ok filter) :
    filter.Leaves (Field.IsSafe parser.rules.reserved) Literal.IsSafe :=
  leaves_of_parse parsed (fun _ _ _ _ named => Field.isSafe_of_ofName named)
    (fun _ _ _ given => Literal.isSafe_of_ofText given)

/-- Tokens that no text has: their kinds and their texts do not agree. -/
def forgedTokens : List Token :=
  [⟨.identifier, "userName", ⟨0, 0⟩⟩, ⟨.membership, "=", ⟨0, 0⟩⟩, ⟨.opening, "", ⟨7, 3⟩⟩,
   ⟨.string, "it's", ⟨0, 0⟩⟩, ⟨.comma, ";", ⟨0, 0⟩⟩, ⟨.number, "TRUE", ⟨0, 0⟩⟩,
   ⟨.closing, "--", ⟨0, 0⟩⟩]

/-- The leaves of a filter read from forged tokens are safe as well. -/
theorem leaves_isSafe_forgedTokens :
    (Parser.ofTokens .standard forgedTokens).parse.1 =
      .ok (.oneOf ⟨"user_name"⟩ [⟨"'it''s'"⟩, ⟨"true"⟩]) ∧
    Leaves (Field.IsSafe .standard) Literal.IsSafe
      (.oneOf ⟨"user_name"⟩ [⟨"'it''s'"⟩, ⟨"true"⟩]) := by
  have parsed : (Parser.ofTokens .standard forgedTokens).parse.1 =
      .ok (.oneOf ⟨"user_name"⟩ [⟨"'it''s'"⟩, ⟨"true"⟩]) := rfl
  exact ⟨parsed, leaves_isSafe_of_parse parsed⟩

end WhereClause.Filter
