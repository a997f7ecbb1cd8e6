/-
# What may stand behind some tokens

Whether a word in a filter is a field or a value shows in front of it: in the last token
there, and for a parenthesis in the one before, since it opens a list behind the keyword
of lists and a group everywhere else. A draft knows the same. Tokens that lead to a draft
are followed by a field exactly if it waits for an operand, and by a value exactly if it
waits for one.
-/

import WhereClause.Proofs.Draft

namespace WhereClause.Filter

/-- The places between tokens, by what may stand there. -/
inductive Place
  /-- An operand: a field with its comparison or list, a negation, or a group. -/
  | operand
  /-- The parenthesis that opens a list of values. -/
  | list
  /-- A value. -/
  | value
  /-- An operator, a comma, or a parenthesis that closes something. -/
  | joint
  deriving DecidableEq, Repr

/-- The place behind a token, by the place that the token has. -/
def Place.next (place : Place) : TokenKind → Place
  | .negation | .connective _ => .operand
  | .opening => if place = .list then .value else .operand
  | .membership => .list
  | .comparison _ | .comma => .value
  | .identifier | .string | .number | .closing => .joint

/-- The place behind some tokens. At the beginning an operand may stand. -/
def placeAfter (tokens : List Token) : Place :=
  tokens.foldl (fun place token => place.next token.kind) .operand

/-- Behind the keyword of lists a parenthesis opens a list. -/
example : placeAfter [⟨.identifier, "id", ⟨0, 2⟩⟩, ⟨.membership, "in", ⟨3, 5⟩⟩,
    ⟨.opening, "(", ⟨6, 7⟩⟩] = .value := by
  decide

/-- What a draft waits for. -/
def Phase.place : Phase → Place
  | .operand _ => .operand
  | .membership _ => .list
  | .comparison _ _ | .listStart _ | .listComma _ _ => .value
  | .field _ | .listValue _ _ | .complete _ => .joint

namespace Draft

section Places

variable {rules : Rules} {draft next : Draft} {token : Token}

/-- A value has no place for an operand or a value behind it. -/
theorem Gives.next_place {reserved : ReservedWords} {value : Literal}
    (given : Gives reserved token value) (place : Place) : place.next token.kind = .joint := by
  have isValue := given.1
  cases kind : token.kind with
  | identifier | string | number => rfl
  | opening | closing | comma | membership | negation | connective | comparison =>
      rw [kind] at isValue
      cases isValue

/-- A token that extends a draft changes what it waits for as the token alone says. -/
theorem Advances.place_eq (advances : Advances rules draft token next) :
    next.phase.place = draft.phase.place.next token.kind := by
  cases advances with
  | negate _ _ _ kind | openGroup _ _ _ kind | nameField _ _ _ kind | compare _ _ _ kind
  | beginMembership _ _ _ kind | openList _ _ _ kind | separate _ _ _ _ kind
  | closeList _ _ _ _ kind | join _ _ _ kind | closeGroup _ _ _ _ kind =>
      rw [kind]
      rfl
  | compareWith _ _ _ _ given | firstValue _ _ _ given | nextValue _ _ _ _ given =>
      exact (given.next_place _).symm

/-- What a draft waits for shows in the tokens that lead to it. -/
theorem Reaches.placeAfter_eq {done : List Token} (reached : Reaches rules .start done draft) :
    placeAfter done = draft.phase.place := by
  induction reached with
  | start => rfl
  | advance _ advances ih =>
      rw [placeAfter, List.foldl_append, ← placeAfter, ih, advances.place_eq]
      rfl

end Places

end Draft

end WhereClause.Filter
