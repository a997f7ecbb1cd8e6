/-
# Descent and draft read alike

Whatever a parser by recursive descent answers, the one that builds a draft answers, and
both stop at the same token with the same number of groups open. So each of them can stand
for the other: the first has the counters, the second has no recursion.

Each function of the descent is followed by a stretch of the run. Where the function answers,
it has taken one draft to another one that has what it answers in it; where it fails, the
run ends there, with the same error. Two such stretches make a longer one, and so the parts of
an expression are put together as the functions are.

The count of open groups stays below the place of the cursor, since every group that is
opened has used up a parenthesis. This is why it cannot wrap around.
-/

import Mathlib.Algebra.Group.Nat.Defs
import WhereClause.Proofs.Draft
import WhereClause.Proofs.Parser.Descent

namespace WhereClause.Descent

open WhereClause.Filter

/-! ### The cursor -/

/-- The cursor stands in front of `rest`, and counts this many groups, no more than tokens
stand behind it. -/
structure InFront (tokens rest : List Token) (depth : Nat) (cursor : Cursor) : Prop where
  place : ∃ read, tokens = read ++ rest ∧ cursor.position.toNat = read.length
  counts : cursor.depth.toNat = depth
  shallow : depth ≤ cursor.position.toNat
  unwrapped : cursor.wrapped = false

section Cursor

variable {tokens rest : List Token} {token : Token} {kind : TokenKind} {depth : Nat}
  {cursor after : Cursor}

namespace InFront

theorem getElem? (front : InFront tokens rest depth cursor) :
    tokens[cursor.position.toNat]? = rest.head? := by
  obtain ⟨read, rfl, place⟩ := front.place
  rw [place, List.getElem?_append_right (Nat.le_refl _), Nat.sub_self, List.head?_eq_getElem?]

theorem position_add (front : InFront tokens rest depth cursor) :
    cursor.position.toNat + rest.length = tokens.length := by
  obtain ⟨read, rfl, place⟩ := front.place
  rw [place, List.length_append]

/-- No more tokens are left than there are. -/
theorem length_le (front : InFront tokens rest depth cursor) : rest.length ≤ tokens.length :=
  Nat.le_trans (Nat.le_add_left _ _) (Nat.le_of_eq front.position_add)

theorem drop_eq (front : InFront tokens rest depth cursor) :
    tokens.drop cursor.position.toNat = rest := by
  obtain ⟨read, rfl, place⟩ := front.place
  rw [place, List.drop_left]

/-- The tokens can be counted in a machine word, so a token further is one place further. -/
theorem toNat_advance (addressable : tokens.length < 2 ^ 64)
    (front : InFront tokens (token :: rest) depth cursor) :
    cursor.advance.position.toNat = cursor.position.toNat + 1 := by
  have counted := front.position_add
  rw [List.length_cons] at counted
  rw [Cursor.advance, UInt64.toNat_add]
  exact Nat.mod_eq_of_lt (by simp only [UInt64.reduceToNat]; omega)

theorem advance (addressable : tokens.length < 2 ^ 64)
    (front : InFront tokens (token :: rest) depth cursor) :
    InFront tokens rest depth cursor.advance := by
  have further := front.toNat_advance addressable
  obtain ⟨read, rfl, place⟩ := front.place
  refine ⟨⟨read ++ [token], by simp, ?_⟩, front.counts, ?_, front.unwrapped⟩
  · rw [further, place, List.length_append, List.length_singleton]
  · rw [further]
    exact Nat.le_succ_of_le front.shallow

/-- A group that is opened is counted behind its parenthesis, which leaves room for it. -/
theorem deepen (addressable : tokens.length < 2 ^ 64)
    (front : InFront tokens (token :: rest) depth cursor) :
    InFront tokens rest (depth + 1) cursor.advance.deepen := by
  have further := front.toNat_advance addressable
  have counted := front.position_add
  have shallow := front.shallow
  rw [List.length_cons] at counted
  have counts : cursor.advance.deepen.depth.toNat = depth + 1 := by
    rw [Cursor.deepen, Cursor.advance, UInt64.toNat_add, front.counts]
    exact Nat.mod_eq_of_lt (by simp only [UInt64.reduceToNat]; omega)
  refine ⟨(front.advance addressable).place, counts, ?_, ?_⟩
  · exact Nat.le_trans (Nat.succ_le_succ shallow) (Nat.le_of_eq further.symm)
  · have grows : ¬ cursor.depth + 1 < cursor.depth := by
      rw [UInt64.lt_iff_toNat_lt, show (cursor.depth + 1).toNat = depth + 1 from counts,
        front.counts]
      omega
    simp [Cursor.deepen, Cursor.advance, front.unwrapped, grows]

/-- A group that was counted is counted down again. -/
theorem leave (front : InFront tokens rest (depth + 1) cursor) :
    InFront tokens rest depth cursor.leave := by
  have counts : cursor.leave.depth.toNat = depth := by
    rw [Cursor.leave, UInt64.toNat_sub_of_le, front.counts]
    · rfl
    · rw [UInt64.le_iff_toNat_le, front.counts]
      exact Nat.le_add_left 1 depth
  refine ⟨front.place, counts, Nat.le_of_succ_le front.shallow, ?_⟩
  have falls : ¬ cursor.depth < cursor.depth - 1 := by
    rw [UInt64.lt_iff_toNat_lt, show (cursor.depth - 1).toNat = depth from counts, front.counts]
    omega
  simp [Cursor.leave, front.unwrapped, falls]

end InFront

variable {α β : Type} {reader : Reader α} {read : α} {error : SyntaxError}

/-- Reading goes on behind what has been read. -/
theorem bind_of_ok (answered : reader cursor = .ok read after) (more : α → Reader β) :
    (reader >>= more) cursor = more read after := by
  simp only [bind, EStateM.bind, answered]

theorem bind_of_error (failed : reader cursor = .error error after) (more : α → Reader β) :
    (reader >>= more) cursor = .error error after := by
  simp only [bind, EStateM.bind, failed]

/-- Moving on by a token does not fail. -/
theorem modify_advance (cursor : Cursor) :
    (modify Cursor.advance : Reader PUnit) cursor = .ok ⟨⟩ cursor.advance :=
  rfl

theorem peek_eq (front : InFront tokens rest depth cursor) :
    peek tokens cursor = .ok rest.head? cursor := by
  rw [← front.getElem?]
  rfl

theorem next_nil (front : InFront tokens [] depth cursor) :
    next tokens cursor = .ok none cursor := by
  rw [next, bind_of_ok (peek_eq front)]
  rfl

theorem next_cons (front : InFront tokens (token :: rest) depth cursor) :
    next tokens cursor = .ok (some token) cursor.advance := by
  rw [next, bind_of_ok (peek_eq front)]
  rfl

/-- Whether a token is accepted shows in the first one that is left. -/
theorem accept_cases (kind : TokenKind) (front : InFront tokens rest depth cursor) :
    (∃ token left, rest = token :: left ∧ token.kind = kind ∧
      accept tokens kind cursor = .ok true cursor.advance) ∨
    ((∀ token ∈ rest.head?, token.kind ≠ kind) ∧
      accept tokens kind cursor = .ok false cursor) := by
  rw [accept, bind_of_ok (peek_eq front)]
  cases rest with
  | nil => exact .inr ⟨nofun, rfl⟩
  | cons token left =>
      by_cases is : token.kind = kind
      · refine .inl ⟨token, left, rfl, is, ?_⟩
        simp only [List.head?_cons, Option.any_some, is, decide_true]
        rfl
      · refine .inr ⟨by simpa using is, ?_⟩
        simp only [List.head?_cons, Option.any_some, is, decide_false]
        rfl

theorem isAtEnd_eq (front : InFront tokens rest depth cursor) :
    isAtEnd tokens cursor = .ok rest.isEmpty cursor := by
  have counted := front.position_add
  have ends : decide (tokens.length ≤ cursor.position.toNat) = rest.isEmpty := by
    cases rest with
    | nil => simpa using Nat.le_of_eq counted.symm
    | cons token rest =>
        rw [List.length_cons] at counted
        simp only [List.isEmpty_cons, decide_eq_false_iff_not]
        omega
  rw [← ends]
  rfl

end Cursor

/-! ### Stretches of a run -/

/-- The answer comes with a stretch of the run from a draft in front of `rest`. If something
has been read, the run goes on from a draft that has it, as `reads` says; otherwise the run
ends with the same error. The cursor is where the run is, and counts the groups that count as
open for the run. -/
def Follows {α : Type} (tokens : List Token) (rules : Rules) (depth : Nat) (draft : Draft)
    (rest : List Token) (reads : α → Draft → List Token → Prop) :
    EStateM.Result SyntaxError Cursor α → Prop
  | .ok read after => ∃ last left, reads read last left ∧ left.length ≤ rest.length ∧
      InFront tokens left depth after ∧ draft.run rules rest = last.run rules left
  | .error error after => ∃ left, draft.run rules rest = (.error error, left) ∧
      InFront tokens left (Parser.depthAfter depth (.error error)) after

section Follows

variable {α β : Type} {tokens rest left : List Token} {rules : Rules} {depth : Nat}
  {draft last next : Draft} {token : Token} {cursor after : Cursor} {reader : Reader α}
  {more : α → Reader β} {reads : α → Draft → List Token → Prop}
  {reads' : β → Draft → List Token → Prop} {read : α} {error : SyntaxError}

/-- One stretch and then another one. -/
theorem Follows.bind (first : Follows tokens rules depth draft rest reads (reader cursor))
    (then' : ∀ read last left after, reads read last left → left.length ≤ rest.length →
      InFront tokens left depth after →
      Follows tokens rules depth last left reads' (more read after)) :
    Follows tokens rules depth draft rest reads' ((reader >>= more) cursor) := by
  cases answered : reader cursor with
  | error error after =>
      rw [answered] at first
      rw [bind_of_error answered]
      exact first
  | ok read after =>
      rw [answered] at first
      obtain ⟨last, left, has, shorter, front, ran⟩ := first
      rw [bind_of_ok answered]
      have second := then' read last left after has shorter front
      cases outcome : more read after with
      | error error after =>
          rw [outcome] at second
          obtain ⟨left', ran', front'⟩ := second
          exact ⟨left', ran.trans ran', front'⟩
      | ok read' after =>
          rw [outcome] at second
          obtain ⟨last', left', has', shorter', front', ran'⟩ := second
          exact ⟨last', left', has', Nat.le_trans shorter' shorter, front', ran.trans ran'⟩

/-- What is said of the draft at the end may be said in other words. -/
theorem Follows.imp {reads' : α → Draft → List Token → Prop}
    {result : EStateM.Result SyntaxError Cursor α}
    (follows : Follows tokens rules depth draft rest reads result)
    (implies : ∀ {read last left}, reads read last left → reads' read last left) :
    Follows tokens rules depth draft rest reads' result := by
  cases result with
  | error error after => exact follows
  | ok read after =>
      obtain ⟨last, left, has, others⟩ := follows
      exact ⟨last, left, implies has, others⟩

/-- A token that extends the draft, and then a stretch. -/
theorem Follows.cons {result : EStateM.Result SyntaxError Cursor α}
    (advances : Draft.Advances rules draft token next)
    (follows : Follows tokens rules depth next rest reads result) :
    Follows tokens rules depth draft (token :: rest) reads result := by
  cases result with
  | error error after =>
      obtain ⟨left, ran, front⟩ := follows
      exact ⟨left, (advances.run_cons rest).trans ran, front⟩
  | ok read after =>
      obtain ⟨last, left, has, shorter, front, ran⟩ := follows
      exact ⟨last, left, has, Nat.le_succ_of_le shorter, front, (advances.run_cons rest).trans ran⟩

/-- Nothing is read any more. -/
theorem Follows.pure (has : reads read draft rest) (front : InFront tokens rest depth cursor) :
    Follows tokens rules depth draft rest reads (.ok read cursor) :=
  ⟨draft, rest, has, Nat.le_refl _, front, rfl⟩

/-- The tokens end too early. -/
theorem Follows.finish (unfinished : draft.finish = .error error)
    (shallow : Parser.depthAfter depth (.error error) = depth)
    (front : InFront tokens [] depth cursor) :
    Follows tokens rules depth draft [] reads (.error error cursor) := by
  refine ⟨[], ?_, by rwa [shallow]⟩
  rw [Draft.run, unfinished]

/-- A token is refused, and left to be read. -/
theorem Follows.stopBefore (refused : draft.step rules token = .stopBefore error)
    (shallow : Parser.depthAfter depth (.error error) = depth)
    (front : InFront tokens (token :: rest) depth cursor) :
    Follows tokens rules depth draft (token :: rest) reads (.error error cursor) := by
  refine ⟨token :: rest, ?_, by rwa [shallow]⟩
  rw [Draft.run, refused]

/-- A token is refused, and used up. -/
theorem Follows.stopAfter (refused : draft.step rules token = .stopAfter error)
    (front : InFront tokens rest (Parser.depthAfter depth (.error error)) cursor) :
    Follows tokens rules depth draft (token :: rest) reads (.error error cursor) := by
  refine ⟨rest, ?_, front⟩
  rw [Draft.run, refused]

/-- Inside of a group one group more counts as open, and behind it one less. If reading has
failed in it, one less counts as open than inside of it too. -/
theorem nested_follows {limit : UInt64} {inside : Reader α}
    (room : ¬ limit < cursor.deepen.depth)
    (follows : Follows tokens rules (depth + 1) draft rest reads (inside cursor.deepen)) :
    Follows tokens rules depth draft rest reads (nested limit inside cursor) := by
  rw [nested]
  simp only [room, if_false]
  cases outcome : inside cursor.deepen with
  | ok read after =>
      rw [outcome] at follows
      obtain ⟨last, left, has, shorter, front, ran⟩ := follows
      exact ⟨last, left, has, shorter, front.leave, ran⟩
  | error error after =>
      rw [outcome] at follows
      obtain ⟨left, ran, front⟩ := follows
      -- a refusal further in has been counted already, and is not counted down here
      have deeper : Parser.depthAfter (depth + 1) (.error error) =
          Parser.depthAfter depth (.error error) + 1 := by
        cases error <;> rfl
      rw [deeper] at front
      exact ⟨left, ran, front.leave⟩

end Follows

/-! ### The functions of the descent, one by one -/

section Parts

variable {tokens rest : List Token} {depth : Nat} {draft : Draft} {cursor : Cursor}
  {groups : List OpenGroup} {chains : Chains} {lead : Option Lead} {named : Field}
  (addressable : tokens.length < 2 ^ 64)

include addressable

/-- A draft that waits for a value takes the one that is read. -/
theorem value_follows {rules : Rules} {take : Literal → Draft}
    (waits : ∀ token ∈ rest.head?,
      draft.step rules token = Draft.stepValue rules.reserved token take)
    (ends : rest = [] → draft.finish = .error (.unexpectedEnd .value))
    (front : InFront tokens rest depth cursor) :
    Follows tokens rules depth draft rest (fun value last _ => last = take value)
      (value rules.reserved tokens cursor) := by
  cases rest with
  | nil =>
      rw [value, bind_of_ok (next_nil front)]
      exact .finish (ends rfl) rfl front
  | cons token rest =>
      have stepped := waits token rfl
      have front' := front.advance addressable
      rw [value, bind_of_ok (next_cons front)]
      unfold Draft.stepValue at stepped
      cases isValue : token.kind.isValue with
      | false =>
          simp only [isValue] at stepped ⊢
          exact .stopAfter stepped front'
      | true =>
          cases given : Literal.ofText rules.reserved token.text with
          | error objection =>
              simp only [isValue, given] at stepped ⊢
              exact .stopAfter stepped front'
          | ok read =>
              simp only [isValue, given] at stepped ⊢
              exact .cons (Draft.step_eq_advance_iff.mp stepped) (.pure rfl front')

/-- The values of a list, up to its closing parenthesis. -/
theorem values_follows {rules : Rules} (turns : Nat) {before : List Literal}
    (enough : rest.length < turns)
    (waits : ∀ token ∈ rest.head?, draft.step rules token =
      Draft.stepValue rules.reserved token
        fun value => ⟨groups, chains, .listValue named (value :: before)⟩)
    (ends : draft.finish = .error (.unclosedList named))
    (front : InFront tokens rest depth cursor) :
    Follows tokens rules depth draft rest
      (fun values last _ => last = ⟨groups, chains, .complete (.oneOf named values)⟩)
      (values rules.reserved tokens named turns before cursor) := by
  induction turns generalizing draft rest before cursor with
  | zero => cases enough
  | succ turns ih =>
      rw [values, bind_of_ok (isAtEnd_eq front)]
      cases rest with
      | nil => exact .finish ends rfl front
      | cons token rest =>
          simp only [List.isEmpty_cons, Bool.false_eq_true, if_false]
          refine (value_follows addressable waits (by simp) front).bind ?_
          rintro read _ left after rfl shorter front
          rcases accept_cases .comma front with
            ⟨token, left, rfl, isComma, accepted⟩ | ⟨comma, refused⟩
          · rw [bind_of_ok accepted]
            refine .cons (.separate groups chains named _ isComma) (ih ?_ (fun _ _ => rfl) rfl ?_)
            · simp only [List.length_cons] at shorter enough
              omega
            · exact front.advance addressable
          rw [bind_of_ok refused]
          simp only [Bool.false_eq_true, if_false]
          rcases accept_cases .closing front with
            ⟨token, left, rfl, isClosing, accepted⟩ | ⟨closing, refused⟩
          · rw [bind_of_ok accepted]
            exact .cons (.closeList groups chains named _ isClosing)
              (.pure rfl (front.advance addressable))
          rw [bind_of_ok refused]
          cases left with
          | nil => exact .finish rfl rfl front
          | cons token left =>
              refine .stopBefore ?_ rfl front
              have notComma := comma token rfl
              have notClosing := closing token rfl
              simp only [Draft.step]

/-- A list of values behind its keyword. -/
theorem list_follows {rules : Rules} (front : InFront tokens rest depth cursor)
    (inside : rest.length < tokens.length) :
    Follows tokens rules depth ⟨groups, chains, .membership named⟩ rest
      (fun filter last _ => last = ⟨groups, chains, .complete filter⟩)
      (list rules.reserved tokens named cursor) := by
  cases rest with
  | nil =>
      rw [list, bind_of_ok (next_nil front)]
      exact .finish rfl rfl front
  | cons token rest =>
      have front' := front.advance addressable
      rw [list, bind_of_ok (next_cons front)]
      by_cases opens : token.kind = .opening
      · simp only [opens, ne_eq, not_true, if_false]
        refine .cons (.openList groups chains named opens) ?_
        rw [bind_of_ok (peek_eq front')]
        rcases accept_cases .closing front' with ⟨last, left, rfl, isClosing, -⟩ | ⟨other, -⟩
        · simp only [List.head?_cons, Option.any_some, isClosing, decide_true, if_true]
          exact .stopBefore (by simp only [Draft.step, isClosing]) rfl front'
        · -- the list is not empty, so its first token stands in the place of a value
          have begins : rest.head?.any (·.kind = .closing) = false := by
            cases first : rest.head? with
            | none => rfl
            | some token => simpa using other token first
          have waits : ∀ token ∈ rest.head?,
              Draft.step rules ⟨groups, chains, .listStart named⟩ token =
                Draft.stepValue rules.reserved token
                  fun value => ⟨groups, chains, .listValue named [value]⟩ := by
            intro token first
            have notClosing := other token first
            simp only [Draft.step]
          simp only [begins, Bool.false_eq_true, if_false]
          refine (values_follows addressable tokens.length ?_ waits rfl front').bind ?_
          · exact Nat.lt_trans (Nat.lt_succ_self _) inside
          · rintro read last left after rfl - front
            exact .pure rfl front
      · simp only [opens, ne_eq, not_false_iff, if_true]
        refine .stopAfter ?_ front'
        simp only [Draft.step]

/-- A field, where no negation and no group begins. -/
theorem field_follows {rules : Rules} {token : Token} (notNegation : token.kind ≠ .negation)
    (notOpening : token.kind ≠ .opening)
    (front : InFront tokens (token :: rest) depth cursor) :
    Follows tokens rules depth ⟨groups, chains, .operand lead⟩ (token :: rest)
      (fun named last left => last = ⟨groups, chains, .field named⟩ ∧ left = rest)
      (field rules.reserved tokens cursor) := by
  have front' := front.advance addressable
  rw [field, bind_of_ok (next_cons front)]
  cases kind : token.kind with
  | identifier =>
      cases allowed : Field.ofName rules.reserved token.text with
      | ok named =>
          simp only [kind, allowed]
          exact .cons (.nameField groups chains lead kind allowed) (.pure ⟨rfl, rfl⟩ front')
      | error objection =>
          simp only [kind, allowed]
          refine .stopAfter ?_ front'
          simp only [Draft.step, Draft.stepOperand, kind, allowed]
  | negation => exact absurd kind notNegation
  | opening => exact absurd kind notOpening
  | string | number | closing | comma | membership | connective | comparison =>
      simp only [kind]
      refine .stopAfter ?_ front'
      simp only [Draft.step, Draft.stepOperand, kind]

/-- A condition stands where a field does. -/
theorem condition_follows {rules : Rules} {token : Token}
    (notNegation : token.kind ≠ .negation) (notOpening : token.kind ≠ .opening)
    (front : InFront tokens (token :: rest) depth cursor) :
    Follows tokens rules depth ⟨groups, chains, .operand lead⟩ (token :: rest)
      (fun filter last _ => last = ⟨groups, chains, .complete filter⟩)
      (condition rules.reserved tokens cursor) := by
  rw [condition]
  refine (field_follows addressable notNegation notOpening front).bind ?_
  rintro named _ left after ⟨rfl, same⟩ - front'
  have inside := front.position_add
  rw [← same, List.length_cons] at inside
  cases left with
  | nil =>
      rw [bind_of_ok (peek_eq front')]
      exact .finish rfl rfl front'
  | cons operator left =>
      rw [bind_of_ok (peek_eq front')]
      have front'' := front'.advance addressable
      cases kind : operator.kind with
      | membership =>
          simp only [List.head?_cons, kind]
          rw [bind_of_ok (modify_advance _)]
          refine .cons (.beginMembership groups chains named kind) ?_
          refine list_follows addressable front'' ?_
          rw [List.length_cons] at inside
          omega
      | comparison sign =>
          simp only [List.head?_cons, kind]
          rw [bind_of_ok (modify_advance _)]
          refine .cons (.compare groups chains named kind) ?_
          refine (value_follows addressable (fun _ _ => rfl) (fun _ => rfl) front'').bind ?_
          rintro read _ left after rfl - front
          exact .pure rfl front
      | identifier | string | number | opening | closing | comma | negation | connective =>
          simp only [List.head?_cons, kind]
          refine .stopBefore ?_ rfl front'
          simp only [Draft.step, Draft.stepOperator, kind]

/-- The negations in front of an operand. Behind them something else follows, and if nothing
follows there were none. -/
theorem negations_follow {rules : Rules} {alternatives conjunction : Option Filter}
    (turns : Nat) {count : Int32} (enough : rest.length ≤ turns) (begins : rest = [] → lead = none)
    (front : InFront tokens rest depth cursor) :
    Follows tokens rules depth ⟨groups, ⟨alternatives, conjunction, count⟩, .operand lead⟩ rest
      (fun count last left => ∃ lead,
        last = ⟨groups, ⟨alternatives, conjunction, count⟩, .operand lead⟩ ∧
          (left = [] → lead = none) ∧ ∀ token ∈ left.head?, token.kind ≠ .negation)
      (negations tokens turns count cursor) := by
  induction turns generalizing count lead rest cursor with
  | zero =>
      obtain rfl : rest = [] := List.length_eq_zero_iff.mp (Nat.le_zero.mp enough)
      exact .pure ⟨lead, rfl, begins, nofun⟩ front
  | succ turns ih =>
      rw [negations]
      rcases accept_cases .negation front with
        ⟨token, rest, rfl, negates, accepted⟩ | ⟨other, refused⟩
      · have front' := front.advance addressable
        rw [bind_of_ok accepted]
        simp only [if_true]
        rw [bind_of_ok (isAtEnd_eq front')]
        refine .cons (.negate groups _ lead negates) ?_
        cases rest with
        | nil => exact .finish rfl rfl front'
        | cons token rest => exact ih (Nat.le_of_succ_le_succ enough) nofun front'
      · rw [bind_of_ok refused]
        exact .pure ⟨lead, rfl, begins, other⟩ front

end Parts

/-! ### Groups and chains -/

/-- The draft ends with an operand, whose negations are those that were counted. -/
def ReadsOperand (groups : List OpenGroup) (alternatives conjunction : Option Filter)
    (read : Filter) (last : Draft) : Prop :=
  ∃ count inner, last = ⟨groups, ⟨alternatives, conjunction, count⟩, .complete inner⟩ ∧
    read = inner.negated count.toInt.toNat

/-- The draft ends with a conjunction. -/
def ReadsConjunction (groups : List OpenGroup) (alternatives : Option Filter)
    (read : Filter) (last : Draft) : Prop :=
  ∃ chains inner, last = ⟨groups, chains, .complete inner⟩ ∧
    chains.alternatives = alternatives ∧ read = chains.conjoin inner

/-- The draft ends with a disjunction. -/
def ReadsDisjunction (groups : List OpenGroup) (read : Filter) (last : Draft) : Prop :=
  ∃ chains inner, last = ⟨groups, chains, .complete inner⟩ ∧ read = chains.close inner

/-- The connective does not stand at the front of the tokens. -/
def NotBefore (joint : Connective) (left : List Token) : Prop :=
  ∀ token ∈ left.head?, token.kind ≠ .connective joint

/-- A complete operand is not extended by a token that neither joins it nor closes the group
around it. -/
theorem step_surplus {rules : Rules} {groups : List OpenGroup} {chains : Chains}
    {operand : Filter} {token : Token} (notAnd : token.kind ≠ .connective .and)
    (notOr : token.kind ≠ .connective .or) (outside : token.kind = .closing → groups = []) :
    Draft.step rules ⟨groups, chains, .complete operand⟩ token =
      .stopBefore (Draft.surplus ⟨groups, chains, .complete operand⟩ token) := by
  simp only [Draft.step, Draft.stepComplete]
  split
  · next joint joins => cases joint <;> contradiction
  · next closes =>
      obtain rfl := outside closes
      rfl
  · rfl

section Expressions

variable {tokens rest : List Token} {limit : UInt64} {rules : Rules} {depth most : Nat}
  {draft : Draft} {cursor : Cursor} {groups : List OpenGroup} {chains : Chains}
  {lead : Option Lead} {part : Reader Filter} {left : Filter}
  (addressable : tokens.length < 2 ^ 64)

include addressable

/-- The loop over the parts of a chain, if each of them is read behind its connective as the
part of the chain that comes next. -/
theorem chainFrom_follows {joint : Connective} (reads : Filter → Draft → List Token → Prop)
    (goesOn : ∀ {left draft token rest cursor}, reads left draft (token :: rest) →
      token.kind = .connective joint → rest.length < most →
      InFront tokens rest depth cursor →
      ∃ next, Draft.Advances rules draft token next ∧
        next.finish = .error (.missingOperand (.connective joint)) ∧
        (rest ≠ [] → Follows tokens rules depth next rest
          (fun right => reads (.binary joint left right)) (part cursor)))
    (turns : Nat) (enough : rest.length ≤ turns) (few : rest.length ≤ most)
    (has : reads left draft rest) (front : InFront tokens rest depth cursor) :
    Follows tokens rules depth draft rest
      (fun read last left => reads read last left ∧ NotBefore joint left)
      (chainFrom tokens joint part turns left cursor) := by
  induction turns generalizing rest draft left cursor with
  | zero =>
      obtain rfl : rest = [] := List.length_eq_zero_iff.mp (Nat.le_zero.mp enough)
      exact .pure ⟨has, nofun⟩ front
  | succ turns ih =>
      rw [chainFrom]
      rcases accept_cases (.connective joint) front with
        ⟨token, rest, rfl, joins, accepted⟩ | ⟨other, refused⟩
      · have front' := front.advance addressable
        obtain ⟨next, advances, unfinished, follows⟩ := goesOn has joins few front'
        rw [bind_of_ok accepted]
        simp only [if_true]
        rw [bind_of_ok (isAtEnd_eq front')]
        refine .cons advances ?_
        cases rest with
        | nil => exact .finish unfinished rfl front'
        | cons token rest =>
            refine (follows (List.cons_ne_nil _ _)).bind ?_
            intro right last left after has shorter front
            refine ih ?_ ?_ has front
            · exact Nat.le_trans shorter (Nat.le_of_succ_le_succ enough)
            · exact Nat.le_trans shorter (Nat.le_of_succ_le few)
      · rw [bind_of_ok refused]
        exact .pure ⟨has, other⟩ front

/-- A conjunction, if its operands are read behind any conjunction. -/
theorem conjunction_follows {alternatives : Option Filter}
    (operands : ∀ {conjunction lead rest cursor}, rest.length ≤ most → (rest = [] → lead = none) →
      InFront tokens rest depth cursor →
      Follows tokens rules depth ⟨groups, ⟨alternatives, conjunction, 0⟩, .operand lead⟩ rest
        (fun read last _ => ReadsOperand groups alternatives conjunction read last) (part cursor))
    (few : rest.length ≤ most) (begins : rest = [] → lead = none)
    (front : InFront tokens rest depth cursor) :
    Follows tokens rules depth ⟨groups, ⟨alternatives, none, 0⟩, .operand lead⟩ rest
      (fun read last left => ReadsConjunction groups alternatives read last ∧ NotBefore .and left)
      (chain tokens .and part cursor) := by
  rw [chain]
  refine (operands few begins front).bind ?_
  rintro _ _ left after ⟨count, inner, rfl, rfl⟩ shorter front'
  refine chainFrom_follows addressable
    (fun read last _ => ReadsConjunction groups alternatives read last) ?_ tokens.length
    front'.length_le (Nat.le_trans shorter few) ⟨_, inner, rfl, rfl, rfl⟩ front'
  -- behind a connective the next operand is read as the first one was
  rintro _ _ token rest cursor ⟨chains, inner, rfl, rfl, rfl⟩ joins few front
  refine ⟨_, .join groups chains inner joins, rfl, fun nonempty => ?_⟩
  refine (operands (Nat.le_of_lt few) (absurd · nonempty) front).imp ?_
  rintro _ _ _ ⟨count, operand, rfl, rfl⟩
  exact ⟨_, operand, rfl, rfl, rfl⟩

/-- A disjunction, if its conjunctions are read behind any disjunction. -/
theorem disjunction_follows
    (conjunctions : ∀ {alternatives lead rest cursor}, rest.length ≤ most →
      (rest = [] → lead = none) → InFront tokens rest depth cursor →
      Follows tokens rules depth ⟨groups, ⟨alternatives, none, 0⟩, .operand lead⟩ rest
        (fun read last left => ReadsConjunction groups alternatives read last ∧
          NotBefore .and left) (part cursor))
    (few : rest.length ≤ most) (begins : rest = [] → lead = none)
    (front : InFront tokens rest depth cursor) :
    Follows tokens rules depth ⟨groups, .empty, .operand lead⟩ rest
      (fun read last left => (ReadsDisjunction groups read last ∧ NotBefore .and left) ∧
        NotBefore .or left) (chain tokens .or part cursor) := by
  rw [chain]
  refine (conjunctions few begins front).bind ?_
  rintro _ _ left after ⟨⟨⟨_, _, _⟩, inner, rfl, rfl, rfl⟩, stops⟩ shorter front'
  refine chainFrom_follows addressable
    (fun read last left => ReadsDisjunction groups read last ∧ NotBefore .and left) ?_
    tokens.length front'.length_le (Nat.le_trans shorter few) ⟨⟨_, inner, rfl, rfl⟩, stops⟩ front'
  rintro _ _ token rest cursor ⟨⟨chains, inner, rfl, rfl⟩, -⟩ joins few front
  refine ⟨_, .join groups chains inner joins, rfl, fun nonempty => ?_⟩
  refine (conjunctions (Nat.le_of_lt few) (absurd · nonempty) front).imp ?_
  rintro _ _ _ ⟨⟨⟨_, _, _⟩, operand, rfl, rfl, rfl⟩, stops⟩
  exact ⟨⟨_, operand, rfl, rfl⟩, stops⟩

/-- An operand with its negations, if what stands behind them is read. -/
theorem operand_follows {alternatives conjunction : Option Filter} {primary : Reader Filter}
    (primaries : ∀ {chains lead rest cursor}, rest.length ≤ most → (rest = [] → lead = none) →
      (∀ token ∈ rest.head?, token.kind ≠ .negation) → InFront tokens rest depth cursor →
      Follows tokens rules depth ⟨groups, chains, .operand lead⟩ rest
        (fun read last _ => last = ⟨groups, chains, .complete read⟩) (primary cursor))
    (few : rest.length ≤ most) (begins : rest = [] → lead = none)
    (front : InFront tokens rest depth cursor) :
    Follows tokens rules depth ⟨groups, ⟨alternatives, conjunction, 0⟩, .operand lead⟩ rest
      (fun read last _ => ReadsOperand groups alternatives conjunction read last)
      (operand tokens primary cursor) := by
  rw [operand]
  refine (negations_follow addressable tokens.length front.length_le begins front).bind ?_
  rintro count _ left after ⟨lead, rfl, begins, other⟩ shorter front
  refine (primaries (Nat.le_trans shorter few) begins other front).bind ?_
  rintro inner _ left after rfl - front
  exact .pure ⟨count, inner, rfl, rfl⟩ front

/-- A condition or a group, if the expression inside of a group is read. -/
theorem primary_follows {expression : Reader Filter} (capped : rules.limit = limit.toNat)
    (inside : ∀ {groups rest cursor}, rest.length < most →
      InFront tokens rest (rules.depth + groups.length) cursor →
      Follows tokens rules (rules.depth + groups.length) ⟨groups, .empty, .operand none⟩ rest
        (fun read last left => (ReadsDisjunction groups read last ∧ NotBefore .and left) ∧
          NotBefore .or left) (expression cursor))
    (few : rest.length ≤ most) (begins : rest = [] → lead = none)
    (notNegation : ∀ token ∈ rest.head?, token.kind ≠ .negation)
    (front : InFront tokens rest (rules.depth + groups.length) cursor) :
    Follows tokens rules (rules.depth + groups.length) ⟨groups, chains, .operand lead⟩ rest
      (fun read last _ => last = ⟨groups, chains, .complete read⟩)
      (primary rules.reserved tokens limit expression cursor) := by
  cases rest with
  | nil =>
      obtain rfl := begins rfl
      rw [primary, bind_of_ok (peek_eq front)]
      exact .finish rfl rfl front
  | cons token rest =>
      rw [primary, bind_of_ok (peek_eq front)]
      by_cases opens : token.kind = .opening
      · have front' := front.deepen addressable
        have counts := front'.counts
        simp only [List.head?_cons, opens, if_true]
        rw [bind_of_ok (modify_advance _)]
        by_cases full : limit < cursor.advance.deepen.depth
        · have refused : nested limit expression cursor.advance =
              .error (.nestingTooDeep rules.limit) cursor.advance.deepen := by
            simp only [nested, full, if_true, capped]
          rw [bind_of_error refused]
          rw [UInt64.lt_iff_toNat_lt, counts, ← capped] at full
          refine .stopAfter ?_ front'
          simp only [Draft.step, Draft.stepOperand, opens, full, if_true]
        · have room := full
          rw [UInt64.lt_iff_toNat_lt, counts, ← capped, Nat.not_lt] at room
          refine .cons (.openGroup groups chains lead opens room) ?_
          have follows := @inside (⟨token.span, chains⟩ :: groups) rest _ few front'
          refine (nested_follows full follows).bind ?_
          rintro _ _ left after ⟨⟨⟨ends, operand, rfl, rfl⟩, notAnd⟩, notOr⟩ - front
          rcases accept_cases .closing front with
            ⟨token, left, rfl, closes, accepted⟩ | ⟨other, refused⟩
          · rw [bind_of_ok accepted]
            exact .cons (.closeGroup _ groups ends operand closes)
              (.pure rfl (front.advance addressable))
          · rw [bind_of_ok refused]
            cases left with
            | nil => exact .finish rfl rfl front
            | cons token left =>
                have notClosing := other token rfl
                refine .stopBefore ?_ rfl front
                exact step_surplus (notAnd token rfl) (notOr token rfl) (absurd · notClosing)
      · simp only [List.head?_cons, opens, if_false]
        exact condition_follows addressable (notNegation token rfl) opens front

/-- An expression, wherever it begins. No more groups lie within one another than tokens are
left. -/
theorem expression_follows (capped : rules.limit = limit.toNat) (levels : Nat)
    (few : rest.length ≤ levels)
    (front : InFront tokens rest (rules.depth + groups.length) cursor) :
    Follows tokens rules (rules.depth + groups.length) ⟨groups, .empty, .operand none⟩ rest
      (fun read last left => (ReadsDisjunction groups read last ∧ NotBefore .and left) ∧
        NotBefore .or left) (expression rules.reserved tokens limit levels cursor) := by
  induction levels generalizing groups rest cursor with
  | zero =>
      obtain rfl : rest = [] := List.length_eq_zero_iff.mp (Nat.le_zero.mp few)
      exact .finish rfl rfl front
  | succ levels ih =>
      -- the draft is general in its groups, since inside of a group one more of them is open
      rw [expression]
      refine disjunction_follows addressable ?_ few (fun _ => rfl) front
      refine fun few begins front => conjunction_follows addressable ?_ few begins front
      refine fun few begins front => operand_follows addressable ?_ few begins front
      refine fun few begins other front =>
        primary_follows addressable capped ?_ few begins other front
      exact fun few front => ih (Nat.le_of_lt_succ few) front

/-- An expression that takes up all tokens. -/
theorem whole_follows (capped : rules.limit = limit.toNat)
    (front : InFront tokens rest rules.depth cursor) :
    Follows tokens rules rules.depth .start rest
      (fun read last left => last.finish = .ok read ∧ left = [])
      (whole rules.reserved tokens limit cursor) := by
  rw [whole, bind_of_ok (isAtEnd_eq front)]
  cases rest with
  | nil => exact .finish rfl rfl front
  | cons token rest =>
      simp only [List.isEmpty_cons, Bool.false_eq_true, if_false]
      have follows := @expression_follows _ _ _ rules _ [] addressable capped _ front.length_le front
      refine follows.bind ?_
      rintro _ _ left after ⟨⟨⟨chains, operand, rfl, rfl⟩, notAnd⟩, notOr⟩ - front
      rw [bind_of_ok (peek_eq front)]
      cases left with
      | nil => exact .pure ⟨rfl, rfl⟩ front
      | cons token left =>
          refine .stopBefore ?_ rfl front
          exact step_surplus (notAnd token rfl) (notOr token rfl) fun _ => rfl

end Expressions

/-! ### The parsers as a whole -/

/-- The parser that builds a draft, at the same place and under the same limit. -/
def parser (descent : Descent) : Parser :=
  { rules := ⟨descent.reserved, descent.limit.toNat, descent.cursor.depth.toNat⟩
    rest := descent.tokens.drop descent.cursor.position.toNat }

/-- The cursor stands in front of a token or behind the last one, not more groups count as
open than tokens stand behind it, and the count has never wrapped around. -/
def Sound (descent : Descent) : Prop :=
  InFront descent.tokens descent.parser.rest descent.parser.rules.depth descent.cursor

/-- A parser by recursive descent answers what the one that builds a draft answers, and both
are then at the same place. -/
theorem parse_eq {descent : Descent} (addressable : descent.tokens.length < 2 ^ 64)
    (sound : descent.Sound) :
    descent.parse.1 = descent.parser.parse.1 ∧
      descent.parse.2.parser = descent.parser.parse.2 ∧ descent.parse.2.Sound := by
  have ends {outcome : Except SyntaxError Filter} {left : List Token} {cursor : Cursor}
      (ran : Draft.start.run descent.parser.rules descent.parser.rest = (outcome, left))
      (front : InFront descent.tokens left
        (Parser.depthAfter descent.parser.rules.depth outcome) cursor) :
      outcome = descent.parser.parse.1 ∧
        parser { descent with cursor } = descent.parser.parse.2 ∧
        Sound { descent with cursor } := by
    have drops : descent.tokens.drop cursor.position.toNat = left := front.drop_eq
    refine ⟨by rw [Parser.parse, ran], ?_, ?_⟩
    · rw [Parser.parse, ran, parser, drops, front.counts]
      rfl
    · have counts := front.counts
      rw [← counts] at front
      rwa [Sound, parser, drops]
  have follows := @whole_follows _ _ _ descent.parser.rules _ addressable rfl sound
  rw [parse]
  cases outcome : whole descent.reserved descent.tokens descent.limit descent.cursor with
  | ok filter cursor =>
      rw [show whole descent.parser.rules.reserved _ _ _ = _ from outcome] at follows
      obtain ⟨last, left, ⟨finished, rfl⟩, -, front, ran⟩ := follows
      rw [Draft.run, finished] at ran
      exact ends ran front
  | error error cursor =>
      rw [show whole descent.parser.rules.reserved _ _ _ = _ from outcome] at follows
      obtain ⟨left, ran, front⟩ := follows
      exact ends ran front

end WhereClause.Descent
