/-
# The first token that no filter can have

A parser reports an error where it stops, and it stops at the right place: what it
has read before can still be continued to a filter, and together with the token that
it stops at it cannot, whatever comes after.

For the first half, every draft is completed by some tokens, under all reserved
words and limits. There is always a name that is not reserved, a number is always a
value, and parentheses that are open can be closed; none of this opens another
group. The second half is that a step looks at one token only. What is missing at
the end is reported only there, and what an error repeats of a token it repeats of
the one that it was found at.
-/

import WhereClause.Proofs.Draft.Induction
import WhereClause.Proofs.Field

namespace WhereClause

namespace SyntaxError

/-- The error says that something is missing after the last token. -/
def IsAtEnd : SyntaxError → Prop
  | .unexpectedEnd _ | .missingOperand _ | .unclosedGroup _ | .unclosedList _ => True
  | _ => False

/-- The error may be reported at this token. Whatever it repeats of a token it repeats
of this one, and each of the other errors fits the kind of the token. That an operand
or anything else is missing is reported at no token. -/
def IsAbout (token : Token) : SyntaxError → Prop
  | .unexpectedToken found span | .unsupportedOperator found span | .trailingTokens found span =>
    found = token.text ∧ span = token.span
  | .invalidField text _ | .invalidValue text _ => text = token.text
  | .nestingTooDeep _ => token.kind = .opening
  | .emptyList _ => token.kind = .closing
  | .unclosedGroup _ => token.kind ≠ .closing ∧ ∀ joint, token.kind ≠ .connective joint
  | .unclosedList _ => token.kind ≠ .closing ∧ token.kind ≠ .comma
  | .unexpectedEnd _ | .missingOperand _ => False

end SyntaxError

namespace Filter

/-- The error that a step ends with, if it extends no draft. -/
def Step.error? : Step → Option SyntaxError
  | .advance _ => none
  | .stopAfter error | .stopBefore error => some error

namespace Draft

section Refusals

variable {rules : Rules} {draft : Draft} {token : Token} {error : SyntaxError}

/-- A token that does not extend the draft ends the run, whatever follows it. -/
theorem run_cons_of_error? (refused : (draft.step rules token).error? = some error)
    (rest : List Token) : (draft.run rules (token :: rest)).1 = .error error := by
  rw [run]
  cases stepped : draft.step rules token with
  | advance next =>
      rw [stepped] at refused
      cases refused
  | stopAfter reason | stopBefore reason =>
      rw [stepped] at refused
      cases refused
      rfl

/-- A token that is refused in the place of a value is reported with its own text. -/
theorem isAbout_of_stepValue {reserved : ReservedWords} {next : Literal → Draft}
    (refused : (stepValue reserved token next).error? = some error) : error.IsAbout token := by
  unfold stepValue at refused
  split at refused
  · split at refused
    · cases refused
    · cases refused
      rfl
  · cases refused
    rfl

/-- Whatever has been read, the error at a token is about that token. -/
theorem isAbout_of_step (refused : (draft.step rules token).error? = some error) :
    error.IsAbout token := by
  obtain ⟨groups, chains, phase⟩ := draft
  cases phase with
  | operand lead =>
      simp only [step, stepOperand] at refused
      split at refused
      · cases refused
      · next kind =>
          split at refused <;> cases refused
          exact kind
      · split at refused <;> cases refused
        rfl
      · cases refused
        rfl
      · cases refused
        rfl
      · cases refused
        exact ⟨rfl, rfl⟩
  | field named =>
      simp only [step, stepOperator] at refused
      split at refused <;> cases refused
      exact ⟨rfl, rfl⟩
  | comparison named sign => exact isAbout_of_stepValue refused
  | membership named =>
      simp only [step] at refused
      split at refused <;> cases refused
      exact ⟨rfl, rfl⟩
  | listStart named =>
      simp only [step] at refused
      split at refused
      · next kind =>
          cases refused
          exact kind
      · exact isAbout_of_stepValue refused
  | listValue named values =>
      simp only [step] at refused
      split at refused
      · cases refused
      · cases refused
      · next notComma notClosing =>
          cases refused
          exact ⟨notClosing, notComma⟩
  | listComma named values => exact isAbout_of_stepValue refused
  | complete operand =>
      simp only [step, stepComplete] at refused
      split at refused
      · cases refused
      · split at refused <;> cases refused
        exact ⟨rfl, rfl⟩
      · next notJoint notClosing =>
          cases refused
          cases groups with
          | nil => exact ⟨rfl, rfl⟩
          | cons => exact ⟨notClosing, notJoint⟩

/-- Where the tokens end, only something missing is reported. -/
theorem isAtEnd_of_finish (unfinished : draft.finish = .error error) : error.IsAtEnd := by
  obtain ⟨groups, chains, phase⟩ := draft
  unfold finish at unfinished
  cases phase with
  | operand lead => cases lead <;> cases unfinished <;> exact True.intro
  | complete operand =>
      cases groups with
      | nil => cases unfinished
      | cons =>
          cases unfinished
          exact True.intro
  | field | comparison | membership | listStart | listValue | listComma =>
      cases unfinished
      exact True.intro

end Refusals

/-- The tokens that have been read no longer matter where the run goes on. -/
theorem Reaches.run_append {rules : Rules} {start draft : Draft} {done : List Token}
    (reached : Reaches rules start done draft) (rest : List Token) :
    start.run rules (done ++ rest) = draft.run rules rest := by
  induction reached generalizing rest with
  | start => rfl
  | advance _ advances ih =>
      rw [List.append_assoc, ih]
      exact advances.run_cons rest

/-- Where no token follows, the run ends with what the draft amounts to. -/
theorem Reaches.run_eq_finish {rules : Rules} {start draft : Draft} {done : List Token}
    (reached : Reaches rules start done draft) : (start.run rules done).1 = draft.finish := by
  have ran := reached.run_append []
  rw [List.append_nil] at ran
  exact congrArg Prod.fst ran

/-- A run comes to the end of the tokens, or to a first one that it refuses. -/
theorem Reaches.end_or_refusal {rules : Rules} {start draft : Draft} {done : List Token}
    (reached : Reaches rules start done draft) (tokens : List Token) :
    (∃ last, Reaches rules start (done ++ tokens) last) ∨
      ∃ read token rest last error, tokens = read ++ token :: rest ∧
        Reaches rules start (done ++ read) last ∧
        (last.step rules token).error? = some error := by
  induction tokens generalizing draft done with
  | nil => exact .inl ⟨draft, by simpa using reached⟩
  | cons token tokens ih =>
      cases stepped : draft.step rules token with
      | advance next =>
          have further := reached.advance (step_eq_advance_iff.mp stepped)
          rcases ih further with
            ⟨last, whole⟩ | ⟨read, culprit, rest, last, error, rfl, reachedLast, refused⟩
          · exact .inl ⟨last, by simpa using whole⟩
          · refine .inr ⟨token :: read, culprit, rest, last, error, rfl, ?_, refused⟩
            simpa using reachedLast
      | stopAfter error | stopBefore error =>
          exact .inr ⟨[], token, tokens, draft, error, rfl, by simpa using reached,
            by rw [stepped]; rfl⟩

/-! ### Completing a draft -/

/-- Some tokens take the draft to a filter. -/
def Completable (rules : Rules) (draft : Draft) : Prop :=
  ∃ more filter, (draft.run rules more).1 = .ok filter

section Completions

variable {rules : Rules} {groups : List OpenGroup} {chains : Chains}

/-- A token brings a draft nearer to its completion. -/
theorem Advances.completable {draft next : Draft} {token : Token}
    (advances : Advances rules draft token next) (completable : next.Completable rules) :
    draft.Completable rules := by
  obtain ⟨more, filter, completed⟩ := completable
  exact ⟨token :: more, filter, by rw [advances.run_cons, completed]⟩

/-- A token of some kind, as it is written. -/
def mark (kind : TokenKind) (text : String) : Token :=
  { kind, text, span := ⟨0, 0⟩ }

/-- The number one is a value. -/
theorem gives_one (reserved : ReservedWords) : Gives reserved (mark .number "1") ⟨"1"⟩ :=
  ⟨rfl, rfl⟩

/-- A complete operand is completed by closing the groups around it. -/
theorem completable_complete (operand : Filter) :
    Completable rules ⟨groups, chains, .complete operand⟩ := by
  induction groups generalizing chains operand with
  | nil => exact ⟨[], chains.close operand, rfl⟩
  | cons innermost outer ih =>
      have closes : (mark .closing ")").kind = .closing := rfl
      exact (Advances.closeGroup innermost outer chains operand closes).completable (ih _)

/-- A list with a value in it is completed by closing it. -/
theorem completable_listValue (named : Field) (values : List Literal) :
    Completable rules ⟨groups, chains, .listValue named values⟩ := by
  have closes : (mark .closing ")").kind = .closing := rfl
  exact (Advances.closeList groups chains named values closes).completable (completable_complete _)

/-- A list that has been opened is completed by a value. -/
theorem completable_listStart (named : Field) :
    Completable rules ⟨groups, chains, .listStart named⟩ :=
  (Advances.firstValue groups chains named (gives_one _)).completable (completable_listValue _ _)

/-- A comparison is completed by a value. -/
theorem completable_comparison (named : Field) (sign : Comparison) :
    Completable rules ⟨groups, chains, .comparison named sign⟩ :=
  (Advances.compareWith groups chains named sign (gives_one _)).completable
    (completable_complete _)

/-- A field is completed by a comparison. -/
theorem completable_field (named : Field) :
    Completable rules ⟨groups, chains, .field named⟩ := by
  have compares : (mark (.comparison .equal) "eq").kind = .comparison .equal := rfl
  exact (Advances.compare groups chains named compares).completable (completable_comparison _ _)

/-- Every draft can be completed, whatever is reserved and however many groups are
open already: no completion needs another group. -/
theorem completable (rules : Rules) (draft : Draft) : draft.Completable rules := by
  obtain ⟨groups, chains, phase⟩ := draft
  cases phase with
  | operand lead =>
      obtain ⟨word, named, allowed⟩ := Field.exists_ofName_eq_ok rules.reserved
      have identifies : (mark .identifier word).kind = .identifier := rfl
      exact (Advances.nameField groups chains lead identifies allowed).completable
        (completable_field named)
  | field named => exact completable_field named
  | comparison named sign => exact completable_comparison named sign
  | membership named =>
      have opens : (mark .opening "(").kind = .opening := rfl
      exact (Advances.openList groups chains named opens).completable (completable_listStart named)
  | listStart named => exact completable_listStart named
  | listValue named values => exact completable_listValue named values
  | listComma named values =>
      exact (Advances.nextValue groups chains named values (gives_one _)).completable
        (completable_listValue _ _)
  | complete operand => exact completable_complete operand

end Completions

end Draft

/-- Some tokens continue these to a filter. -/
def Extendable (reserved : ReservedWords) (limit : Nat) (tokens : List Token) : Prop :=
  ∃ more filter, ofTokens reserved limit (tokens ++ more) = .ok filter

/-- Of all fronts of the tokens that can be continued to a filter, this is the
longest. -/
structure LongestExtendable (reserved : ReservedWords) (limit : Nat)
    (tokens read : List Token) : Prop where
  front : read <+: tokens
  extendable : Extendable reserved limit read
  longest : ∀ other, other <+: tokens → Extendable reserved limit other →
    other.length ≤ read.length

section Extendable

variable {reserved : ReservedWords} {limit : Nat} {tokens read : List Token} {draft : Draft}

/-- Tokens that lead to a draft can be continued to a filter. -/
theorem extendable_of_reaches (reached : Draft.Reaches ⟨reserved, limit, 0⟩ .start read draft) :
    Extendable reserved limit read := by
  obtain ⟨more, filter, completed⟩ := draft.completable ⟨reserved, limit, 0⟩
  refine ⟨more, filter, ?_⟩
  rw [← completed, ← reached.run_append more]
  rfl

/-- After a token that is refused no filter is possible, and the error is the same
whatever comes after. -/
theorem ofTokens_of_refusal {token : Token} {error : SyntaxError}
    (reached : Draft.Reaches ⟨reserved, limit, 0⟩ .start read draft)
    (refused : (draft.step ⟨reserved, limit, 0⟩ token).error? = some error)
    (rest : List Token) :
    ofTokens reserved limit (read ++ token :: rest) = .error error := by
  rw [← Draft.run_cons_of_error? refused rest, ← reached.run_append (token :: rest)]
  rfl

/-- Tokens that can be continued to a filter lead to a draft. -/
theorem exists_reaches_of_extendable (extendable : Extendable reserved limit tokens) :
    ∃ draft, Draft.Reaches ⟨reserved, limit, 0⟩ .start tokens draft := by
  obtain ⟨more, filter, accepted⟩ := extendable
  have started : Draft.Reaches ⟨reserved, limit, 0⟩ .start [] .start := .start
  rcases started.end_or_refusal tokens with
    ⟨last, reached⟩ | ⟨read, token, rest, last, error, rfl, reached, refused⟩
  · exact ⟨last, reached⟩
  · rw [List.nil_append] at reached
    have failed := ofTokens_of_refusal reached refused (rest ++ more)
    rw [List.append_assoc, List.cons_append, failed] at accepted
    cases accepted

/-- The longest front is the only one. -/
theorem LongestExtendable.unique {other : List Token}
    (first : LongestExtendable reserved limit tokens read)
    (second : LongestExtendable reserved limit tokens other) : other = read := by
  have same : other.length = read.length :=
    Nat.le_antisymm (first.longest _ second.front second.extendable)
      (second.longest _ first.front first.extendable)
  exact (List.prefix_of_prefix_length_le second.front first.front (Nat.le_of_eq same)).eq_of_length
    same

/-- Tokens that lead to a draft are all part of the longest front. -/
theorem longestExtendable_of_reaches
    (reached : Draft.Reaches ⟨reserved, limit, 0⟩ .start tokens draft) :
    LongestExtendable reserved limit tokens tokens :=
  ⟨List.prefix_rfl, extendable_of_reaches reached, fun _ front _ => front.length_le⟩

/-- The longest front stops in front of the token that is refused. -/
theorem longestExtendable_of_refusal {token : Token} {rest : List Token} {error : SyntaxError}
    (reached : Draft.Reaches ⟨reserved, limit, 0⟩ .start read draft)
    (refused : (draft.step ⟨reserved, limit, 0⟩ token).error? = some error) :
    LongestExtendable reserved limit (read ++ token :: rest) read := by
  refine ⟨List.prefix_append _ _, extendable_of_reaches reached, ?_⟩
  rintro other front ⟨more, filter, accepted⟩
  -- a longer front has the refused token in it
  refine Nat.le_of_not_lt fun longer => ?_
  have reaches : read ++ [token] <+: read ++ token :: rest := ⟨rest, by simp⟩
  have within : read ++ [token] <+: other := by
    refine List.prefix_of_prefix_length_le reaches front ?_
    rw [List.length_append, List.length_singleton]
    omega
  obtain ⟨between, rfl⟩ := within
  have failed := ofTokens_of_refusal reached refused (between ++ more)
  rw [List.append_assoc, List.append_assoc, List.singleton_append, failed] at accepted
  cases accepted

end Extendable

/-- A parser that rejects some tokens does so at the first of them that no filter can
have in its place, under all reserved words and every limit. There is one longest
front of the tokens that can be continued to a filter. If that is all of them, the
error says what is missing at the end. Otherwise the error is about the token after
it, and it is the same whatever follows that token. -/
theorem rejected_at_first_hopeless_token {reserved : ReservedWords} {limit : Nat}
    {tokens : List Token} {error : SyntaxError}
    (rejected : ofTokens reserved limit tokens = .error error) :
    ∃ read, (∀ other, LongestExtendable reserved limit tokens other ↔ other = read) ∧
      (read = tokens → error.IsAtEnd) ∧
      ∀ token rest, tokens = read ++ token :: rest →
        error.IsAbout token ∧
          ∀ other, ofTokens reserved limit (read ++ token :: other) = .error error := by
  have only {read : List Token} (longest : LongestExtendable reserved limit tokens read) :
      ∀ other, LongestExtendable reserved limit tokens other ↔ other = read := by
    refine fun other => ⟨longest.unique, ?_⟩
    rintro rfl
    exact longest
  have started : Draft.Reaches ⟨reserved, limit, 0⟩ .start [] .start := .start
  rcases started.end_or_refusal tokens with
    ⟨last, reached⟩ | ⟨read, token, rest, last, reason, rfl, reached, refused⟩
  · rw [List.nil_append] at reached
    refine ⟨tokens, only (longestExtendable_of_reaches reached), fun _ => ?_, ?_⟩
    · have finished : last.finish = .error error := by
        have ran := reached.run_append []
        rw [List.append_nil] at ran
        exact (congrArg Prod.fst ran).symm.trans rejected
      exact Draft.isAtEnd_of_finish finished
    · intro token rest split
      simp at split
  · rw [List.nil_append] at reached
    have failed := ofTokens_of_refusal reached refused
    obtain rfl : reason = error := by
      have same := (failed rest).symm.trans rejected
      exact Except.error.inj same
    refine ⟨read, only (longestExtendable_of_refusal reached refused), ?_, ?_⟩
    · intro all
      simp at all
    · intro culprit after split
      obtain ⟨rfl, rfl⟩ := List.cons.inj (List.append_cancel_left split)
      exact ⟨Draft.isAbout_of_step refused, failed⟩

/-- The tokens of `not userId in () or`, which go wrong at the second parenthesis. -/
def emptyMembership : List Token :=
  [⟨.negation, "not", ⟨0, 3⟩⟩, ⟨.identifier, "userId", ⟨4, 10⟩⟩, ⟨.membership, "in", ⟨11, 13⟩⟩,
   ⟨.opening, "(", ⟨14, 15⟩⟩, ⟨.closing, ")", ⟨15, 16⟩⟩, ⟨.connective .or, "or", ⟨17, 19⟩⟩]

/-- An empty list is found at its closing parenthesis, although the tokens also end too
early. No group may be opened here, and still the front can be continued. -/
theorem rejected_at_first_hopeless_token_emptyMembership :
    ofTokens .standard 0 emptyMembership = .error (.emptyList ⟨"user_id"⟩) ∧
      ∃ read, (∀ other, LongestExtendable .standard 0 emptyMembership other ↔ other = read) ∧
        (read = emptyMembership → (SyntaxError.emptyList ⟨"user_id"⟩).IsAtEnd) ∧
        ∀ token rest, emptyMembership = read ++ token :: rest →
          (SyntaxError.emptyList ⟨"user_id"⟩).IsAbout token ∧
            ∀ other, ofTokens .standard 0 (read ++ token :: other) =
              .error (.emptyList ⟨"user_id"⟩) := by
  have rejected : ofTokens .standard 0 emptyMembership = .error (.emptyList ⟨"user_id"⟩) := rfl
  exact ⟨rejected, rejected_at_first_hopeless_token rejected⟩

end Filter

end WhereClause
