/-
# A parser over its history

One parser can be asked many times, and its limit changed between the calls. Each call takes
up where the last one stopped, and groups that were refused go on counting as open. What a
parser has become is therefore a matter of its whole history, and what is proved here is that
little of it matters: of all the calls only their number of refusals is remembered, each of
them having used up a parenthesis, so that the count of open groups stays below the place that
has been reached.

A parser in the middle of its tokens is then as good as a new one in front of those that are
left, if its limit is lowered by the groups that count as open.
-/

import WhereClause.Proofs.Draft.Limit
import WhereClause.Proofs.Parser.Tracking

namespace WhereClause

open WhereClause.Filter

/-! ### What one run uses up -/

namespace Filter.Draft

section Run

variable {rules : Rules} {draft : Draft} {filter : Filter} {tokens rest : List Token}
  {token : Token}

/-- What a run leaves is an end of what it was given. -/
theorem run_suffix (rules : Rules) (draft : Draft) (tokens : List Token) :
    (draft.run rules tokens).2 <:+ tokens := by
  induction tokens generalizing draft with
  | nil => exact List.suffix_refl []
  | cons token tokens ih =>
      rw [run]
      cases draft.step rules token with
      | advance next => exact (ih next).trans (List.suffix_cons token tokens)
      | stopAfter error => exact List.suffix_cons token tokens
      | stopBefore error => exact List.suffix_refl _

/-- A run that amounts to a filter leaves nothing. -/
theorem run_rest_of_ok (read : (draft.run rules tokens).1 = .ok filter) :
    (draft.run rules tokens).2 = [] := by
  induction tokens generalizing draft with
  | nil => rfl
  | cons token tokens ih =>
      rw [run] at read ⊢
      cases stepped : draft.step rules token with
      | advance next =>
          simp only [stepped] at read ⊢
          exact ih read
      | stopAfter error | stopBefore error =>
          simp only [stepped] at read
          cases read

/-- In the place of an operand no token is refused without being used up. -/
theorem stepOperand_ne_stopBefore (rules : Rules) (draft : Draft) (token : Token)
    (error : SyntaxError) : draft.stepOperand rules token ≠ .stopBefore error := by
  intro refused
  unfold stepOperand at refused
  cases kind : token.kind with
  | opening =>
      by_cases full : rules.limit < rules.depth + draft.groups.length + 1 <;>
        simp [kind, full] at refused
  | identifier =>
      cases named : Field.ofName rules.reserved token.text <;> simp [kind, named] at refused
  | _ => simp [kind] at refused

/-- The first token is used up, whatever follows. -/
theorem run_start_suffix (rules : Rules) (token : Token) (rest : List Token) :
    (start.run rules (token :: rest)).2 <:+ rest := by
  rw [run]
  cases stepped : start.step rules token with
  | advance next => exact run_suffix rules next rest
  | stopAfter error => exact List.suffix_refl rest
  | stopBefore error => exact absurd stepped (stepOperand_ne_stopBefore rules start token error)

end Run

end Filter.Draft

/-! ### Histories -/

/-- The outcome is the refusal of a group that lies too deep. -/
def refusesGroup : Except SyntaxError Filter → Bool
  | .error (.nestingTooDeep _) => true
  | _ => false

theorem Parser.depthAfter_eq (depth : Nat) (outcome : Except SyntaxError Filter) :
    depthAfter depth outcome = depth + [outcome].countP refusesGroup := by
  cases outcome with
  | ok filter => rfl
  | error error => cases error <;> rfl

/-- A parser in front of some tokens becomes this one by calls with these outcomes, in this
order, and by changes of its limit. -/
inductive Parser.History (reserved : ReservedWords) (tokens : List Token) :
    List (Except SyntaxError Filter) → Parser → Prop
  | ofTokens : History reserved tokens [] (.ofTokens reserved tokens)
  | withLimit {outcomes : List (Except SyntaxError Filter)} {parser : Parser} (limit : Nat) :
      History reserved tokens outcomes parser →
      History reserved tokens outcomes (parser.withLimit limit)
  | parse {outcomes : List (Except SyntaxError Filter)} {parser : Parser} :
      History reserved tokens outcomes parser →
      History reserved tokens (outcomes ++ [parser.parse.1]) parser.parse.2

namespace Descent

/-- A parser by recursive descent in front of some tokens becomes this one by calls with these
outcomes, in this order, and by changes of its limit. -/
inductive History (reserved : ReservedWords) (tokens : List Token) :
    List (Except SyntaxError Filter) → Descent → Prop
  | ofTokens : History reserved tokens [] (.ofTokens reserved tokens)
  | withLimit {outcomes : List (Except SyntaxError Filter)} {descent : Descent} (limit : UInt64) :
      History reserved tokens outcomes descent →
      History reserved tokens outcomes (descent.withLimit limit)
  | parse {outcomes : List (Except SyntaxError Filter)} {descent : Descent} :
      History reserved tokens outcomes descent →
      History reserved tokens (outcomes ++ [descent.parse.1]) descent.parse.2

/-- What a call does to a parser. It goes on by a token at least while one is left, it leaves
none behind a filter, and it changes the count of open groups by the refusal of one and by
nothing else. -/
structure Proceeds (descent : Descent) : Prop where
  forth : descent.cursor.position ≤ descent.parse.2.cursor.position
  moves : descent.cursor.position.toNat < descent.tokens.length →
    descent.cursor.position < descent.parse.2.cursor.position
  complete : ∀ filter, descent.parse.1 = .ok filter →
    descent.parse.2.cursor.position.toNat = descent.tokens.length
  kept : (∀ limit, descent.parse.1 ≠ .error (.nestingTooDeep limit)) →
    descent.parse.2.cursor.depth = descent.cursor.depth
  refused : ∀ limit, descent.parse.1 = .error (.nestingTooDeep limit) →
    descent.parse.2.cursor.depth.toNat = descent.cursor.depth.toNat + 1

/-- What holds of a parser after calls with these outcomes: it has used up a token in each of
them while there was one, and has not gone beyond the last; of the groups that were refused
each counts as open, and none else; and the count has never wrapped around. The parser that
builds a draft has come to the same place by the same outcomes. -/
structure Settled (reserved : ReservedWords) (tokens : List Token)
    (outcomes : List (Except SyntaxError Filter)) (descent : Descent) : Prop where
  same : descent.reserved = reserved ∧ descent.tokens = tokens
  within : descent.cursor.position.toNat ≤ tokens.length
  uses : min outcomes.length tokens.length ≤ descent.cursor.position.toNat
  exhausts : tokens.length ≤ outcomes.length →
    descent.cursor.position.toNat = tokens.length
  counts : descent.cursor.depth.toNat = outcomes.countP refusesGroup
  shallow : descent.cursor.depth ≤ descent.cursor.position
  unwrapped : descent.cursor.wrapped = false
  drafts : Parser.History reserved tokens outcomes descent.parser

/-- A parser in the middle of its tokens answers a call as a fresh one does, but for the limit
that a refusal reports, and goes as far on. So does the parser that builds a draft. -/
structure ResumesAs (descent fresh : Descent) : Prop where
  outcome : descent.parse.1 = fresh.parse.1.mapError (·.underLimit descent.limit.toNat)
  position : descent.parse.2.cursor.position.toNat =
    descent.cursor.position.toNat + fresh.parse.2.cursor.position.toNat
  drafted : descent.parser.parse.1 =
    fresh.parser.parse.1.mapError (·.underLimit descent.limit.toNat)
  left : descent.parser.parse.2.rest = fresh.parser.parse.2.rest

section Calls

variable {reserved : ReservedWords} {tokens : List Token}
  {outcomes : List (Except SyntaxError Filter)} {descent : Descent}

theorem sound_ofTokens (reserved : ReservedWords) (tokens : List Token) :
    (ofTokens reserved tokens).Sound :=
  ⟨⟨[], rfl, rfl⟩, rfl, Nat.le_refl 0, rfl⟩

theorem Sound.withLimit (sound : descent.Sound) (limit : UInt64) :
    (descent.withLimit limit).Sound :=
  sound

theorem Sound.parse (addressable : descent.tokens.length < 2 ^ 64) (sound : descent.Sound) :
    descent.parse.2.Sound :=
  (parse_eq addressable sound).2.2

@[simp]
theorem parse_tokens (descent : Descent) : descent.parse.2.tokens = descent.tokens := by
  rw [Descent.parse]
  split <;> rfl

@[simp]
theorem parse_reserved (descent : Descent) : descent.parse.2.reserved = descent.reserved := by
  rw [Descent.parse]
  split <;> rfl

/-- Behind the cursor stand the tokens that are not left. -/
theorem Sound.position_add (sound : descent.Sound) :
    descent.cursor.position.toNat + descent.parser.rest.length = descent.tokens.length :=
  InFront.position_add sound

/-- What is left after a call is what the run leaves. -/
theorem parse_rest (addressable : descent.tokens.length < 2 ^ 64) (sound : descent.Sound) :
    descent.parse.2.parser.rest =
      (Draft.start.run descent.parser.rules descent.parser.rest).2 :=
  congrArg Parser.rest (parse_eq addressable sound).2.1

/-- The count after a call is the one that the run has. -/
theorem parse_depth (addressable : descent.tokens.length < 2 ^ 64) (sound : descent.Sound) :
    descent.parse.2.cursor.depth.toNat =
      Parser.depthAfter descent.cursor.depth.toNat descent.parse.1 := by
  obtain ⟨outcome, same, -⟩ := parse_eq addressable sound
  rw [outcome]
  exact congrArg (·.rules.depth) same

/-- Each call goes on, whatever came before. -/
theorem Sound.proceeds (addressable : descent.tokens.length < 2 ^ 64) (sound : descent.Sound) :
    descent.Proceeds := by
  have before := sound.position_add
  have after := (sound.parse addressable).position_add
  have depth := parse_depth addressable sound
  have left := parse_rest addressable sound
  rw [parse_tokens] at after
  have shorter := (Draft.run_suffix descent.parser.rules .start descent.parser.rest).length_le
  rw [← left] at shorter
  refine ⟨?_, fun remains => ?_, fun filter read => ?_, fun other => ?_, fun limit deep => ?_⟩
  · rw [UInt64.le_iff_toNat_le]
    omega
  · rw [UInt64.lt_iff_toNat_lt]
    cases rest : descent.parser.rest with
    | nil =>
        rw [rest, List.length_nil] at before
        omega
    | cons token tokens =>
        rw [rest] at left before
        have used := (Draft.run_start_suffix descent.parser.rules token tokens).length_le
        rw [← left] at used
        rw [List.length_cons] at before
        omega
  · rw [(parse_eq addressable sound).1] at read
    rw [left, Draft.run_rest_of_ok read, List.length_nil] at after
    exact after
  · refine UInt64.toNat_inj.mp (depth.trans ?_)
    unfold Parser.depthAfter
    split
    · next limit deep => exact absurd deep (other limit)
    · rfl
  · rw [depth, deep]
    rfl

/-- A history keeps the parser sound and its outcomes counted. -/
theorem History.settled (addressable : tokens.length < 2 ^ 64)
    (history : History reserved tokens outcomes descent) :
    descent.Sound ∧ descent.Settled reserved tokens outcomes := by
  induction history with
  | ofTokens =>
      refine ⟨sound_ofTokens reserved tokens, ⟨rfl, rfl⟩, Nat.zero_le _, Nat.min_le_left _ _,
        fun none => ?_, rfl, UInt64.le_refl 0, rfl, .ofTokens⟩
      exact (Nat.le_zero.mp none).symm
  | withLimit limit _ ih =>
      obtain ⟨sound, settled⟩ := ih
      exact ⟨sound.withLimit limit, { settled with drafts := settled.drafts.withLimit limit.toNat }⟩
  | @parse outcomes descent _ ih =>
      obtain ⟨sound, settled⟩ := ih
      obtain ⟨rfl, rfl⟩ := settled.same
      have after := sound.parse addressable
      have proceeds := sound.proceeds addressable
      obtain ⟨outcome, same, -⟩ := parse_eq addressable sound
      have within := after.position_add
      rw [parse_tokens] at within
      -- a call that comes when all is used up is counted, but has nothing to use
      have uses : min (outcomes ++ [descent.parse.1]).length descent.tokens.length ≤
          descent.parse.2.cursor.position.toNat := by
        have used := settled.uses
        have forth := UInt64.le_iff_toNat_le.mp proceeds.forth
        have moves := fun remains => UInt64.lt_iff_toNat_lt.mp (proceeds.moves remains)
        rw [List.length_append, List.length_singleton]
        omega
      refine ⟨after, ⟨by simp, by simp⟩, by omega, uses, fun many => ?_, ?_, ?_,
        after.unwrapped, ?_⟩
      · rw [Nat.min_eq_right many] at uses
        omega
      · rw [parse_depth addressable sound, Parser.depthAfter_eq, settled.counts,
          List.countP_append]
      · rw [UInt64.le_iff_toNat_le]
        exact after.shallow
      · rw [same, outcome]
        exact settled.drafts.parse

/-- Over any history of calls and changes of the limit, a parser goes on through its tokens and
not beyond them, and at least one further with each call while one is left, so that as many
calls as there are tokens take it behind the last. The groups that count as open are those that
were refused, no more than the place that has been reached, and the word that counts them has
not wrapped around. The next call is no exception, and a change of the limit moves nothing. -/
theorem history_counts_refusals (addressable : tokens.length < 2 ^ 64)
    (history : History reserved tokens outcomes descent) :
    descent.Settled reserved tokens outcomes ∧ descent.Proceeds ∧
      ∀ limit, (descent.withLimit limit).cursor = descent.cursor := by
  obtain ⟨sound, settled⟩ := history.settled addressable
  obtain ⟨rfl, rfl⟩ := settled.same
  exact ⟨settled, sound.proceeds addressable, fun _ => rfl⟩

/-- What counts as open may as well be taken off the limit. -/
theorem Sound.resumesAs {fresh : Descent} (addressable : descent.tokens.length < 2 ^ 64)
    (sound : descent.Sound) (freshSound : fresh.Sound) (words : fresh.reserved = descent.reserved)
    (rest : fresh.tokens = descent.parser.rest) (starts : fresh.cursor.position = 0)
    (room : descent.limit.toNat - descent.cursor.depth.toNat =
      fresh.limit.toNat - fresh.cursor.depth.toNat) :
    descent.ResumesAs fresh := by
  have before := sound.position_add
  have freshAddressable : fresh.tokens.length < 2 ^ 64 := by
    rw [rest]
    omega
  have front : fresh.parser.rest = descent.parser.rest := by
    rw [parser, starts, ← rest]
    rfl
  have ran := @Draft.run_of_room_eq fresh.parser.rules descent.parser.rules words.symm room .start
    descent.parser.rest
  have drafted : descent.parser.parse.1 =
      fresh.parser.parse.1.mapError (·.underLimit descent.limit.toNat) := by
    refine (congrArg Prod.fst ran).trans ?_
    rw [Parser.parse, front]
    rfl
  have left : descent.parser.parse.2.rest = fresh.parser.parse.2.rest := by
    refine (congrArg Prod.snd ran).trans ?_
    rw [Parser.parse, front]
  obtain ⟨outcome, same, after⟩ := parse_eq addressable sound
  obtain ⟨freshOutcome, freshSame, freshAfter⟩ := parse_eq freshAddressable freshSound
  -- both leave the same tokens, so the places differ by the place of the first one
  refine ⟨by rw [outcome, freshOutcome, drafted], ?_, drafted, left⟩
  have counted := after.position_add
  have freshCounted := freshAfter.position_add
  rw [same, left, parse_tokens] at counted
  rw [freshSame, parse_tokens, rest] at freshCounted
  omega

/-- After any history of calls and changes of the limit, a parser resumes as a fresh one in
front of the tokens that are left, under its limit less the groups that count as open, or under
a limit of nothing if they are more. -/
theorem resumes_as_fresh (addressable : tokens.length < 2 ^ 64)
    (history : History reserved tokens outcomes descent) :
    descent.ResumesAs
      ((ofTokens reserved (tokens.drop descent.cursor.position.toNat)).withLimit
        (if descent.limit < descent.cursor.depth then 0
          else descent.limit - descent.cursor.depth)) := by
  obtain ⟨sound, settled⟩ := history.settled addressable
  obtain ⟨rfl, rfl⟩ := settled.same
  have freshSound := sound_ofTokens descent.reserved descent.parser.rest
  refine sound.resumesAs addressable (freshSound.withLimit _) rfl rfl rfl ?_
  by_cases full : descent.limit < descent.cursor.depth
  · have less := UInt64.lt_iff_toNat_lt.mp full
    simp only [full, if_true, withLimit]
    exact Nat.sub_eq_zero_of_le (Nat.le_of_lt less)
  · have fits := UInt64.not_lt.mp full
    simp only [full, if_false, withLimit]
    rw [UInt64.toNat_sub_of_le _ _ fits]
    rfl

end Calls

/-- The tokens of `(((a eq 1)`. -/
def twoTooMany : List Token :=
  [⟨.opening, "(", ⟨0, 1⟩⟩, ⟨.opening, "(", ⟨1, 2⟩⟩, ⟨.opening, "(", ⟨2, 3⟩⟩,
   ⟨.identifier, "a", ⟨3, 4⟩⟩, ⟨.comparison .equal, "eq", ⟨5, 7⟩⟩, ⟨.number, "1", ⟨8, 9⟩⟩,
   ⟨.closing, ")", ⟨9, 10⟩⟩]

/-- A parser that was asked twice for `(((a eq 1)` under a limit of nothing. -/
def refusedTwice : Descent :=
  ((ofTokens .standard twoTooMany).withLimit 0).parse.2.parse.2

theorem history_refusedTwice :
    History .standard twoTooMany [.error (.nestingTooDeep 0), .error (.nestingTooDeep 0)]
      refusedTwice :=
  ((History.ofTokens.withLimit 0).parse).parse

/-- Under another limit it reads what is left, and two groups go on counting as open. -/
theorem history_counts_refusals_twice :
    twoTooMany.length < 2 ^ 64 ∧
      ∃ descent, History .standard twoTooMany
          [.error (.nestingTooDeep 0), .error (.nestingTooDeep 0),
            .ok (.group (.condition ⟨"a"⟩ .equal ⟨"1"⟩))] descent ∧
        descent.Settled .standard twoTooMany
          [.error (.nestingTooDeep 0), .error (.nestingTooDeep 0),
            .ok (.group (.condition ⟨"a"⟩ .equal ⟨"1"⟩))] ∧
        descent.cursor = { position := 7, depth := 2, wrapped := false } := by
  have addressable : twoTooMany.length < 2 ^ 64 := by decide
  have history := (history_refusedTwice.withLimit 3).parse
  exact ⟨addressable, _, history, (history_counts_refusals addressable history).1, rfl⟩

/-- Under a limit that the two groups use up, the third one is refused, as it is by a fresh
parser under a limit of nothing; each reports its own limit. -/
theorem resumes_as_fresh_refused :
    let resumed := refusedTwice.withLimit 2
    let fresh := (ofTokens .standard (twoTooMany.drop 2)).withLimit 0
    twoTooMany.length < 2 ^ 64 ∧ resumed.ResumesAs fresh ∧
      resumed.parse.1 = .error (.nestingTooDeep 2) ∧ resumed.parse.2.cursor.position = 3 ∧
      fresh.parse.1 = .error (.nestingTooDeep 0) ∧ fresh.parse.2.cursor.position = 1 := by
  intro resumed fresh
  have addressable : twoTooMany.length < 2 ^ 64 := by decide
  have history := history_refusedTwice.withLimit 2
  exact ⟨addressable, resumes_as_fresh addressable history, rfl, rfl, rfl, rfl⟩

end Descent

end WhereClause
