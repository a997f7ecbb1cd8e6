/-
# Messages of one line

What is wrong with a filter is said in texts of one line each, if the filter itself has one line.
A message repeats three things. The filter, and words that it is compared with, are quoted, and a
quoted text shows a line feed by an escape. The text of a token is repeated as it is, but it is
made of characters of the filter. The name of a field is repeated in snake case, and a name in
snake case has no line feeds whatever the filter is.
-/

import WhereClause.Proofs.Rejection
import WhereClause.Proofs.Translator

namespace WhereClause

namespace Text

/-- The text has no line feed. -/
def Unbroken (text : String) : Prop :=
  '\n' ∉ text.toList

namespace Unbroken

variable {first second : String}

theorem letters {letters : List Char} (free : '\n' ∉ letters) :
    Unbroken (String.ofList letters) := by
  rwa [Unbroken, String.toList_ofList]

theorem append (before : Unbroken first) (behind : Unbroken second) :
    Unbroken (first ++ second) := by
  rw [Unbroken, String.toList_append, List.mem_append]
  exact not_or.mpr ⟨before, behind⟩

/-- Texts of one line each make up one line. -/
theorem intercalate {separator : String} (between : Unbroken separator) {texts : List String}
    (each : ∀ text ∈ texts, Unbroken text) : Unbroken (separator.intercalate texts) := by
  induction texts with
  | nil => exact .letters (by decide)
  | cons head rest ih =>
      obtain ⟨ahead, others⟩ := List.forall_mem_cons.mp each
      cases rest with
      | nil =>
          rw [String.intercalate_singleton]
          exact ahead
      | cons next rest =>
          rw [String.intercalate_cons_cons]
          exact .append (.append ahead between) (ih others)

end Unbroken

theorem not_mem_toDigits {base : Nat} (several : 1 < base) (n : Nat) :
    '\n' ∉ Nat.toDigits base n := by
  induction n using Nat.strongRecOn with
  | ind n ih =>
      have digit (value : Nat) : '\n' ≠ value.digitChar := (Nat.digitChar_ne '\n' rfl).symm
      rw [Nat.toDigits_eq_if several]
      split
      · exact mt List.mem_singleton.mp (digit n)
      · next large =>
          have smaller : n / base < n := Nat.div_lt_self (by omega) several
          rw [List.mem_append, List.mem_singleton]
          exact not_or.mpr ⟨ih _ smaller, digit _⟩

theorem unbroken_toString (n : Nat) : Unbroken (toString n) := by
  rw [Nat.toString_eq_ofList_toDigits]
  exact .letters (not_mem_toDigits (by decide) n)

/-- A line feed is escaped, and no escape has one. -/
theorem not_mem_escaped (c : Char) : '\n' ∉ escaped c := by
  unfold escaped
  split
  case h_7 notFeed _ _ _ =>
    split
    · simpa [eq_comm] using notFeed
    · simp [escapedByNumber, not_mem_toDigits]
  all_goals decide

theorem unbroken_quoted (text : String) : Unbroken (quoted text) := by
  refine .letters ?_
  simp [not_mem_escaped]

/-- Doubling quotes drops nothing. -/
theorem subset_double (quote : Char) (cs : List Char) : cs ⊆ double quote cs := by
  intro c there
  rw [double, List.mem_flatMap]
  refine ⟨c, there, ?_⟩
  split <;> simp

end Text

open Text

theorem Span.unbroken_display (span : Span) : Unbroken span.display :=
  .append (.append (unbroken_toString _) (.letters (by decide))) (unbroken_toString _)

theorem Objection.unbroken_message (objection : Objection) : Unbroken objection.message := by
  cases objection with
  | reservedWord | literalAsField => exact .append (unbroken_quoted _) (.letters (by decide))
  | forbiddenSequence => exact .append (.letters (by decide)) (unbroken_quoted _)
  | malformedName | notAValue => exact .letters (by decide)

theorem UnclosedString.unbroken_message (error : UnclosedString) : Unbroken error.message :=
  .append (.letters (by decide)) error.span.unbroken_display

namespace SyntaxError

/-- The text of a token that the error repeats. -/
def word? : SyntaxError → Option String
  | .unexpectedToken found _ | .unsupportedOperator found _ | .trailingTokens found _ => some found
  | .invalidField text _ | .invalidValue text _ => some text
  | _ => none

/-- The field that the error names. -/
def field? : SyntaxError → Option Field
  | .emptyList field | .unclosedList field => some field
  | _ => none

variable {error : SyntaxError} {token : Token}

/-- An error is told in one line if this can be said of all that it repeats. -/
theorem unbroken_message (word : ∀ word ∈ error.word?, Unbroken word)
    (field : ∀ field ∈ error.field?, Unbroken field.name) : Unbroken error.message := by
  cases error with
  | unexpectedToken found span | unsupportedOperator found span | trailingTokens found span =>
      have found := word found rfl
      exact .append (.append (.append (.letters (by decide)) found) (.letters (by decide)))
        span.unbroken_display
  | invalidField text objection | invalidValue text objection =>
      have found := word text rfl
      exact .append (.append (.append (.letters (by decide)) found) (.letters (by decide)))
        objection.unbroken_message
  | emptyList named | unclosedList named =>
      have named := field named rfl
      exact .append (.append (.letters (by decide)) named) (.letters (by decide))
  | unexpectedEnd expected =>
      have phrase : Unbroken expected.phrase := by cases expected <;> exact .letters (by decide)
      exact .append (.append (.letters (by decide)) phrase) (.letters (by decide))
  | missingOperand lead =>
      have phrase : Unbroken lead.phrase := by
        cases lead with
        | negation => exact .letters (by decide)
        | connective joint => cases joint <;> exact .letters (by decide)
      exact .append (.append (.letters (by decide)) phrase) (.letters (by decide))
  | unclosedGroup opening => exact .append (.letters (by decide)) opening.unbroken_display
  | nestingTooDeep limit => exact .append (.letters (by decide)) (unbroken_toString limit)

/-- At a token only the text of that token is repeated. -/
theorem IsAbout.word_eq (about : error.IsAbout token) :
    ∀ word ∈ error.word?, word = token.text := by
  intro word there
  cases error with
  | unexpectedToken | unsupportedOperator | trailingTokens =>
      obtain rfl := Option.some.inj there
      exact about.1
  | invalidField | invalidValue =>
      obtain rfl := Option.some.inj there
      exact about
  | unexpectedEnd | missingOperand | unclosedGroup | emptyList | unclosedList | nestingTooDeep =>
      cases there

/-- At the end of the tokens none is repeated. -/
theorem IsAtEnd.word?_eq_none (atEnd : error.IsAtEnd) : error.word? = none := by
  cases error with
  | unexpectedEnd | missingOperand | unclosedGroup | unclosedList => rfl
  | _ => exact atEnd.elim

end SyntaxError

namespace Filter

/-- The field of an operand that has been begun. -/
def Phase.field? : Phase → Option Field
  | .field named | .comparison named _ | .membership named | .listStart named
  | .listValue named _ | .listComma named _ => some named
  | .operand _ | .complete _ => none

theorem Phase.All.names {names : Field → Prop} {gives : Literal → Prop} {holds : Filter → Prop}
    {phase : Phase} (all : phase.All names gives holds) : ∀ named ∈ phase.field?, names named := by
  intro named there
  cases phase with
  | operand | complete => cases there
  | field | comparison | membership | listStart =>
      obtain rfl := Option.some.inj there
      exact all
  | listValue | listComma =>
      obtain rfl := Option.some.inj there
      exact all.1

namespace Draft

variable {rules : Rules} {draft : Draft} {token : Token} {error : SyntaxError}

theorem field?_of_stepValue {reserved : ReservedWords} {next : Literal → Draft}
    (refused : (stepValue reserved token next).error? = some error) : error.field? = none := by
  unfold stepValue at refused
  split at refused
  · split at refused <;> cases refused
    rfl
  · cases refused
    rfl

/-- Only the field of the operand that has been begun is named at a token. -/
theorem field?_of_step (refused : (draft.step rules token).error? = some error) :
    ∀ named ∈ error.field?, named ∈ draft.phase.field? := by
  obtain ⟨groups, chains, phase⟩ := draft
  intro named there
  cases phase with
  | operand lead =>
      simp only [step, stepOperand] at refused
      repeat' split at refused
      all_goals cases refused <;> cases there
  | field | membership =>
      simp only [step, stepOperator] at refused
      split at refused <;> cases refused
      cases there
  | comparison | listComma =>
      rw [field?_of_stepValue refused] at there
      cases there
  | listStart begun =>
      simp only [step] at refused
      split at refused
      · cases refused
        exact there
      · rw [field?_of_stepValue refused] at there
        cases there
  | listValue begun values =>
      simp only [step] at refused
      split at refused <;> cases refused
      exact there
  | complete operand =>
      simp only [step, stepComplete] at refused
      split at refused
      · cases refused
      · split at refused <;> cases refused
        cases there
      · cases refused
        cases groups <;> cases there

/-- So it is where the tokens end. -/
theorem field?_of_finish (unfinished : draft.finish = .error error) :
    ∀ named ∈ error.field?, named ∈ draft.phase.field? := by
  obtain ⟨groups, chains, phase⟩ := draft
  unfold finish at unfinished
  intro named there
  cases phase with
  | operand lead =>
      cases lead <;> cases unfinished <;> cases there
  | complete operand =>
      cases groups <;> cases unfinished
      cases there
  | field | comparison | membership =>
      cases unfinished
      cases there
  | listStart | listValue | listComma =>
      cases unfinished
      exact there

/-- The fields of a draft have names without line feeds, like all names in snake case. -/
theorem Reaches.unbroken_field {done : List Token} (reached : Reaches rules .start done draft) :
    ∀ named ∈ draft.phase.field?, Unbroken named.name := by
  have kept : Kept rules (fun _ => True) (fun named => Unbroken named.name) (fun _ => True)
      (fun _ _ => True) :=
    { field := fun _ _ named there => by
        have part := Field.isSnakePart_of_mem (Field.isSafe_of_ofName named).isSnakeName _ there
        exact absurd part (by decide)
      value := fun _ _ => True.intro
      condition := fun _ _ => True.intro
      oneOf := fun _ _ _ => True.intro
      chained := fun _ => ⟨fun _ _ => True.intro, fun _ => True.intro⟩
      group := fun _ _ => True.intro }
  exact (reached.all kept fun _ _ => True.intro).phase.names

end Draft

/-- An error in tokens without line feeds is told in one line. -/
theorem unbroken_message_of_ofTokens {reserved : ReservedWords} {limit : Nat}
    {tokens : List Token} {error : SyntaxError}
    (unbroken : ∀ token ∈ tokens, Unbroken token.text)
    (rejected : ofTokens reserved limit tokens = .error error) : Unbroken error.message := by
  have started : Draft.Reaches ⟨reserved, limit, 0⟩ .start [] .start := .start
  rcases started.end_or_refusal tokens with
    ⟨last, reached⟩ | ⟨read, token, rest, last, reason, rfl, reached, refused⟩
  · have finished : last.finish = .error error := reached.run_eq_finish.symm.trans rejected
    apply SyntaxError.unbroken_message
    · rw [(Draft.isAtEnd_of_finish finished).word?_eq_none]
      exact nofun
    · exact fun named there =>
        reached.unbroken_field named (Draft.field?_of_finish finished named there)
  · obtain rfl : reason = error :=
      Except.error.inj ((ofTokens_of_refusal reached refused rest).symm.trans rejected)
    apply SyntaxError.unbroken_message
    · intro word there
      rw [(Draft.isAbout_of_step refused).word_eq word there]
      exact unbroken token (by simp)
    · exact fun named there =>
        reached.unbroken_field named (Draft.field?_of_step refused named there)

end Filter

/-- The tokens of a text without line feeds have none. -/
theorem Lexer.unbroken_of_tokenize {text : String} {tokens : List Token} (unbroken : Unbroken text)
    (cut : tokenize text = .ok tokens) : ∀ token ∈ tokens, Unbroken token.text := by
  intro token there feed
  obtain ⟨slice, after, ⟨before, behind, same, -⟩, spells⟩ := covers_of_tokenize cut token there
  have inside : token.text.toList ⊆ slice := by
    generalize token.kind = kind, token.text.toList = letters at spells
    cases spells with
    | string body =>
        have doubled : '\'' :: body ⊆ '\'' :: double '\'' body :=
          List.cons_subset_cons _ (subset_double '\'' body)
        exact List.append_subset.mpr ⟨List.Subset.trans doubled (List.subset_append_left _ _),
          List.subset_append_right _ _⟩
    | punctuation | word => exact List.Subset.refl _
  have whole : '\n' ∈ text.toList := by
    rw [same]
    exact List.mem_append_left _ (List.mem_append_right _ (inside feed))
  exact unbroken whole

namespace Translator

variable {translator : Translator} {text : String}

/-- Whatever is wrong with a text of one line is told in one line. -/
theorem unbroken_message_of_read {cause : Cause} (unbroken : Unbroken text)
    (refused : translator.read text = .error cause) : Unbroken cause.message := by
  unfold read at refused
  split at refused
  · next limit _ =>
      cases refused
      exact .append (.append (.append (.letters (by decide)) (unbroken_toString _))
        (.letters (by decide))) (unbroken_toString limit)
  · split at refused
    · next error _ =>
        cases refused
        exact .append (.letters (by decide)) error.unbroken_message
    · next tokens cut =>
        cases read : Filter.ofTokens translator.reserved translator.nestingLimit.toNat tokens with
        | ok filter =>
            rw [read] at refused
            cases refused
        | error error =>
            rw [read] at refused
            cases refused
            exact Filter.unbroken_message_of_ofTokens
              (Lexer.unbroken_of_tokenize unbroken cut) read

/-- So are the rejection of the text and all that lies behind it. -/
theorem unbroken_of_parse {rejection : Rejection} (unbroken : Unbroken text)
    (refused : translator.parse text = .error rejection) :
    ∀ line ∈ rejection.message :: rejection.sources, Unbroken line := by
  have trimmed : Unbroken (trim text) := fun feed => unbroken ((trim_isInfix text).subset feed)
  unfold parse at refused
  simp only at refused
  split at refused
  · cases refused
  · split at refused
    · cases refused
    · next cause failed =>
        cases refused
        have told := unbroken_message_of_read trimmed failed
        intro line there
        rcases List.mem_cons.mp there with rfl | source
        · exact .append (.append (.append (.letters (by decide)) (unbroken_quoted _))
            (.letters (by decide))) told
        · unfold Rejection.sources at source
          split at source
          · next error same =>
              simp only [List.mem_cons, List.not_mem_nil, or_false] at source
              rcases source with rfl | rfl
              · exact told
              · exact error.unbroken_message
          · obtain rfl := List.mem_singleton.mp source
            exact told

end Translator

end WhereClause
