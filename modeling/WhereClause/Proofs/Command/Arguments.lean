/-
# A filter among the arguments

Arguments that name no filter ask for a session. With a filter behind them the same arguments ask
for an answer to that filter alone, by the same choices. A filter may be any text, also one that
looks like an option, so it stands behind a double dash. That is only needed if there is none
yet: of two double dashes the second one would be the filter.
-/

import WhereClause.Command.Invocation
import WhereClause.Proofs.Steps

namespace WhereClause.Command

/-- The arguments with a filter added to them. -/
def withFilter (arguments : List String) (filter : String) : List String :=
  arguments ++ if "--" ∈ arguments then [filter] else ["--", filter]

namespace Reading

section Steps

variable {reading next : Reading} {argument : String} {option : List Char}

theorem settle_eq_ok_iff : reading.settle = .ok next ↔ reading.pending = none ∧ next = reading := by
  obtain ⟨invocation, pending, positional⟩ := reading
  cases pending <;> simp [settle, eq_comm]

theorem positional_of_give {option : ValueOption} {value : String}
    (given : reading.give option value = .ok next) : next.positional = reading.positional := by
  unfold give at given
  cases option <;> simp only [bind, Except.bind, pure, Except.pure, throw, throwThe,
    MonadExceptOf.throw] at given <;> repeat' split at given
  all_goals cases given <;> rfl

theorem positional_of_stepLong (read : reading.stepLong option = .ok next) :
    next.positional = reading.positional := by
  unfold stepLong askTree at read
  repeat' split at read
  all_goals first
    | exact positional_of_give read
    | cases read <;> rfl

theorem positional_of_stepShort (read : reading.stepShort option = .ok next) :
    next.positional = reading.positional := by
  unfold stepShort at read
  split at read
  case h_1 | h_2 | h_3 =>
    simp only at read
    split at read
    · cases read
      rfl
    · exact positional_of_give read
    · exact positional_of_give read
  all_goals cases read

theorem positional_of_stepPositional (read : reading.stepPositional argument = .ok next) :
    next.positional = reading.positional := by
  unfold stepPositional at read
  split at read <;> cases read
  rfl

/-- A double dash makes all arguments after it positional, and no other argument does. -/
theorem positional_of_step (read : reading.step argument = .ok next) :
    next.positional = (reading.positional || argument == "--") := by
  unfold step at read
  split at read
  · next already =>
      obtain ⟨settled, settles, stepped⟩ := bind_eq_ok.mp read
      obtain ⟨-, rfl⟩ := settle_eq_ok_iff.mp settles
      rw [positional_of_stepPositional stepped, already, Bool.true_or]
  · next notYet =>
      rw [eq_false_of_ne_true notYet, Bool.false_or]
      have letters : (argument == "--") = (argument.toList == ['-', '-']) := by
        rw [Bool.eq_iff_iff, beq_iff_eq, beq_iff_eq, ← String.toList_inj]
        rfl
      rw [letters]
      split at read
      · next dashes =>
          obtain ⟨settled, -, stepped⟩ := bind_eq_ok.mp read
          cases stepped
          rw [dashes]
          rfl
      · next rest several dashes =>
          obtain ⟨settled, settles, stepped⟩ := bind_eq_ok.mp read
          obtain ⟨-, rfl⟩ := settle_eq_ok_iff.mp settles
          rw [positional_of_stepLong stepped, eq_false_of_ne_true notYet, dashes]
          simpa using several
      · next other _ dash =>
          obtain ⟨settled, settles, stepped⟩ := bind_eq_ok.mp read
          obtain ⟨-, rfl⟩ := settle_eq_ok_iff.mp settles
          rw [positional_of_stepShort stepped, eq_false_of_ne_true notYet, dash]
          simpa using other
      · next notDashes _ _ =>
          have plain : (argument.toList == ['-', '-']) = false :=
            beq_eq_false_iff_ne.mpr notDashes
          rw [plain, ← eq_false_of_ne_true notYet]
          split at read
          · exact positional_of_give read
          · exact positional_of_stepPositional read

/-- So all arguments together do if a double dash is among them. -/
theorem positional_of_foldlM {arguments : List String}
    (read : arguments.foldlM step reading = .ok next) :
    next.positional = (reading.positional || arguments.contains "--") := by
  induction arguments generalizing reading with
  | nil =>
      cases read
      simp
  | cons argument rest ih =>
      obtain ⟨between, first, others⟩ := bind_eq_ok.mp read
      rw [ih others, positional_of_step first, List.contains_cons, Bool.or_assoc, Bool.beq_comm]

end Steps

/-- A reading ends well if no option waits for its value, the settings have a path if any, and
trees are not asked for together with a table. -/
theorem finish_eq_ok_iff {reading : Reading} {environmentPath : Option String}
    {invocation : Invocation} :
    reading.finish environmentPath = .ok invocation ↔
      reading.pending = none ∧
      reading.invocation.settingsPath.or environmentPath ≠ some "" ∧
      (reading.invocation.showTree && reading.invocation.table.isSome) = false ∧
      invocation = { reading.invocation with
        settingsPath := reading.invocation.settingsPath.or environmentPath } := by
  unfold finish
  rw [bind_eq_ok]
  constructor
  · rintro ⟨settled, settles, finished⟩
    obtain ⟨waits, rfl⟩ := settle_eq_ok_iff.mp settles
    simp only at finished
    split at finished
    · cases finished
    · next given =>
        split at finished
        · cases finished
        · next compatible =>
            cases finished
            exact ⟨waits, given, eq_false_of_ne_true compatible, rfl⟩
  · rintro ⟨waits, given, compatible, rfl⟩
    refine ⟨reading, settle_eq_ok_iff.mpr ⟨waits, rfl⟩, ?_⟩
    simp only [given, compatible, if_false, Bool.false_eq_true]
    rfl

/-- Behind a double dash a text is read as the filter, whatever it looks like. -/
theorem foldlM_filter {choices : Invocation} (unnamed : choices.filter = none) (positional : Bool)
    (filter : String) :
    (if positional then [filter] else ["--", filter]).foldlM step ⟨choices, none, positional⟩ =
      .ok ⟨{ choices with filter := some filter }, none, true⟩ := by
  have placed : step ⟨choices, none, true⟩ filter =
      .ok ⟨{ choices with filter := some filter }, none, true⟩ := by
    simp [step, settle, stepPositional, unnamed, bind, Except.bind]
  cases positional with
  | true => exact bind_eq_ok.mpr ⟨_, placed, rfl⟩
  | false => exact bind_eq_ok.mpr ⟨⟨choices, none, true⟩, rfl, bind_eq_ok.mpr ⟨_, placed, rfl⟩⟩

end Reading

/-- Arguments that ask for a session ask for the answer to a filter when it is added to them, and
otherwise for the same. -/
theorem ofArguments_withFilter {arguments : List String} {environmentPath : Option String}
    {invocation : Invocation} (filter : String)
    (read : Invocation.ofArguments arguments environmentPath = .ok invocation)
    (unnamed : invocation.filter = none) :
    Invocation.ofArguments (withFilter arguments filter) environmentPath =
      .ok { invocation with filter := some filter } := by
  obtain ⟨⟨choices, pending, positional⟩, steps, finished⟩ := bind_eq_ok.mp read
  obtain ⟨waits, given, compatible, rfl⟩ := Reading.finish_eq_ok_iff.mp finished
  simp only at waits given compatible unnamed
  subst waits
  have dashed : positional = arguments.contains "--" := Reading.positional_of_foldlM steps
  have added : (withFilter arguments filter).foldlM Reading.step .start =
      .ok ⟨{ choices with filter := some filter }, none, true⟩ := by
    rw [withFilter, List.foldlM_append]
    refine bind_eq_ok.mpr ⟨_, steps, ?_⟩
    simpa [dashed] using Reading.foldlM_filter unnamed positional filter
  refine bind_eq_ok.mpr ⟨_, added, ?_⟩
  exact Reading.finish_eq_ok_iff.mpr ⟨rfl, given, compatible, rfl⟩

end WhereClause.Command
