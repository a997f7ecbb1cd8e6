/-
# A session answers each line as a run would

A run that has a filter among its arguments answers it and ends. A session answers the lines of
its input, one after the other, and is the same for it: each line gets the answer that a run with
the same other arguments gives to that line alone, whatever the lines around it are and whether
they were answered or refused.

The two differ in three things on purpose. A session says nothing to a blank line. Where a run
ends with a report, a session goes on after the same texts in one line. And a session shows a
banner in the beginning and a prompt in front of each line, the last time where no line follows.
-/

import WhereClause.Command.Run
import WhereClause.Proofs.Command.Arguments
import WhereClause.Proofs.Translator.Message

namespace WhereClause.Command

open Text

/-! ### The lines of an input -/

/-- The text is made of these lines. Each of them ends at a line feed, which may have a carriage
return before it; the last one may end where the text ends. -/
inductive Divides : List Char → List String → Prop
  | nothing : Divides [] []
  | unended {line : List Char} : line ≠ [] → '\n' ∉ line → Divides line [String.ofList line]
  | feed {line rest : List Char} {lines : List String} :
      '\n' ∉ line → line.getLast? ≠ some '\r' → Divides rest lines →
      Divides (line ++ '\n' :: rest) (String.ofList line :: lines)
  | returnFeed {line rest : List Char} {lines : List String} :
      '\n' ∉ line → Divides rest lines →
      Divides (line ++ '\r' :: '\n' :: rest) (String.ofList line :: lines)

section Lines

variable {line rest text : List Char} {lines : List String}

/-- No line has a line feed. -/
theorem Divides.unbroken (divides : Divides text lines) : ∀ line ∈ lines, Unbroken line := by
  induction divides with
  | nothing => exact nofun
  | unended _ free => exact List.forall_mem_singleton.mpr (.letters free)
  | feed free _ _ ih | returnFeed free _ ih => exact List.forall_mem_cons.mpr ⟨.letters free, ih⟩

/-- A text without line feeds is one line, or none. -/
theorem lines_of_not_mem (free : '\n' ∉ text) :
    Session.lines (String.ofList text) = if text = [] then [] else [String.ofList text] := by
  rw [Session.lines, String.toList_ofList, List.splitOn_eq_singleton free]
  by_cases empty : text = []
  · simp [empty]
  · simp [empty]

/-- A line is told from the others by the first line feed. -/
theorem lines_append_feed (free : '\n' ∉ line) (rest : List Char) :
    Session.lines (String.ofList (line ++ '\n' :: rest)) =
      String.ofList (if line.getLast? = some '\r' then line.dropLast else line) ::
        Session.lines (String.ofList rest) := by
  have more : rest.splitOn '\n' ≠ [] := List.splitOn_ne_nil _ _
  rw [Session.lines, Session.lines, String.toList_ofList, String.toList_ofList,
    List.splitOn_append_cons_self_of_not_mem free]
  simp only [List.dropLast_cons_of_ne_nil more, List.getLast?_cons_of_ne_nil more, List.map_cons,
    List.cons_append]

/-- A session divides its input so. -/
theorem divides_lines (text : List Char) : Divides text (Session.lines (String.ofList text)) := by
  by_cases broken : '\n' ∈ text
  · obtain ⟨line, rest, rfl, free⟩ := List.eq_append_cons_of_mem broken
    have later := divides_lines rest
    rw [lines_append_feed free]
    by_cases returned : line.getLast? = some '\r'
    · obtain ⟨before, rfl⟩ := List.getLast?_eq_some_iff.mp returned
      rw [if_pos returned, List.dropLast_concat, List.append_assoc]
      exact .returnFeed (fun there => free (List.mem_append_left _ there)) later
    · rw [if_neg returned]
      exact .feed free returned later
  · rw [lines_of_not_mem broken]
    by_cases empty : text = []
    · rw [if_pos empty, empty]
      exact .nothing
    · rw [if_neg empty]
      exact .unended empty broken
termination_by text.length
decreasing_by simp [*]; omega

/-- There is no other way to divide it. -/
theorem Divides.eq_lines (divides : Divides text lines) :
    lines = Session.lines (String.ofList text) := by
  induction divides with
  | nothing => rw [lines_of_not_mem (by simp), if_pos rfl]
  | unended nonempty free => rw [lines_of_not_mem free, if_neg nonempty]
  | feed free unreturned _ ih => rw [lines_append_feed free, if_neg unreturned, ih]
  | @returnFeed line rest lines free _ ih =>
      have same : line ++ '\r' :: '\n' :: rest = (line ++ ['\r']) ++ '\n' :: rest := by simp
      rw [same, lines_append_feed (by simpa using free), if_pos (by simp), List.dropLast_concat, ih]

end Lines

/-! ### What a session writes -/

namespace Session

variable (session : Session)

/-- The prompt for a line and the answer to it. -/
def exchange (line : String) : Output :=
  Output.append { out := prompt, err := "" } (session.respond line)

/-- Line by line a session adds an exchange to what it has written. -/
theorem foldl_eq_append_join (lines : List String) (out err : String) :
    lines.foldl
        (fun output line =>
          (output.append (session.respond line)).append { out := prompt, err := "" })
        ({ out := out ++ prompt, err } : Output) =
      { out := out ++ String.join (lines.map fun line => (session.exchange line).out) ++ prompt
        err := err ++ String.join (lines.map fun line => (session.exchange line).err) } := by
  induction lines generalizing out err with
  | nil => simp
  | cons line rest ih =>
      have step : (Output.append { out := out ++ prompt, err } (session.respond line)).append
          { out := prompt, err := "" } =
          { out := out ++ (session.exchange line).out ++ prompt
            err := err ++ (session.exchange line).err } := by
        simp [Output.append, exchange, String.append_assoc]
      rw [List.foldl_cons, step, ih]
      simp only [List.map_cons, String.join_cons, String.append_assoc]

/-- A session writes its banner, an exchange for each line, and a last prompt. -/
theorem transcript_eq (input : String) :
    session.transcript input =
      { out := banner ++ String.join ((lines input).map fun line => (session.exchange line).out) ++
          prompt
        err := String.join ((lines input).map fun line => (session.exchange line).err) } := by
  rw [transcript, foldl_eq_append_join, String.empty_append]

end Session

/-! ### What a run writes -/

/-- To a line a session replies as a run does with that line alone: not at all if the line is
blank, with the same text if the run succeeds, and with the same texts of what went wrong, in one
line, if it fails. -/
structure Agrees (line : String) (alone : Completion) (reply : Output) : Prop where
  blank : trim line = "" → reply = { out := "", err := "" }
  answered : trim line ≠ "" → alone.code = 0 → reply = { out := alone.output.out, err := "" }
  refused : trim line ≠ "" → alone.code ≠ 0 →
    ∃ failure : Failure, alone = .failure failure ∧ reply = { out := "", err := failure.line } ∧
      ∃ text, failure.line = text ++ "\n" ∧ Unbroken text

/-- A failure is reported in one line if each of its texts has one. -/
theorem Failure.line_of_unbroken (failure : Failure)
    (texts : ∀ text ∈ failure.text :: failure.sources, Unbroken text) :
    ∃ text, failure.line = text ++ "\n" ∧ Unbroken text := by
  have separator : Unbroken ": " := .letters (by decide)
  exact ⟨_, rfl, .append (.letters (by decide)) (separator.intercalate texts)⟩

/-- A line that a session refuses is refused for reasons of one line each. -/
theorem Session.unbroken_of_answer {session : Session} {line : String} {failure : Failure}
    (unbroken : Unbroken line) (refused : session.answer line = .error failure) :
    ∀ text ∈ failure.text :: failure.sources, Unbroken text := by
  unfold answer at refused
  split at refused
  · cases refused
  · next rejection rejected =>
      cases refused
      exact Translator.unbroken_of_parse unbroken rejected

/-- To a line that is not blank a session writes its answer, or why it has none. -/
theorem Session.respond_of_answer {session : Session} {line : String}
    (visible : trim line ≠ "") :
    session.respond line =
      match session.answer line with
      | .ok text => { out := text ++ "\n", err := "" }
      | .error failure => { out := "", err := failure.line } := by
  have nonempty : (trim line).isEmpty = false := by simpa using visible
  rw [respond, nonempty]
  rfl

/-- What is written to one line is what a run writes that has the line for its filter. -/
theorem Invocation.agrees {invocation : Invocation} {content : String → FileContent}
    {session : Session} {line : String} (loaded : invocation.session content = .ok session)
    (unbroken : Unbroken line) (other : String) :
    Agrees line ({ invocation with filter := some line }.run content other)
      (session.respond line) := by
  have loaded' : { invocation with filter := some line }.session content = .ok session := loaded
  have blank (empty : trim line = "") : session.respond line = { out := "", err := "" } := by
    rw [Session.respond, empty]
    rfl
  cases answered : session.answer line with
  | ok text =>
      have alone : { invocation with filter := some line }.run content other =
          .success { out := text ++ "\n", err := "" } := by
        simp only [Invocation.run, loaded', answered]
      rw [alone]
      refine ⟨blank, fun visible _ => ?_, fun _ fails => absurd rfl fails⟩
      rw [Session.respond_of_answer visible, answered]
      rfl
  | error failure =>
      have alone : { invocation with filter := some line }.run content other =
          .failure failure := by
        simp only [Invocation.run, loaded', answered]
      have fails : (Completion.failure failure).code ≠ 0 := by simp [Completion.failure]
      rw [alone]
      refine ⟨blank, fun _ succeeds => absurd succeeds fails, fun visible _ => ?_⟩
      refine ⟨failure, rfl, ?_, failure.line_of_unbroken ?_⟩
      · rw [Session.respond_of_answer visible, answered]
      · exact Session.unbroken_of_answer unbroken answered

section Run

variable {arguments : List String} {environmentPath : Option String}
  {content : String → FileContent} {invocation : Invocation} {session : Session}

end Run

end WhereClause.Command
