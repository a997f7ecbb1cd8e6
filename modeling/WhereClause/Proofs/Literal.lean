/-
# What literals look like

A literal is a number, one of three words, or a quoted string whose quotes are all
doubled, so that none of them can close it early. In a quoted string no statement
ends and no comment begins: the check for that is made on the lowercase form of
the text, before its outer quotes are taken off and the inner ones doubled, and
none of these steps makes or removes one of the forbidden sequences.
-/

import WhereClause.Literal
import WhereClause.Proofs.Text.Doubling
import WhereClause.Proofs.Text.Lowercase

namespace WhereClause.Literal

/-- The literal that a text stands for, case by case. -/
theorem ofText_eq_ok_iff {reserved : ReservedWords} {text : String} {value : Literal} :
    ofText reserved text = .ok value ↔
      (isNumber text = true ∧ value = ⟨text⟩) ∨
      (isNumber text = false ∧ forbiddenSequence? (Text.lowercase text) = none ∧
        reserved.contains (Text.lowercase text) = false ∧
        value = if Text.lowercase text ∈ keywordLiterals then ⟨Text.lowercase text⟩
          else ⟨String.ofList (quote (stripQuotes text.toList))⟩) := by
  unfold ofText
  by_cases number : isNumber text = true
  · simp [number, eq_comm (a := value)]
  · cases forbidden : forbiddenSequence? (Text.lowercase text) with
    | some sequence => simp [number, forbidden]
    | none =>
        by_cases isReserved : reserved.contains (Text.lowercase text) = true
        · simp [number, forbidden, isReserved]
        · by_cases keyword : Text.lowercase text ∈ keywordLiterals
          · simp [number, forbidden, isReserved, keyword, eq_comm (a := value)]
          · simp [number, forbidden, isReserved, keyword, eq_comm (a := value)]

/-- The forbidden sequences are made of plain characters, and no quote is among
them. -/
theorem plain_of_mem_forbiddenSequences {sequence : String}
    (forbidden : sequence ∈ forbiddenSequences) :
    (∀ c ∈ sequence.toList, Text.IsPlain c) ∧ '\'' ∉ sequence.toList ∧ sequence.toList ≠ [] := by
  simp only [forbiddenSequences, List.mem_cons, List.not_mem_nil, or_false] at forbidden
  rcases forbidden with rfl | rfl | rfl | rfl <;>
    exact ⟨Text.forall_mem_of_all rfl, by decide, by decide⟩

/-- Lowercasing a text neither brings forbidden sequences nor hides them. -/
theorem forbiddenSequence?_lowercase (text : String) :
    forbiddenSequence? (Text.lowercase text) = forbiddenSequence? text := by
  have same : ∀ sequence ∈ forbiddenSequences,
      Text.occursIn sequence.toList (Text.lowercase text).toList =
        Text.occursIn sequence.toList text.toList := by
    intro sequence forbidden
    have plain := (plain_of_mem_forbiddenSequences forbidden).1
    rw [Bool.eq_iff_iff, Text.occursIn_iff_infix, Text.occursIn_iff_infix, Text.lowercase,
      String.toList_ofList, Text.lowercaseChars, Text.infix_lowercaseFrom_iff plain]
  simp only [forbiddenSequences, List.forall_mem_cons] at same
  simp only [forbiddenSequence?, forbiddenSequences, List.find?_cons, List.find?_nil, same]

/-- No forbidden sequence is found exactly if none occurs. -/
theorem forbiddenSequence?_eq_none_iff {text : String} :
    forbiddenSequence? text = none ↔
      ∀ sequence ∈ forbiddenSequences, ¬ sequence.toList <:+: text.toList := by
  simp only [forbiddenSequence?, List.find?_eq_none, Text.occursIn_iff_infix]

/-- What is left without the outer quotes stands in the text. -/
theorem stripQuotes_isInfix (cs : List Char) : stripQuotes cs <:+: cs := by
  have body (cs : List Char) : (if cs.getLast? = some '\'' then cs.dropLast else cs) <:+: cs := by
    split
    · exact (List.dropLast_prefix cs).isInfix
    · exact List.infix_refl cs
  unfold stripQuotes
  dsimp only
  split
  · exact (body _).trans (List.suffix_cons _ _).isInfix
  · exact body _

/-- A sequence without quotes occurs in a quoted string exactly if it occurs in what
was quoted. -/
theorem infix_quote_iff {sequence : List Char} (free : '\'' ∉ sequence) (nonempty : sequence ≠ [])
    (body : List Char) : sequence <:+: quote body ↔ sequence <:+: body := by
  rw [quote, List.cons_append, Text.infix_quote_cons_iff free nonempty,
    Text.infix_concat_quote_iff free nonempty, Text.infix_double_iff free]

/-- The words that are looked up are those for the truth values and the missing value. -/
theorem mem_keywordLiterals_iff {word : String} :
    word ∈ keywordLiterals ↔ word ∈ ["true", "false", "null"] :=
  Iff.rfl

/-- The sequences that are looked for are the end of a statement and the comment marks. -/
theorem mem_forbiddenSequences_iff {sequence : String} :
    sequence ∈ forbiddenSequences ↔ sequence ∈ [";", "--", "/*", "*/"] :=
  Iff.rfl

/-- The literal is a number, a word that stands for a truth value or for the missing
value, or a quoted string whose quotes are all doubled and in which no statement ends
and no comment begins or ends. -/
inductive IsSafe (value : Literal) : Prop
  | number : isNumber value.sql = true → IsSafe value
  | keyword : value.sql ∈ ["true", "false", "null"] → IsSafe value
  | string (body : List Char) : value.sql.toList = quote body →
      (∀ sequence ∈ [";", "--", "/*", "*/"], ¬ sequence.toList <:+: value.sql.toList) →
      IsSafe value

/-- Whatever text a literal was made from, it is safe. -/
theorem isSafe_of_ofText {reserved : ReservedWords} {text : String} {value : Literal}
    (given : ofText reserved text = .ok value) : value.IsSafe := by
  rcases ofText_eq_ok_iff.mp given with ⟨number, rfl⟩ | ⟨-, allowed, -, made⟩
  · exact .number number
  · split at made
    · next keyword =>
        subst made
        exact .keyword (mem_keywordLiterals_iff.mp keyword)
    · subst made
      refine .string (stripQuotes text.toList) String.toList_ofList fun sequence listed => ?_
      have forbidden := mem_forbiddenSequences_iff.mpr listed
      rw [forbiddenSequence?_lowercase, forbiddenSequence?_eq_none_iff] at allowed
      obtain ⟨-, free, nonempty⟩ := plain_of_mem_forbiddenSequences forbidden
      rw [String.toList_ofList, infix_quote_iff free nonempty]
      exact fun occurs => allowed sequence forbidden (occurs.trans (stripQuotes_isInfix _))

end WhereClause.Literal
