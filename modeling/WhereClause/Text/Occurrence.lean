/-
# Occurrences in a text

Whether one list of characters stands somewhere in another, without a gap.
-/

namespace WhereClause.Text

/-- Whether `sequence` stands somewhere in a text. -/
def occursIn (sequence : List Char) : List Char → Bool
  | [] => sequence.isEmpty
  | c :: rest => sequence.isPrefixOf (c :: rest) || occursIn sequence rest

/-- The test finds exactly the infixes. -/
theorem occursIn_iff_infix (sequence text : List Char) :
    occursIn sequence text = true ↔ sequence <:+: text := by
  induction text with
  | nil => simp [occursIn]
  | cons c rest ih => simp [occursIn, ih, List.infix_cons_iff]

end WhereClause.Text
