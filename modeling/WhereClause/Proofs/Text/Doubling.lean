/-
# What quote doubling keeps

Doubling the quotes of a text only changes what stands next to a quote. A sequence
without quotes occurs in the doubled text exactly if it occurs in the text, and it
cannot begin inside the quotes around a text and end outside them.
-/

import WhereClause.Text.Doubling

namespace WhereClause.Text

theorem double_cons (quote c : Char) (cs : List Char) :
    double quote (c :: cs) = (if c = quote then [c, c] else [c]) ++ double quote cs := by
  simp [double]

/-- Doubling doubles the number of quotes. -/
theorem count_double (quote : Char) (cs : List Char) :
    (double quote cs).count quote = 2 * cs.count quote := by
  induction cs with
  | nil => rfl
  | cons c cs ih =>
      rw [double_cons, List.count_append, ih]
      by_cases isQuote : c = quote
      · subst isQuote
        rw [if_pos rfl, List.count_cons_self, List.count_cons_self, List.count_cons_self,
          List.count_nil]
        omega
      · rw [if_neg isQuote, List.count_cons_of_ne isQuote, List.count_cons_of_ne isQuote,
          List.count_nil, Nat.zero_add]

/-- In a doubled text a quote with an odd number of quotes before it comes second in its pair,
right behind the first. -/
theorem getLast?_of_double_eq {quote : Char} {cs before after : List Char}
    (same : double quote cs = before ++ quote :: after) (odd : before.count quote % 2 = 1) :
    before.getLast? = some quote := by
  induction cs generalizing before with
  | nil => simp [double] at same
  | cons c cs ih =>
      rw [double_cons] at same
      cases before with
      | nil => simp at odd
      | cons d before =>
          by_cases isQuote : c = quote
          · rw [if_pos isQuote, List.cons_append, List.cons_append, List.cons_append,
              List.cons_eq_cons] at same
            obtain ⟨isFirst, same⟩ := same
            obtain rfl : d = quote := isFirst.symm.trans isQuote
            cases before with
            | nil => rfl
            | cons e before =>
                rw [List.cons_append, List.cons_eq_cons] at same
                obtain rfl : e = d := same.1.symm.trans isQuote
                rw [List.count_cons_self, List.count_cons_self] at odd
                have last := ih same.2 (by omega)
                rw [List.getLast?_cons, List.getLast?_cons, last]
                rfl
          · rw [if_neg isQuote, List.singleton_append, List.cons_append, List.cons_eq_cons] at same
            obtain ⟨rfl, same⟩ := same
            rw [List.count_cons_of_ne isQuote] at odd
            rw [List.getLast?_cons, ih same odd]
            rfl

section Occurrence

variable {quote : Char} {sequence : List Char} (free : quote ∉ sequence)

include free

/-- A text that begins with a sequence without quotes does so before and after
doubling. -/
theorem prefix_double_iff (cs : List Char) :
    sequence <+: double quote cs ↔ sequence <+: cs := by
  induction sequence generalizing cs with
  | nil => simp
  | cons mark marks ih =>
      simp only [List.mem_cons, not_or] at free
      cases cs with
      | nil => simp [double]
      | cons c cs =>
          rw [double_cons]
          by_cases isQuote : c = quote
          · subst isQuote
            simp [List.cons_prefix_cons, Ne.symm free.1]
          · rw [if_neg isQuote, List.singleton_append, List.cons_prefix_cons,
              List.cons_prefix_cons, ih free.2]

/-- An occurrence that does not begin with the first character is one in the rest. -/
theorem infix_quote_cons_iff (nonempty : sequence ≠ []) (cs : List Char) :
    sequence <:+: quote :: cs ↔ sequence <:+: cs := by
  have notHere : ¬ sequence <+: quote :: cs := by
    obtain ⟨mark, marks, rfl⟩ := List.exists_cons_of_ne_nil nonempty
    rw [List.cons_prefix_cons]
    rintro ⟨rfl, -⟩
    exact free List.mem_cons_self
  rw [List.infix_cons_iff]
  simp [notHere]

/-- A sequence without quotes does not reach to a quote at the end. -/
theorem infix_concat_quote_iff (nonempty : sequence ≠ []) (cs : List Char) :
    sequence <:+: cs ++ [quote] ↔ sequence <:+: cs := by
  have notAtEnd : ¬ sequence <:+ cs ++ [quote] := by
    rw [List.suffix_concat_iff]
    rintro (empty | ⟨front, rfl, -⟩)
    · exact nonempty empty
    · exact free (by simp)
  rw [List.infix_concat_iff]
  simp [notAtEnd]

/-- A sequence without quotes occurs in the doubled text exactly if it occurs in the
text. -/
theorem infix_double_iff (cs : List Char) : sequence <:+: double quote cs ↔ sequence <:+: cs := by
  by_cases nonempty : sequence = []
  · simp [nonempty]
  induction cs with
  | nil => rfl
  | cons c cs ih =>
      have begins := prefix_double_iff free (c :: cs)
      rw [double_cons] at begins ⊢
      by_cases isQuote : c = quote
      · subst isQuote
        rw [if_pos rfl, List.cons_append, List.singleton_append,
          infix_quote_cons_iff free nonempty, infix_quote_cons_iff free nonempty,
          infix_quote_cons_iff free nonempty, ih]
      · rw [if_neg isQuote, List.singleton_append] at begins ⊢
        rw [List.infix_cons_iff, List.infix_cons_iff, begins, ih]

end Occurrence

end WhereClause.Text
