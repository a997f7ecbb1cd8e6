/-
# Quote doubling

The escape that filters and SQL share: inside a quoted text the quote character
is written twice. `double` writes, `undouble` reads. String values have the single
quote and table names the quote of the dialect, so the quote is a parameter.
-/

namespace WhereClause.Text

/-- Write every occurrence of `quote` twice and all else once. -/
def double (quote : Char) (cs : List Char) : List Char :=
  cs.flatMap fun c => if c = quote then [c, c] else [c]

/-- One character of a text read by `undouble`. The flag says that the character
before was a quote that still lacks its double. -/
def undoubleStep (quote : Char) (state : List Char × Bool) (c : Char) : List Char × Bool :=
  if c = quote then
    if state.2 then (state.1, false) else (c :: state.1, true)
  else
    (c :: state.1, false)

/-- Read a pair of quotes as one quote. A quote that stands alone is kept. -/
def undouble (quote : Char) (cs : List Char) : List Char :=
  (cs.foldl (undoubleStep quote) ([], false)).1.reverse

/-- Reading what was written onto some characters read before puts the text
after them. -/
theorem foldl_undoubleStep_double (quote : Char) (cs done : List Char) :
    (double quote cs).foldl (undoubleStep quote) (done, false) = (cs.reverse ++ done, false) := by
  induction cs generalizing done with
  | nil => rfl
  | cons c cs ih =>
    by_cases h : c = quote
    · have := ih (c :: done)
      simp_all [double, undoubleStep]
    · have := ih (c :: done)
      simp_all [double, undoubleStep]

/-- Doubling loses nothing. -/
theorem undouble_double (quote : Char) (cs : List Char) :
    undouble quote (double quote cs) = cs := by
  simp [undouble, foldl_undoubleStep_double]

end WhereClause.Text
