/-
# Failures and their reports

A failure is a text and the chain of what lies behind it. It is reported at
length where it ends a program, and in one line where a session goes on.
-/

namespace WhereClause.Command

/-- What went wrong, and what lies behind it, the nearest first. -/
structure Failure where
  text : String
  sources : List String
  deriving DecidableEq, Repr

namespace Failure

/-- A text with the lines after the first indented. -/
def hang (indentation : String) (text : String) : String :=
  ("\n" ++ indentation).intercalate ((text.toList.splitOn '\n').map String.ofList)

/-- A chain of sources, each on lines of its own. They are numbered if there are
several. -/
def listed : List String → String
  | [] => ""
  | [source] => "\n\nCaused by:\n    " ++ hang "    " source
  | sources =>
    "\n\nCaused by:" ++ String.join
      (sources.zipIdx.map fun (source, number) =>
        "\n    " ++ toString number ++ ": " ++ hang "       " source)

/-- The report that ends a program. -/
def report (failure : Failure) : String :=
  "Error: " ++ failure.text ++ listed failure.sources ++ "\n"

/-- The report in one line, as far as the texts have one. -/
def line (failure : Failure) : String :=
  "error: " ++ ": ".intercalate (failure.text :: failure.sources) ++ "\n"

end Failure

end WhereClause.Command
