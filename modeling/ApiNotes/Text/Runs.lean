/-!
# Runs of code points

A property of characters is kept as a list of runs: the first and the last code point of
each.
-/

namespace ApiNotes

namespace Text

/-- Whether a code point lies in one of the runs. -/
def inRuns (runs : List (Nat × Nat)) (n : Nat) : Bool :=
  runs.any fun run => run.1 ≤ n && n ≤ run.2

end Text

end ApiNotes
