/-!
# Runs of characters

A class of characters as data: the first and last code points of its runs.
-/

namespace TreeBridge

namespace Text

/-- Whether a code point lies in one of several runs. -/
def isInRuns (runs : List (Nat × Nat)) (n : Nat) : Bool :=
  runs.any (fun run => decide (run.1 ≤ n) && decide (n ≤ run.2))

end Text

end TreeBridge
