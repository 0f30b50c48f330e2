/-!
Classes of characters that are kept as runs of code points.
-/

namespace TxSubmission.Text

/-- Whether a character lies in one of the runs, each of which is told by its first and its last
code point. -/
def inRuns (runs : List (Nat × Nat)) (c : Char) : Bool :=
  runs.any fun (first, last) => first ≤ c.toNat && c.toNat ≤ last

end TxSubmission.Text
