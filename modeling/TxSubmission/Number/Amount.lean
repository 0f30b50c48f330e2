import TxSubmission.Number.DecimalText
import TxSubmission.Number.Literal

/-!
Amounts of time. A duration is given as a whole number of seconds or as a binary number, and
keeps the form in which it was given; a product with a whole number keeps it too.
-/

namespace TxSubmission.Number

inductive Amount where
  | whole (n : Int)
  | real (x : Binary64)
deriving DecidableEq, Repr

namespace Amount

def isBelowZero : Amount → Bool
  | .whole n => n < 0
  | .real x => x.isBelowZero

def toBinary64 : Amount → Binary64
  | .whole n => .ofInt n
  | .real x => x

/-- The nearest binary number, unless a whole amount is out of range. -/
def toBinary64? : Amount → Option Binary64
  | .whole n => Binary64.ofInt? n
  | .real x => some x

/-- A multiple of an amount, unless the factor is out of range. -/
def times? : Amount → Int → Option Amount
  | .whole n, count => some (.whole (n * count))
  | .real x, count => (Binary64.ofInt? count).map fun factor => .real (x.mul factor)

end Amount

end TxSubmission.Number
