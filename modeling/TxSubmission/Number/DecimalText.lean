import TxSubmission.Number.Binary64
import TxSubmission.Text.Digit

/-!
Decimal text of binary numbers. Digits are chosen in one of two ways: the fewest that read back
as the same number, and of those the nearest; or a given count of significant digits, rounded
half to even. A layout then decides between positional and scientific spelling.
-/

namespace TxSubmission.Number

/-- Significant digits as one number, and the power of ten that the digits, read with a point in
front of the first one, are multiplied by. -/
structure Significand where
  digits : Nat
  point : Int
deriving DecidableEq, Repr

namespace Significand

def digitCount (n : Nat) : Nat := (Nat.toDigits 10 n).length

def pointOf (num den : Nat) : Int :=
  if den ≤ num then digitCount (num / den)
  else 1 - (digitCount ((den + num - 1) / num - 1) : Int)

def scale (num den : Nat) (e : Int) : Nat × Nat :=
  if e < 0 then (num, den * Nat.pow 10 (-e).toNat) else (num * Nat.pow 10 e.toNat, den)

def rounded (count num den : Nat) : Significand :=
  let point := pointOf num den
  let (n, d) := scale num den (count - point)
  let q := Binary64.divHalfEven n d
  if q = Nat.pow 10 count then ⟨Nat.pow 10 (count - 1), point + 1⟩ else ⟨q, point⟩

/-- The halves of the gaps to the two neighbours of a number, in quarters of its last place. The
gap below a power of two is half as wide, except at the least exponent. -/
def reach (mantissa : Nat) (e : Int) : Nat × Nat :=
  if mantissa = Nat.pow 2 52 ∧ Binary64.minExponent < e then (1, 2) else (2, 2)

/-- The decimal with a count of digits that reads back as a number and is nearest to it. Of two
that are equally near the one with the even last digit is taken. -/
def readsBack? (mantissa : Nat) (e : Int) (count : Nat) : Option Significand :=
  let (num, den) := Binary64.ratio (4 * mantissa) (e - 2)
  let (unitNum, unitDen) := Binary64.ratio 1 (e - 2)
  let point := pointOf num den
  let (below, above) := reach mantissa e
  let (n, d) := scale num den (count - point)
  let (u, v) := scale unitNum unitDen (count - point)
  let lower := n / d
  -- distances to the two grid points, over the common denominator `d * v`
  let down := (n - lower * d) * v
  let up := ((lower + 1) * d - n) * v
  let fits (distance half : Nat) : Bool :=
    if mantissa % 2 = 0 then distance ≤ half * u * d else distance < half * u * d
  let downFits := fits down below
  let upFits := fits up above
  if downFits && (!upFits || down < up || (down == up && lower % 2 == 0)) then
    some ⟨lower, point⟩
  else if upFits then
    some (if lower + 1 = Nat.pow 10 count then ⟨Nat.pow 10 (count - 1), point + 1⟩
      else ⟨lower + 1, point⟩)
  else none

def shortest (mantissa : Nat) (e : Int) : Significand :=
  let found := (List.range 16).findSome? fun i => readsBack? mantissa e (i + 1)
  found.getD (let (num, den) := Binary64.ratio mantissa e; rounded 17 num den)

end Significand

/-- How digits are set out: exponents below `positionalFrom` or from `positionalTo` on are
written with a power of ten, and a whole number may keep a point and a zero. -/
structure Layout where
  positionalFrom : Int
  positionalTo : Int
  wholePoint : Bool
deriving DecidableEq, Repr

namespace Layout

def power (e : Int) : List Char :=
  'e' :: (if e < 0 then '-' else '+') :: Text.paddedDigits 10 2 e.natAbs

def strip (digits : List Char) : List Char :=
  (digits.reverse.dropWhile (· == '0')).reverse

def spell (layout : Layout) (digits : List Char) (point : Int) : List Char :=
  let e := point - 1
  if e < layout.positionalFrom || layout.positionalTo ≤ e then
    match digits with
    | [] => power e
    | [d] => d :: power e
    | d :: rest => d :: '.' :: (rest ++ power e)
  else if point ≤ 0 then
    '0' :: '.' :: (List.replicate (-point).toNat '0' ++ digits)
  else
    let size := point.toNat
    let whole := digits.take size ++ List.replicate (size - digits.length) '0'
    match digits.drop size with
    | [] => if layout.wholePoint then whole ++ ['.', '0'] else whole
    | rest => whole ++ '.' :: rest

def write (layout : Layout) (choose : Nat → Int → Significand) (x : Binary64) : String :=
  let sign : List Char := if x.isNegative then ['-'] else []
  match x with
  | .nan => "nan"
  | .infinite _ => String.ofList (sign ++ ['i', 'n', 'f'])
  | .finite _ 0 _ => String.ofList (sign ++ layout.spell ['0'] 1)
  | .finite _ m e =>
    let s := choose m e
    String.ofList (sign ++ layout.spell (strip (Nat.toDigits 10 s.digits)) s.point)

end Layout

/-- Numbers in displays: the fewest digits that read back, positional from 0.0001 up to below
10^16, whole numbers with a point and a zero. -/
def displayLayout : Layout := ⟨-4, 16, true⟩

/-- Durations in messages: six significant digits, positional from 0.0001 up to below 10^6. -/
def durationLayout : Layout := ⟨-4, 6, false⟩

def Binary64.display (x : Binary64) : String :=
  displayLayout.write Significand.shortest x

def Binary64.duration (x : Binary64) : String :=
  durationLayout.write
    (fun m e => let (num, den) := Binary64.ratio m e; Significand.rounded 6 num den) x

end TxSubmission.Number
