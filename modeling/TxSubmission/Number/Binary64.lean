/-!
Numbers of the binary interchange format with 64 bits. A finite number is a sign, a mantissa
below 2^53 and an exponent of two; every operation here is exact arithmetic on whole numbers
followed by one rounding to the nearest number of the format, a tie going to the even mantissa.
-/

namespace TxSubmission.Number

/-- A number of the format. `ofRatio` is the only source of finite values; it gives each value
one mantissa and exponent, so equal values other than the two zeros are equal terms. -/
inductive Binary64 where
  | finite (negative : Bool) (mantissa : Nat) (exponent : Int)
  | infinite (negative : Bool)
  | nan
deriving DecidableEq, Repr

namespace Binary64

def minExponent : Int := -1074

def maxExponent : Int := 971

def shiftDown (num den : Nat) (e : Int) : Nat × Nat :=
  if e < 0 then (num * Nat.pow 2 (-e).toNat, den) else (num, den * Nat.pow 2 e.toNat)

def divHalfEven (num den : Nat) : Nat :=
  let q := num / den
  let r := num % den
  if 2 * r < den then q
  else if den < 2 * r then q + 1
  else if q % 2 = 0 then q else q + 1

def pack (negative : Bool) (mantissa : Nat) (e : Int) : Binary64 :=
  if maxExponent < e then .infinite negative else .finite negative mantissa e

/-- The exponent at which a positive fraction has a mantissa of 53 bits, or the least one. -/
def exponentOf (num den : Nat) : Int :=
  let guess : Int := (num.log2 : Int) - den.log2 - 52
  let (n, d) := shiftDown num den guess
  max minExponent (if n / d < Nat.pow 2 52 then guess - 1 else guess)

/-- The number nearest to a fraction. -/
def ofRatio (negative : Bool) (num den : Nat) : Binary64 :=
  if num = 0 then .finite negative 0 minExponent
  else
    let e := exponentOf num den
    let (n, d) := shiftDown num den e
    let m := divHalfEven n d
    if m = Nat.pow 2 53 then pack negative (Nat.pow 2 52) (e + 1) else pack negative m e

def ratio (mantissa : Nat) (e : Int) : Nat × Nat := shiftDown mantissa 1 (-e)

def isNegative : Binary64 → Bool
  | .finite negative _ _ => negative
  | .infinite negative => negative
  | .nan => false

def isZero : Binary64 → Bool
  | .finite _ 0 _ => true
  | _ => false

/-- Less than zero; neither zero is, nor what is not a number. -/
def isBelowZero (x : Binary64) : Bool := x.isNegative && !x.isZero

def isBelowOne : Binary64 → Bool
  | .finite negative mantissa e =>
    let (num, den) := ratio mantissa e
    negative || num < den
  | .infinite negative => negative
  | .nan => false

def ofInt (n : Int) : Binary64 := ofRatio (n < 0) n.natAbs 1

def ofInt? (n : Int) : Option Binary64 :=
  match ofInt n with
  | .infinite _ => none
  | x => some x

def mul : Binary64 → Binary64 → Binary64
  | .nan, _ => .nan
  | _, .nan => .nan
  | .infinite s, y => if y.isZero then .nan else .infinite (s != y.isNegative)
  | x, .infinite t => if x.isZero then .nan else .infinite (x.isNegative != t)
  | .finite s m e, .finite t n f =>
    let (num, den) := ratio (m * n) (e + f)
    ofRatio (s != t) num den

def truncate (negative : Bool) (mantissa : Nat) (e : Int) : Int :=
  let (num, den) := ratio mantissa e
  if negative then -((num / den : Nat) : Int) else (num / den : Nat)

end Binary64

end TxSubmission.Number
