import TxSubmission.Text.Utf8

/-!
Text in wide units. A body of bytes is UTF-8 unless zeros among its first four bytes show that it
was written in units of two or four bytes, in either byte order. A body that ends inside a unit or
names no code point has no text; what stands for half of a surrogate pair is told to the reader.
-/

namespace TxSubmission.Text

inductive Units where
  | bytes
  | pairs (bigEndian : Bool)
  | quads (bigEndian : Bool)
deriving DecidableEq, Repr

/-- The units of a body, as its first bytes show them. -/
def unitsOf : List UInt8 → Units
  | a :: b :: c :: d :: _ =>
    if a = 0 then if b = 0 then .quads true else .pairs true
    else if b = 0 then if c = 0 ∧ d = 0 then .quads false else .pairs false
    else .bytes
  | [a, b] => if a = 0 then .pairs true else if b = 0 then .pairs false else .bytes
  | _ => .bytes

def pairValues? (bigEndian : Bool) : List UInt8 → Option (List Nat)
  | [] => some []
  | [_] => none
  | a :: b :: rest =>
    let n := if bigEndian then 256 * a.toNat + b.toNat else 256 * b.toNat + a.toNat
    (pairValues? bigEndian rest).map (n :: ·)

def quadValues? (bigEndian : Bool) : List UInt8 → Option (List Nat)
  | [] => some []
  | a :: b :: c :: d :: rest =>
    let digits := [a.toNat, b.toNat, c.toNat, d.toNat]
    let n := (if bigEndian then digits else digits.reverse).foldl (256 * · + ·) 0
    if n < 0x110000 then (quadValues? bigEndian rest).map (n :: ·) else none
  | _ => none

def isHighHalf (n : Nat) : Bool := 0xd800 ≤ n && n ≤ 0xdbff

def isLowHalf (n : Nat) : Bool := 0xdc00 ≤ n && n ≤ 0xdfff

def wholeChar (stand : Char) (n : Nat) : Char :=
  if isHighHalf n || isLowHalf n then stand else Char.ofNat n

def joinHalves (stand : Char) : List Nat → List Char
  | [] => []
  | [n] => [wholeChar stand n]
  | n :: m :: rest =>
    if isHighHalf n && isLowHalf m then
      Char.ofNat (0x10000 + (n - 0xd800) * 0x400 + (m - 0xdc00)) :: joinHalves stand rest
    else wholeChar stand n :: joinHalves stand (m :: rest)

/-- The text of a body whose bytes spell a given text as UTF-8. -/
def unfoldUnits? (stand : Char) (s : List Char) : Option (List Char) :=
  let body := encodeUtf8 s
  match unitsOf body with
  | .bytes => some s
  | .pairs bigEndian => (pairValues? bigEndian body).map (joinHalves stand)
  | .quads bigEndian => (quadValues? bigEndian body).map (·.map (wholeChar stand))

end TxSubmission.Text
