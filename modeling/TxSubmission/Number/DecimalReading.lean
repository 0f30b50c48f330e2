import TxSubmission.Number.Binary64
import TxSubmission.Text.Blank
import TxSubmission.Text.Digit

/-!
Reading binary numbers from decimal text. Three grammars share one notation of digits, point and
power: the one of JSON, which is strict about where digits have to stand, and two lax ones that
also know the words for infinity and for what is not a number. Every reading is the number
nearest to the exact decimal.
-/

namespace TxSubmission.Number

open Text

structure Decimal where
  whole : List Nat
  fraction : List Nat
  power : Int
deriving DecidableEq, Repr

namespace Decimal

/-- The nearest number. Decimals beyond the range of the format in either direction are decided
by the place of their first digit, so that no great power is ever computed. -/
def toBinary64 (negative : Bool) (d : Decimal) : Binary64 :=
  let digits := digitsValue 10 (d.whole ++ d.fraction)
  let e := d.power - d.fraction.length
  let top := (Nat.toDigits 10 digits).length + e
  if digits = 0 then .ofRatio negative 0 1
  else if 400 < top then .infinite negative
  else if top < -400 then .ofRatio negative 0 1
  else if e < 0 then .ofRatio negative digits (Nat.pow 10 (-e).toNat)
  else .ofRatio negative (digits * Nat.pow 10 e.toNat) 1

def afterPoint : List Char → List Nat × List Char
  | '.' :: rest => spanDecimals rest
  | rest => ([], rest)

def power? (s : List Char) : Option Int :=
  let (negative, rest) :=
    match s with
    | '-' :: rest => (true, rest)
    | '+' :: rest => (false, rest)
    | rest => (false, rest)
  match spanDecimals rest with
  | ([], _) => none
  | (digits, []) =>
    let n : Int := digitsValue 10 digits
    some (if negative then -n else n)
  | _ => none

def exponent? : List Char → Option Int
  | [] => some 0
  | c :: rest => if c = 'e' ∨ c = 'E' then power? rest else none

def lax? (s : List Char) : Option Decimal :=
  let (whole, rest) := spanDecimals s
  let (fractional, rest) := afterPoint rest
  if whole.isEmpty && fractional.isEmpty then none
  else (exponent? rest).map (⟨whole, fractional, ·⟩)

def strict? (s : List Char) : Option Decimal :=
  let (whole, rest) := spanDecimals s
  let (fractional, after) := afterPoint rest
  if whole.isEmpty || (whole.head? == some 0 && whole.length != 1) then none
  else if rest.head? == some '.' && fractional.isEmpty then none
  else (exponent? after).map (⟨whole, fractional, ·⟩)

end Decimal

namespace Binary64

def sameWord (s : List Char) (word : String) : Bool :=
  s.map Char.toLower == word.toList

def readPlain? (s : List Char) : Option Binary64 :=
  let (negative, rest) :=
    match s with
    | '-' :: rest => (true, rest)
    | '+' :: rest => (false, rest)
    | rest => (false, rest)
  if sameWord rest "inf" || sameWord rest "infinity" then some (.infinite negative)
  else if sameWord rest "nan" then some .nan
  else (Decimal.lax? rest).map (·.toBinary64 negative)

/-- Drops every underscore that stands between two digits; the flag says that a digit has just
been read. -/
def dropInnerUnderscores : Bool → List Char → List Char
  | _, [] => []
  | afterDigit, c :: rest =>
    if c == '_' && afterDigit && (rest.head?.bind asciiDecimal?).isSome then
      dropInnerUnderscores false rest
    else c :: dropInnerUnderscores (asciiDecimal? c).isSome rest

/-- A number between blanks, with digits of any script and single underscores between them. -/
def readLax? (text : String) : Option Binary64 :=
  readPlain? (dropInnerUnderscores false ((trim text.toList).map toAsciiDigit))

/-- A number between blanks, with ASCII digits, or one without blanks in which single underscores
stand anywhere but at the two ends. -/
def readLoose? (text : String) : Option Binary64 :=
  (readPlain? (trim text.toList)).or
    ((withoutUnderscores? text.toList).bind readPlain?)

end Binary64

end TxSubmission.Number
