import TxSubmission.Number.Literal

/-!
Reading whole numbers from the text of a setting. Blanks at the ends, a sign, zeros in front,
single underscores and a fraction of zeros alone are taken away; what is left has to be a number
in its plain form. A minus may also stand behind the zeros in front.
-/

namespace TxSubmission.Number.Whole

open Text

inductive Fault where
  | malformed
  | tooLong
deriving DecidableEq, Repr

def isLeading (c : Char) : Bool :=
  c == '-' || ('1' ≤ c && c ≤ '9')

/-- What is left behind a zero and further zeros and underscores. The last of these stays if
nothing but a fraction follows it. -/
def afterZero (last : Char) : List Char → Option (List Char)
  | [] => some [last]
  | c :: rest =>
    if c = '0' ∨ c = '_' then afterZero c rest
    else if isLeading c then some (c :: rest)
    else if c = '.' then some (last :: c :: rest)
    else none

def withoutZeros : List Char → Option (List Char)
  | [] => none
  | c :: rest =>
    if c = '0' then afterZero c rest
    else if isLeading c then some (c :: rest)
    else none

def withoutFraction (s : List Char) : List Char :=
  match s.dropWhile (· != '.') with
  | _ :: zero :: zeros =>
    if (zero :: zeros).all (· == '0') then s.takeWhile (· != '.') else s
  | _ => s

/-- Splits the sign from a number; after a plus no minus may follow. -/
def signed? : List Char → Option (Bool × List Char)
  | '+' :: '-' :: _ => none
  | s => some (signed s)

def plain? (s : List Char) : Option (List Char) := do
  let (negative, rest) ← signed? (trim s)
  let rest := withoutFraction (← withoutZeros rest)
  let rest := (withoutUnderscores? rest).getD rest
  pure (if negative then '-' :: rest else rest)

/-- The digits at the start of a plain number, and what follows them. A zero stands alone. -/
def spanPlain : List Char → List Nat × List Char
  | '0' :: rest => ([0], rest)
  | s => spanDecimals s

/-- Reads a plain number. Its length, of which the minus is part, is judged before what follows
the digits. -/
def readPlain (s : List Char) : Except Fault Int :=
  let negative := s.head? == some '-'
  let (digits, after) := spanPlain (if negative then s.drop 1 else s)
  if maxDecimalDigits < digits.length + (if negative then 1 else 0) then .error .tooLong
  else if digits.isEmpty || !after.isEmpty then .error .malformed
  else .ok (literalValue 10 negative digits)

def read (text : String) : Except Fault Int :=
  match plain? text.toList with
  | some plain => readPlain plain
  | none => .error .malformed

end TxSubmission.Number.Whole
