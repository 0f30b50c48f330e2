import TxSubmission.Text.Blank
import TxSubmission.Text.Digit
import TxSubmission.Text.Quoted

/-!
Whole numbers in text. A literal is an optional sign and digits, with blanks allowed at both
ends and single underscores between digits; a hex literal may have the mark 0x after its sign,
and one underscore after the mark. Decimal digits of every script count, the letters of hex
digits are ASCII. The length of a decimal literal is judged on its digits alone, before what
follows them is looked at.
-/

namespace TxSubmission.Number

open Text

inductive LiteralFault where
  | malformed (base : Nat) (text : String)
  | tooLong (digits : Nat)
  | tooLongToShow
deriving DecidableEq, Repr

def maxDecimalDigits : Nat := 4300

def tooLongSentence (count : String) : String :=
  "Exceeds the limit (" ++ toString maxDecimalDigits ++
    " digits) for integer string conversion" ++ count ++
    "; use sys.set_int_max_str_digits() to increase the limit"

def LiteralFault.message : LiteralFault → String
  | .malformed base text =>
    "invalid literal for int() with base " ++ toString base ++ ": " ++
      String.ofList ((quoted text.toList).take 200)
  | .tooLong digits => tooLongSentence (": value has " ++ toString digits ++ " digits")
  | .tooLongToShow => tooLongSentence ""

def digit? (base : Nat) (c : Char) : Option Nat :=
  ((decimalValue? c).or (hexValue? c)).filter (· < base)

/-- The digits of a text in which an underscore may stand between two of them. -/
def digits? (base : Nat) : List Char → Option (List Nat)
  | [] => none
  | c :: rest =>
    match digit? base c, rest with
    | none, _ => none
    | some d, [] => some [d]
    | some d, '_' :: others => (digits? base others).map (d :: ·)
    | some d, others => (digits? base others).map (d :: ·)

def signed : List Char → Bool × List Char
  | '-' :: rest => (true, rest)
  | '+' :: rest => (false, rest)
  | rest => (false, rest)

/-- Drops the mark of a hex literal, with the underscore that may follow it. -/
def dropHexMark : List Char → List Char
  | c :: x :: rest =>
    if decimalValue? c = some 0 ∧ (x = 'x' ∨ x = 'X') then
      match rest with
      | '_' :: others => others
      | others => others
    else c :: x :: rest
  | s => s

def body (base : Nat) (s : List Char) : List Char :=
  if base = 16 then dropHexMark s else s

def isRunChar (base : Nat) (c : Char) : Bool :=
  c == '_' || (digit? base c).isSome

def literal? (base : Nat) (s : List Char) : Option (Bool × List Nat × List Char) :=
  let (negative, rest) := signed (s.dropWhile isBlank)
  let rest := body base rest
  (digits? base (rest.takeWhile (isRunChar base))).map
    (negative, ·, rest.dropWhile (isRunChar base))

def literalValue (base : Nat) (negative : Bool) (digits : List Nat) : Int :=
  if negative then -(digitsValue base digits : Int) else digitsValue base digits

def readInt (base : Nat) (text : String) : Except LiteralFault Int :=
  match literal? base text.toList with
  | none => .error (.malformed base text)
  | some (negative, digits, after) =>
    if base = 10 ∧ maxDecimalDigits < digits.length then .error (.tooLong digits.length)
    else if after.all isBlank then .ok (literalValue base negative digits)
    else .error (.malformed base text)

def decimalText (n : Int) : String :=
  match n with
  | .ofNat m => String.ofList (Nat.toDigits 10 m)
  | .negSucc m => String.ofList ('-' :: Nat.toDigits 10 (m + 1))

/-- The spelling of a number that is short enough to be shown. -/
def shown (n : Int) : Except LiteralFault String :=
  if n.natAbs < Nat.pow 10 maxDecimalDigits then .ok (decimalText n) else .error .tooLongToShow

theorem shown_of_short {n : Int} (short : n.natAbs < Nat.pow 10 maxDecimalDigits) :
    shown n = .ok (decimalText n) :=
  if_pos short

theorem shown_of_long {n : Int} (long : Nat.pow 10 maxDecimalDigits ≤ n.natAbs) :
    shown n = .error .tooLongToShow :=
  if_neg (Nat.not_lt.mpr long)

end TxSubmission.Number
