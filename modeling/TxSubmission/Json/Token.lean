import TxSubmission.Json
import TxSubmission.Number.DecimalReading
import TxSubmission.Number.Literal
import TxSubmission.Text.Utf8

/-!
The tokens of the data format. A text is cut by a machine that takes one character at a time and
remembers how far it has come within the current token, so scanning is one pass over the
characters. Beside strict numbers the format has the three words for infinity and for what is
not a number; control characters inside texts are refused.

An escape may name half of a surrogate pair, which is no character. Texts have no place for a half
that stands alone, so the machine is told what to put there.
-/

namespace TxSubmission.Json

open Number Text

inductive Mark where
  | listOpen
  | listClose
  | objectOpen
  | objectClose
  | comma
  | colon
deriving DecidableEq, Repr

inductive Token where
  | mark (m : Mark)
  | text (s : String)
  | scalar (value : Json)

def mark? : Char → Option Mark
  | '[' => some .listOpen
  | ']' => some .listClose
  | '\x7b' => some .objectOpen
  | '\x7d' => some .objectClose
  | ',' => some .comma
  | ':' => some .colon
  | _ => none

def isGap (c : Char) : Bool :=
  c == ' ' || c == '\t' || c == '\n' || c == '\r'

/-- A number: whole if it has neither point nor power, and then not longer than the limit. -/
def number? (s : List Char) : Option Json :=
  let (negative, rest) :=
    match s with
    | '-' :: rest => (true, rest)
    | rest => (false, rest)
  (Decimal.strict? rest).bind fun decimal =>
    if (spanDecimals rest).2.isEmpty then
      if maxDecimalDigits < decimal.whole.length then none
      else some (.int (literalValue 10 negative decimal.whole))
    else some (.real (decimal.toBinary64 negative))

def scalar? (s : List Char) : Option Json :=
  if s = "null".toList then some .null
  else if s = "true".toList then some (.bool true)
  else if s = "false".toList then some (.bool false)
  else if s = "NaN".toList then some (.real .nan)
  else if s = "Infinity".toList then some (.real (.infinite false))
  else if s = "-Infinity".toList then some (.real (.infinite true))
  else number? s

def shortEscape? : Char → Option Char
  | '"' => some '"'
  | '\\' => some '\\'
  | '/' => some '/'
  | 'b' => some '\x08'
  | 'f' => some '\x0c'
  | 'n' => some '\n'
  | 'r' => some '\r'
  | 't' => some '\t'
  | _ => none

/-- How far the current token has been read. Texts are kept in reverse, with the first half of a
surrogate pair apart until the next character shows whether it has a second half. -/
inductive Progress where
  | between
  | scalar (read : List Char)
  | text (read : List Char) (half : Option Nat)
  | escape (read : List Char) (half : Option Nat)
  | unit (read : List Char) (half : Option Nat) (digits : List Nat)

/-- A text before which a half pair is now known to stand alone. -/
def settled (stand : Char) (read : List Char) : Option Nat → List Char
  | none => read
  | some _ => stand :: read

def takeUnit (stand : Char) (read : List Char) (half : Option Nat) (n : Nat) : Progress :=
  let low := 0xdc00 ≤ n && n ≤ 0xdfff
  match half, low with
  | some high, true =>
    .text (Char.ofNat (0x10000 + (high - 0xd800) * 0x400 + (n - 0xdc00)) :: read) none
  | _, true => .text (stand :: settled stand read half) none
  | _, false =>
    if 0xd800 ≤ n && n ≤ 0xdbff then .text (settled stand read half) (some n)
    else .text (Char.ofNat n :: settled stand read half) none

def start (c : Char) : Progress × List Token :=
  if isGap c then (.between, [])
  else
    match mark? c with
    | some m => (.between, [.mark m])
    | none => if c = '"' then (.text [] none, []) else (.scalar [c], [])

def isBoundary (c : Char) : Bool := isGap c || (mark? c).isSome || c == '"'

def Progress.step (stand : Char) : Progress → Char → Option (Progress × List Token)
  | .between, c => some (start c)
  | .scalar read, c =>
    if isBoundary c then
      (scalar? read.reverse).map fun value => ((start c).1, .scalar value :: (start c).2)
    else some (.scalar (c :: read), [])
  | .text read half, c =>
    if c = '"' then some (.between, [.text (String.ofList (settled stand read half).reverse)])
    else if c = '\\' then some (.escape read half, [])
    else if c.toNat < 0x20 then none
    else some (.text (c :: settled stand read half) none, [])
  | .escape read half, c =>
    if c = 'u' then some (.unit read half [], [])
    else (shortEscape? c).map fun d => (.text (d :: settled stand read half) none, [])
  | .unit read half digits, c =>
    (hexValue? c).map fun d =>
      if digits.length = 3 then (takeUnit stand read half (digitsValue 16 (digits ++ [d])), [])
      else (.unit read half (digits ++ [d]), [])

def Progress.finish : Progress → Option (List Token)
  | .between => some []
  | .scalar read => (scalar? read.reverse).map ([.scalar ·])
  | _ => none

end TxSubmission.Json
