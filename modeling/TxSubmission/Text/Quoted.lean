import TxSubmission.Text.Digit
import TxSubmission.Text.Printable

/-!
Quoted texts, as they stand inside messages and inside the display of lists and objects. A text
is set in apostrophes, or in double quotes when it holds an apostrophe and no double quote.
Characters that cannot be seen are written by their code points.
-/

namespace TxSubmission.Text

def apostrophe : Char := '\x27'

def doubleQuote : Char := '\x22'

def backslash : Char := '\x5c'

def quoteMark (s : List Char) : Char :=
  if s.contains apostrophe && !s.contains doubleQuote then doubleQuote else apostrophe

/-- A code point in the shortest of the three escaped widths that holds it. -/
def escapeCode (n : Nat) : List Char :=
  if n < 0x100 then backslash :: 'x' :: paddedDigits 16 2 n
  else if n < 0x10000 then backslash :: 'u' :: paddedDigits 16 4 n
  else backslash :: 'U' :: paddedDigits 16 8 n

def quoteChar (mark c : Char) : List Char :=
  if c == mark || c == backslash then [backslash, c]
  else if c == '\n' then [backslash, 'n']
  else if c == '\r' then [backslash, 'r']
  else if c == '\t' then [backslash, 't']
  else if isPrintable c then [c]
  else escapeCode c.toNat

def quoted (s : List Char) : List Char :=
  quoteMark s :: (s.flatMap (quoteChar (quoteMark s)) ++ [quoteMark s])

end TxSubmission.Text
