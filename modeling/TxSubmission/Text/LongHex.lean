import TxSubmission.Text.Digit

/-!
Long hex runs. A run is the mark 0x with all hex digits that follow it. Runs with more digits
than a transaction hash has are cut down to their two ends and their size; a text is searched
from left to right and each run is taken whole.
-/

namespace TxSubmission.Text

/-- The greatest length, mark included, of a hex text that is shown in full with room to spare
for a hash of 32 bytes. -/
def maxHexChars : Nat := 74

def longRun? : List Char → Option (List Char)
  | '0' :: 'x' :: rest =>
    let digits := rest.takeWhile isHexDigit
    if maxHexChars - 1 ≤ digits.length then some ('0' :: 'x' :: digits) else none
  | _ => none

def abbreviate (run : List Char) : List Char :=
  run.take 18 ++ "...".toList ++ run.drop (run.length - 8) ++
    " (".toList ++ Nat.toDigits 10 ((run.length - 2) / 2) ++ " bytes)".toList

/-- Shortens the long runs of a text of which some characters still belong to the last run. -/
def shortenFrom : Nat → List Char → List Char
  | _, [] => []
  | skip + 1, _ :: rest => shortenFrom skip rest
  | 0, c :: rest =>
    match longRun? (c :: rest) with
    | some run => abbreviate run ++ shortenFrom (run.length - 1) rest
    | none => c :: shortenFrom 0 rest

def shortenHex (s : String) : String := String.ofList (shortenFrom 0 s.toList)

end TxSubmission.Text
