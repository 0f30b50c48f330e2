import TxSubmission.Text.Blank
import TxSubmission.Text.Digit

/-!
Bytes written as pairs of hex digits. Blanks of ASCII may stand in front of a pair and at the end of
a text, but not between the two digits of a pair.
-/

namespace TxSubmission.Text

def hexBytes? : List Char → Option (List UInt8)
  | [] => some []
  | c :: rest =>
    if isAsciiBlank c then hexBytes? rest
    else
      match rest with
      | [] => none
      | d :: others =>
        match hexValue? c, hexValue? d with
        | some high, some low => (hexBytes? others).map (UInt8.ofNat (16 * high + low) :: ·)
        | _, _ => none

def hexOfBytes (bytes : List UInt8) : List Char :=
  bytes.flatMap fun b => paddedDigits 16 2 b.toNat

end TxSubmission.Text
