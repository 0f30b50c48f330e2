import TxSubmission.Fault
import TxSubmission.Json
import TxSubmission.Text.HexBytes
import TxSubmission.Text.Utf8

/-!
Revert payloads. A contract that reverts with a reason returns the selector of Error(string),
an offset word, a length word, and the bytes of the reason padded to whole words, all as hex
text. Reading looks at the selector, the length and as many bytes as the length says; the offset
word and what follows the bytes are not examined. Writing gives the canonical payload.
-/

namespace TxSubmission.Revert

open Number Text

def selector : String := "0x08c379a0"

def wordDigits : Nat := 64

def word (n : Nat) : List Char := paddedDigits 16 wordDigits n

def encode (reason : String) : List Char :=
  let bytes := encodeUtf8 reason.toList
  selector.toList ++ word 32 ++ word bytes.length ++ hexOfBytes bytes

/-- The part of a text from one place up to another. A text that ends earlier is cut at its end, and
a place below zero is counted from there. -/
def part (s : List Char) (start : Nat) (stop : Int) : List Char :=
  (s.take (if stop < 0 then s.length + stop else stop).toNat).drop start

/-- The reason in what follows the selector. The length may be any number, and what lies within it
may be cut off or hold blanks; only if it comes to as many bytes as the length says are they the
reason. -/
def reason? (body : List Char) : Option String :=
  if body.length < 2 * wordDigits then none
  else
    match readInt 16 (String.ofList (part body wordDigits (2 * wordDigits))) with
    | .error _ => none
    | .ok length =>
      (hexBytes? (part body (2 * wordDigits) (2 * wordDigits + 2 * length))).bind fun bytes =>
        if bytes.length = length then some (String.ofList (decodeUtf8 bytes)) else none

def decode? (payload : String) : Option String :=
  let s := payload.toList
  if (s.take selector.length).map Char.toLower = selector.toList then
    reason? (s.drop selector.length)
  else none

/-- The reason in what a call returned. A value that does not count as true holds none, any
other value has to be a text. -/
def ofJson : Json → Except Fault (Option String)
  | .text s => .ok (decode? s)
  | value => if value.isTruthy then .error .notText else .ok none

end TxSubmission.Revert
