/-!
UTF-8. The decoder never fails: it writes one replacement character for every maximal piece of
input that begins like a character and cannot be completed, and for every byte that begins none.
The ranges of second bytes exclude overlong forms, surrogates and code points beyond the last.
-/

namespace TxSubmission.Text

def replacement : Char := '\ufffd'

/-- A character whose first bytes have been read: the bits so far, the number of bytes that are
still to come, and the range in which the next byte has to lie. -/
structure Sequence where
  bits : Nat
  missing : Nat
  low : Nat
  high : Nat
deriving DecidableEq, Repr

inductive Lead where
  | whole (c : Char)
  | more (sequence : Sequence)
  | bad
deriving DecidableEq, Repr

def lead (b : Nat) : Lead :=
  if b < 0x80 then .whole (Char.ofNat b)
  else if b < 0xc2 then .bad
  else if b < 0xe0 then .more ⟨b - 0xc0, 1, 0x80, 0xbf⟩
  else if b = 0xe0 then .more ⟨0, 2, 0xa0, 0xbf⟩
  else if b = 0xed then .more ⟨0xd, 2, 0x80, 0x9f⟩
  else if b < 0xf0 then .more ⟨b - 0xe0, 2, 0x80, 0xbf⟩
  else if b = 0xf0 then .more ⟨0, 3, 0x90, 0xbf⟩
  else if b < 0xf4 then .more ⟨b - 0xf0, 3, 0x80, 0xbf⟩
  else if b = 0xf4 then .more ⟨4, 3, 0x80, 0x8f⟩
  else .bad

def decodeFrom : Option Sequence → List UInt8 → List Char
  | none, [] => []
  | some _, [] => [replacement]
  | none, b :: rest =>
    match lead b.toNat with
    | .whole c => c :: decodeFrom none rest
    | .more sequence => decodeFrom (some sequence) rest
    | .bad => replacement :: decodeFrom none rest
  | some sequence, b :: rest =>
    if sequence.low ≤ b.toNat ∧ b.toNat ≤ sequence.high then
      let bits := 64 * sequence.bits + (b.toNat - 0x80)
      if sequence.missing ≤ 1 then Char.ofNat bits :: decodeFrom none rest
      else decodeFrom (some ⟨bits, sequence.missing - 1, 0x80, 0xbf⟩) rest
    else
      match lead b.toNat with
      | .whole c => replacement :: c :: decodeFrom none rest
      | .more next => replacement :: decodeFrom (some next) rest
      | .bad => replacement :: replacement :: decodeFrom none rest

def decodeUtf8 (bytes : List UInt8) : List Char := decodeFrom none bytes

def encodeUtf8 (s : List Char) : List UInt8 := s.flatMap String.utf8EncodeChar

end TxSubmission.Text
