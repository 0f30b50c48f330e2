import TxSubmission.Proofs.HexText
import TxSubmission.Quantity

/-!
Quantities are read back as they were written. The written form of a number is the mark of hex text
and a list of digits in hex, of which reading drops the mark alone and takes every digit at its
value.
-/

namespace TxSubmission

open Text Number

namespace Quantity

theorem readInt_written (n : Nat) : readInt 16 (written n) = .ok (n : Int) := by
  obtain ⟨ds, inhabited, spelled, value⟩ := exists_digits n
  have text : written n = String.ofList ('0' :: 'x' :: Nat.toDigits 16 n) :=
    String.ofList_append.symm
  rw [text, readInt_marked (.inl rfl) inhabited spelled, value]

theorem decode_written (n : Nat) : decode (written n) = .ok (n : Int) := by
  rw [decode, readInt_written]
  rfl

theorem decode_of_encode {n : Int} {text : String} (encoded : encode n = .ok text) :
    decode text = .ok n := by
  cases n with
  | ofNat n =>
    cases encoded
    exact decode_written n
  | negSucc n => cases encoded

end Quantity

end TxSubmission
