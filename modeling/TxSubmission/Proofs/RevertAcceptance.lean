import TxSubmission.Proofs.RevertReason

/-!
Which payloads hold a reason. A payload does exactly if it begins with the selector in any mix of
letter cases, its length word is read as a number that is not below zero, and the digits of as many
bytes follow the word. Neither the cut of the bytes nor their reader checks any of this alone: a
length below zero makes the cut end before it begins or run up to a place that is counted from the
end, a length beyond the end makes it shorter, and blanks between the pairs are skipped. In each of
these cases other bytes are read than the length says, and nothing is returned.
-/

namespace TxSubmission.Revert

open Text Number

def lengthWord (payload : String) : String := String.ofList ((payload.toList.drop 74).take 64)

def spelling (payload : String) (n : Nat) : List Char := (payload.toList.drop 138).take (2 * n)

/-- A payload that spells as many bytes as its length word says. -/
structure Fills (payload : String) (n : Nat) : Prop where
  selected : (payload.toList.take 10).map Char.toLower = selector.toList
  worded : 138 ≤ payload.length
  counted : readInt 16 (lengthWord payload) = .ok (n : Int)
  filled : 138 + 2 * n ≤ payload.length
  hex : ∀ c ∈ spelling payload n, isHexDigit c = true

theorem length_selector : selector.length = 10 := by
  have mark : selector.toList = ['0', 'x', '0', '8', 'c', '3', '7', '9', 'a', '0'] :=
    String.toList_ofList
  rw [← String.length_toList, mark]
  rfl

theorem decode?_eq_some_iff {payload reason : String} :
    decode? payload = some reason ↔
      (payload.toList.take 10).map Char.toLower = selector.toList ∧ 138 ≤ payload.length ∧
        ∃ bytes : List UInt8, readInt 16 (lengthWord payload) = .ok (bytes.length : Int) ∧
          (spelling payload bytes.length).map Char.toLower = hexOfBytes bytes ∧
          String.ofList (decodeUtf8 bytes) = reason := by
  have long : 2 * wordDigits ≤ payload.length - 10 ↔ 138 ≤ payload.length := by
    rw [wordDigits]
    omega
  rw [decode?, length_selector]
  split
  next selected =>
    rw [reason?_eq_some_iff, and_iff_right selected, List.length_drop, String.length_toList, long]
    simp only [List.drop_drop]
    rfl
  next other =>
    constructor
    · intro found
      cases found
    · rintro ⟨selected, -⟩
      exact absurd selected other

variable {payload : String} {n : Nat}

theorem length_spelling (filled : 138 + 2 * n ≤ payload.length) :
    (spelling payload n).length = 2 * n := by
  rw [spelling, List.length_take, List.length_drop, String.length_toList]
  omega

theorem Fills.decode? (fills : Fills payload n) :
    ∃ bytes : List UInt8, bytes.length = n ∧
      (spelling payload n).map Char.toLower = hexOfBytes bytes ∧
      Revert.decode? payload = some (String.ofList (decodeUtf8 bytes)) := by
  obtain ⟨bytes, rfl, lowered⟩ := exists_hexBytes? (length_spelling fills.filled) fills.hex
  refine ⟨bytes, rfl, lowered, ?_⟩
  exact decode?_eq_some_iff.mpr ⟨fills.selected, fills.worded, bytes, fills.counted, lowered, rfl⟩

theorem exists_fills {reason : String} (found : decode? payload = some reason) :
    ∃ n, Fills payload n := by
  obtain ⟨selected, worded, bytes, counted, lowered, -⟩ := decode?_eq_some_iff.mp found
  refine ⟨bytes.length, selected, worded, counted, ?_, isHexDigit_of_hexOfBytes lowered⟩
  have spelled := congrArg List.length lowered
  rw [List.length_map, length_hexOfBytes, spelling, List.length_take, List.length_drop,
    String.length_toList] at spelled
  omega

theorem not_isAsciiBlank_of_isHexDigit {c : Char} (hex : isHexDigit c = true) :
    isAsciiBlank c = false := by
  obtain ⟨d, value⟩ := Option.isSome_iff_exists.mp hex
  exact isAsciiBlank_of_hexValue? value

/-- Reading never fails, and it returns a text exactly for a payload that has as many bytes in full
as its length word says, namely the text that these bytes decode to. A length below zero, one beyond
the end of the payload and a blank among the digits give nothing. -/
theorem decode?_fills (payload : String) :
    ofJson (.text payload) = .ok (decode? payload) ∧
      ((decode? payload).isSome = true ↔ ∃ n, Fills payload n) ∧
      (∀ n, Fills payload n → ∃ bytes : List UInt8, bytes.length = n ∧
        (spelling payload n).map Char.toLower = hexOfBytes bytes ∧
        decode? payload = some (String.ofList (decodeUtf8 bytes))) ∧
      ∀ length : Int, readInt 16 (lengthWord payload) = .ok length →
        length < 0 ∨ payload.length < 138 + 2 * length ∨
          (∃ c ∈ spelling payload length.toNat, isAsciiBlank c = true) →
        decode? payload = none := by
  refine ⟨rfl, ?_, fun n fills => fills.decode?, ?_⟩
  · constructor
    · intro found
      obtain ⟨reason, found⟩ := Option.isSome_iff_exists.mp found
      exact exists_fills found
    · rintro ⟨n, fills⟩
      obtain ⟨bytes, -, -, found⟩ := fills.decode?
      rw [found]
      rfl
  · intro length counted unfit
    cases found : decode? payload with
    | none => rfl
    | some reason =>
      exfalso
      obtain ⟨n, fills⟩ := exists_fills found
      obtain rfl : length = n := Except.ok.inj (counted.symm.trans fills.counted)
      have filled := fills.filled
      rcases unfit with below | beyond | ⟨c, member, blank⟩
      · omega
      · omega
      · have hex := fills.hex c member
        rw [not_isAsciiBlank_of_isHexDigit hex] at blank
        cases blank

end TxSubmission.Revert
