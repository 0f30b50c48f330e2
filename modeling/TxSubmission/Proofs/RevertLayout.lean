import Mathlib.Data.Nat.Digits.Lemmas
import TxSubmission.Proofs.CanonicalQuantity
import TxSubmission.Proofs.RevertAcceptance

/-!
What a payload with a reason looks like. The reader checks the selector, the number of bytes and
their digits, and where it replaces nothing the bytes are those of the reason. It looks at no offset
word and reads the length word as liberally as any number, so a payload may hold a reason without
being one that is written for it. It is written for the reason exactly if its offset word is the
canonical one and its length word has nothing but hex digits in it: a word of hex digits that is
read as a number is the word of that number.
-/

namespace TxSubmission

open Text Number

namespace Text

theorem isHexDigit_toLower (c : Char) : isHexDigit c.toLower = isHexDigit c := by
  rw [isHexDigit, isHexDigit, hexValue?_toLower]

theorem Spells.lowered {s : List Char} {ds : List Nat} (spelled : Spells s ds) :
    s.map Char.toLower = ds.map Nat.digitChar := by
  induction s generalizing ds with
  | nil =>
    obtain rfl : ds = [] := List.map_eq_nil_iff.mp spelled.symm
    rfl
  | cons c rest ih =>
    obtain ⟨d, es, rfl, value, later⟩ := List.map_eq_cons_iff.mp spelled.symm
    rw [List.map_cons, List.map_cons, toLower_of_hexValue? value.symm, ih later.symm]

theorem Spells.forall_lt {s : List Char} {ds : List Nat} (spelled : Spells s ds) :
    ∀ d ∈ ds, d < 16 := by
  intro d member
  have held : some d ∈ s.map hexValue? := spelled ▸ List.mem_map_of_mem member
  obtain ⟨c, -, value⟩ := List.mem_map.mp held
  exact lt_of_hexValue? value

theorem digitsValue_eq_ofDigits (ds : List Nat) :
    digitsValue 16 ds = Nat.ofDigits 16 ds.reverse := by
  rw [Nat.ofDigits_eq_foldr, List.foldr_reverse, digitsValue]
  simp only [Nat.cast_id, Nat.add_comm]

theorem eq_of_digitsValue {ds es : List Nat} (counted : ds.length = es.length)
    (small : ∀ d ∈ ds, d < 16) (low : ∀ e ∈ es, e < 16)
    (same : digitsValue 16 ds = digitsValue 16 es) : ds = es := by
  rw [digitsValue_eq_ofDigits, digitsValue_eq_ofDigits] at same
  apply List.reverse_injective
  apply Nat.ofDigits_inj_of_len_eq (by decide) (by simpa using counted) (by simpa using small)
    (by simpa using low) same

theorem digitsValue_lt {ds : List Nat} (small : ∀ d ∈ ds, d < 16) :
    digitsValue 16 ds < 16 ^ ds.length := by
  rw [digitsValue_eq_ofDigits, ← List.length_reverse]
  exact Nat.ofDigits_lt_base_pow_length (by decide) (by simpa using small)

theorem small_of_mem_paddedDigits {width n : Nat} :
    ∀ c ∈ paddedDigits 16 width n, isHexDigit c = true ∧ c.toLower = c := by
  intro c member
  rcases List.mem_append.mp member with zero | digit
  · rw [List.eq_of_mem_replicate zero]
    decide
  · exact ⟨(minimal_toDigits n).hex c digit, (minimal_toDigits n).small c digit⟩

theorem le_length_paddedDigits (width n : Nat) : width ≤ (paddedDigits 16 width n).length := by
  simp only [paddedDigits, List.length_append, List.length_replicate]
  omega

theorem Spells.lowered_padded {s : List Char} {ds : List Nat} (spelled : Spells s ds)
    (inhabited : s ≠ []) :
    s.map Char.toLower = paddedDigits 16 s.length (digitsValue 16 ds) := by
  have small := spelled.forall_lt
  have fits : digitsValue 16 ds < 16 ^ s.length := spelled.length ▸ digitsValue_lt small
  obtain ⟨es, counted, padded, value⟩ :=
    exists_paddedDigits (List.length_pos_iff.mpr inhabited) fits
  have same : ds = es := by
    apply eq_of_digitsValue _ small padded.forall_lt value.symm
    rw [counted, spelled.length]
  calc s.map Char.toLower
      = ds.map Nat.digitChar := spelled.lowered
    _ = (paddedDigits 16 s.length (digitsValue 16 ds)).map Char.toLower := by
        rw [same, ← padded.lowered, ← same]
    _ = paddedDigits 16 s.length (digitsValue 16 ds) := by
        rw [List.map_congr_left fun c member => (small_of_mem_paddedDigits c member).2,
          List.map_id']

end Text

namespace Revert

variable {payload reason : String}

theorem length_mark : selector.toList.length = 10 := by
  rw [String.length_toList, length_selector]

def offsetWord (payload : String) : List Char := (payload.toList.drop 10).take 64

/-- A payload with the parts of the canonical one of a reason, in any mix of letter cases. The
offset word may be any word, and the length word any that is read as the number of bytes. -/
structure Holds (payload reason : String) : Prop where
  selected : (payload.toList.take 10).map Char.toLower = selector.toList
  worded : 138 ≤ payload.length
  counted : readInt 16 (lengthWord payload) = .ok ((encodeUtf8 reason.toList).length : Int)
  spelled : (spelling payload (encodeUtf8 reason.toList).length).map Char.toLower =
    hexOfBytes (encodeUtf8 reason.toList)

theorem Holds.decode? (holds : Holds payload reason) : Revert.decode? payload = some reason := by
  apply decode?_eq_some_iff.mpr
  refine ⟨holds.selected, holds.worded, _, holds.counted, holds.spelled, ?_⟩
  rw [decodeUtf8_encodeUtf8, String.ofList_toList]

theorem holds_of_decode? (clean : replacement ∉ reason.toList)
    (found : decode? payload = some reason) : Holds payload reason := by
  obtain ⟨selected, worded, bytes, counted, spelled, rfl⟩ := decode?_eq_some_iff.mp found
  rw [String.toList_ofList] at clean
  have same : encodeUtf8 (String.ofList (decodeUtf8 bytes)).toList = bytes := by
    rw [String.toList_ofList, encodeUtf8_decodeUtf8 clean]
  exact ⟨selected, worded, same.symm ▸ counted, same.symm ▸ spelled⟩

theorem toList_eq_parts (payload : String) (n : Nat) :
    payload.toList = payload.toList.take 10 ++ (offsetWord payload ++
      ((lengthWord payload).toList ++ (spelling payload n ++
        payload.toList.drop (138 + 2 * n)))) := by
  have rest : payload.toList.drop (138 + 2 * n) = (payload.toList.drop 138).drop (2 * n) := by
    rw [List.drop_drop]
  have text : payload.toList.drop 138 = (payload.toList.drop 74).drop 64 := by
    rw [List.drop_drop]
  have length : payload.toList.drop 74 = (payload.toList.drop 10).drop 64 := by
    rw [List.drop_drop]
  rw [rest, spelling, List.take_append_drop, text, lengthWord, String.toList_ofList,
    List.take_append_drop, length, offsetWord, List.take_append_drop, List.take_append_drop]

theorem length_lengthWord (worded : 138 ≤ payload.length) :
    (lengthWord payload).toList.length = wordDigits := by
  rw [lengthWord, String.toList_ofList, List.length_take, List.length_drop, String.length_toList,
    wordDigits]
  omega

theorem lowered_of_readInt {digits : List Char} {n : Nat} (sized : digits.length = wordDigits)
    (hex : ∀ c ∈ digits, isHexDigit c = true)
    (read : readInt 16 (String.ofList digits) = .ok (n : Int)) :
    digits.map Char.toLower = word n := by
  have spelled := spells_of_isHexDigit hex
  have inhabited : digits ≠ [] := by
    rintro rfl
    cases sized
  rw [readInt_of_spells (spelled.inhabited inhabited) spelled] at read
  have value := Int.ofNat.inj (Except.ok.inj read)
  rw [spelled.lowered_padded inhabited, value, sized, word]

theorem Holds.bears (holds : Holds payload reason)
    (placed : (offsetWord payload).map Char.toLower = word 32)
    (hex : ∀ c ∈ (lengthWord payload).toList, isHexDigit c = true) : Bears payload reason := by
  let bytes := encodeUtf8 reason.toList
  have counted : (lengthWord payload).toList.map Char.toLower = word bytes.length := by
    apply lowered_of_readInt (length_lengthWord holds.worded) hex
    rw [String.ofList_toList, holds.counted]
  refine ⟨payload.toList.take 10 ++ (offsetWord payload ++ ((lengthWord payload).toList ++
    spelling payload bytes.length)), payload.toList.drop (138 + 2 * bytes.length), ?_, ?_⟩
  · simpa only [List.append_assoc] using toList_eq_parts payload bytes.length
  · simp only [List.map_append, holds.selected, placed, counted, holds.spelled, encode,
      List.append_assoc, bytes]

theorem Bears.exists_lowered (bears : Bears payload reason) :
    ∃ behind, payload.toList.map Char.toLower =
      selector.toList ++ (word 32 ++ (word (encodeUtf8 reason.toList).length ++ behind)) := by
  obtain ⟨written, behind, same, lowered⟩ := bears
  refine ⟨hexOfBytes (encodeUtf8 reason.toList) ++ behind.map Char.toLower, ?_⟩
  rw [same, List.map_append, lowered, encode]
  simp only [List.append_assoc]

theorem drop_of_parts {s offset rest : List Char} (parts : s = selector.toList ++ (offset ++ rest))
    (skipped : offset.length = 64) : s.drop 74 = rest := by
  rw [parts, show 74 = 10 + 64 from rfl, ← List.drop_drop, List.drop_left' length_mark,
    List.drop_left' skipped]

theorem take_of_parts {s offset rest : List Char} (parts : s = selector.toList ++ (offset ++ rest))
    (skipped : offset.length = 64) : (s.drop 10).take 64 = offset := by
  rw [parts, List.drop_left' length_mark, List.take_left' skipped]

theorem Bears.placed (bears : Bears payload reason) :
    (offsetWord payload).map Char.toLower = word 32 := by
  obtain ⟨behind, lowered⟩ := bears.exists_lowered
  rw [offsetWord, List.map_take, List.map_drop, take_of_parts lowered (by decide)]

theorem Bears.hex (bears : Bears payload reason) :
    ∀ c ∈ (lengthWord payload).toList, isHexDigit c = true := by
  obtain ⟨behind, lowered⟩ := bears.exists_lowered
  have long : 64 ≤ (word (encodeUtf8 reason.toList).length).length :=
    le_length_paddedDigits wordDigits _
  -- Of a number that is too great for a word the first digits stand here, hex digits all the same.
  have cut : (lengthWord payload).toList.map Char.toLower =
      (word (encodeUtf8 reason.toList).length).take 64 := by
    rw [lengthWord, String.toList_ofList, List.map_take, List.map_drop,
      drop_of_parts lowered (by decide), List.take_append_of_le_length long]
  intro c member
  have small : c.toLower ∈ (word (encodeUtf8 reason.toList).length).take 64 :=
    cut ▸ List.mem_map_of_mem member
  rw [← isHexDigit_toLower]
  exact (small_of_mem_paddedDigits _ (List.mem_of_mem_take small)).1

/-- What tells a payload that is written for a reason from any other that holds it. -/
theorem Holds.bears_iff (holds : Holds payload reason) :
    Bears payload reason ↔ (offsetWord payload).map Char.toLower = word 32 ∧
      ∀ c ∈ (lengthWord payload).toList, isHexDigit c = true :=
  ⟨fun bears => ⟨bears.placed, bears.hex⟩, fun ⟨placed, hex⟩ => holds.bears placed hex⟩

theorem ofJson_eq_some_iff {value : Json} :
    ofJson value = .ok (some reason) ↔
      ∃ payload, value = .text payload ∧ decode? payload = some reason := by
  cases value with
  | text payload => simp [ofJson]
  | null | bool | int | real | list | object =>
    simp only [ofJson, reduceCtorEq, false_and, exists_false, iff_false]
    split <;> simp

end Revert

theorem CallReply.exists_of_ofEnvelope {envelope : Members} {reply : CallReply}
    (read : ofEnvelope envelope = .ok reply)
    (unreported : ∀ e ∈ reply.error, e.code ≠ .fit RpcError.revertedCode) :
    ∃ reason, Revert.ofJson (Members.get "result" envelope) = .ok reason ∧
      reply.reverted = reason.isSome ∧ reply.reason = reason.map .fit := by
  cases found : RpcError.ofEnvelope envelope with
  | error fault =>
    rw [ofEnvelope, found] at read
    cases read
  | ok error =>
    by_cases reported : ∃ e, error = some e ∧ e.code = .fit RpcError.revertedCode
    · obtain ⟨e, rfl, reverts⟩ := reported
      rw [ofEnvelope_of_reverting found reverts] at read
      cases read
      exact absurd reverts (unreported e rfl)
    · have spared : ∀ e ∈ error, e.code ≠ .fit RpcError.revertedCode :=
        fun e told reverts => reported ⟨e, told, reverts⟩
      cases decoded : Revert.ofJson (Members.get "result" envelope) with
      | error fault =>
        have dropped := filter_isRevert_eq_none_iff.mpr spared
        rw [ofEnvelope, found] at read
        simp only [bind, Except.bind, dropped, decoded] at read
        cases read
      | ok reason =>
        rw [ofEnvelope_of_unreverting found spared decoded] at read
        cases read
        exact ⟨reason, rfl, rfl, rfl⟩

namespace Revert

variable {reason : String}

/-- A reason in which nothing was replaced is read exactly from the payloads that hold it. Such a
payload is one that is written for the reason exactly if its offset word is the canonical one and
its length word consists of hex digits; the reader checks neither. A reply that does not tell of a
revert itself counts as reverted only if its result is a payload that holds a reason. -/
theorem decode?_holds (clean : replacement ∉ reason.toList) :
    (∀ payload, decode? payload = some reason ↔ Holds payload reason) ∧
      (∀ payload, Holds payload reason →
        (Bears payload reason ↔ (offsetWord payload).map Char.toLower = word 32 ∧
          ∀ c ∈ (lengthWord payload).toList, isHexDigit c = true)) ∧
      ∀ envelope reply, CallReply.ofEnvelope envelope = .ok reply →
        (∀ e ∈ reply.error, e.code ≠ .fit RpcError.revertedCode) →
        (reply.reverted = true → ∃ payload n, Members.get "result" envelope = .text payload ∧
          Fills payload n) ∧
        (reply.reverted = true ∧ reply.reason = some (.fit reason) ↔
          ∃ payload, Members.get "result" envelope = .text payload ∧ Holds payload reason) := by
  have held (payload : String) : decode? payload = some reason ↔ Holds payload reason :=
    ⟨holds_of_decode? clean, Holds.decode?⟩
  refine ⟨held, fun payload holds => holds.bears_iff, ?_⟩
  intro envelope reply read unreported
  obtain ⟨told, decoded, reverted, because⟩ :=
    CallReply.exists_of_ofEnvelope read unreported
  constructor
  · intro counts
    rw [reverted] at counts
    obtain ⟨said, rfl⟩ := Option.isSome_iff_exists.mp counts
    obtain ⟨payload, result, found⟩ := ofJson_eq_some_iff.mp decoded
    obtain ⟨n, fills⟩ := exists_fills found
    exact ⟨payload, n, result, fills⟩
  · have meant : reply.reverted = true ∧ reply.reason = some (.fit reason) ↔
        told = some reason := by
      rw [reverted, because]
      cases told <;> simp
    calc reply.reverted = true ∧ reply.reason = some (.fit reason)
        ↔ told = some reason := meant
      _ ↔ ofJson (Members.get "result" envelope) = .ok (some reason) := by simp [decoded]
      _ ↔ ∃ payload, Members.get "result" envelope = .text payload ∧
            decode? payload = some reason := ofJson_eq_some_iff
      _ ↔ ∃ payload, Members.get "result" envelope = .text payload ∧ Holds payload reason := by
          simp only [held]

/-! Payloads that hold a reason without being written for it -/

section Greetings

variable {offset digits : List Char}

def greeting (offset digits : List Char) : String :=
  String.ofList (selector.toList ++ (offset ++ (digits ++ ['6', '8', '6', '9'])))

theorem clean_greeting : replacement ∉ "hi".toList := by decide

theorem toList_greeting : (greeting offset digits).toList =
    selector.toList ++ (offset ++ (digits ++ ['6', '8', '6', '9'])) :=
  String.toList_ofList

theorem offsetWord_greeting (skipped : offset.length = 64) :
    offsetWord (greeting offset digits) = offset :=
  take_of_parts toList_greeting skipped

theorem lengthWord_greeting (skipped : offset.length = 64) (sized : digits.length = 64) :
    lengthWord (greeting offset digits) = String.ofList digits := by
  rw [lengthWord, drop_of_parts toList_greeting skipped, List.take_left' sized]

theorem holds_greeting (skipped : offset.length = 64) (sized : digits.length = 64)
    (counted : readInt 16 (String.ofList digits) = .ok 2) :
    Holds (greeting offset digits) "hi" := by
  have mark : selector.toList.length = selector.length := String.length_toList
  have selected : selector.toList.map Char.toLower = selector.toList := by decide
  have spelled : ['6', '8', '6', '9'].map Char.toLower = hexOfBytes [0x68, 0x69] := by decide
  have text : decodeUtf8 [0x68, 0x69] = ['h', 'i'] := by decide
  have read := @reason?_of_parts offset digits ['6', '8', '6', '9'] [] [0x68, 0x69] skipped sized
    counted spelled
  apply holds_of_decode? clean_greeting
  rw [decode?, toList_greeting, List.take_left' mark, List.drop_left' mark,
    if_pos selected, ← List.append_nil ['6', '8', '6', '9'], read, text]

end Greetings

theorem readInt_word_two : readInt 16 (String.ofList (word 2)) = .ok 2 :=
  (readInt_of_word (n := 2) (by decide) (by decide)).2

def astray : String := greeting (List.replicate 64 'f') (word 2)

theorem holds_astray : Holds astray "hi" := holds_greeting rfl (by decide) readInt_word_two

def signedTwo : List Char := '+' :: List.replicate 62 '0' ++ ['2']

theorem holds_signed : Holds (greeting (word 32) signedTwo) "hi" := by
  apply holds_greeting (by decide) (by decide)
  rw [readInt, String.toList_ofList]
  decide +kernel

theorem decode?_holds_astray :
    Bears (greeting (word 32) (word 2)) "hi" ∧ ¬ Bears astray "hi" ∧
      ∃ reply, CallReply.ofEnvelope [("result", .text astray)] = .ok reply ∧
        reply.reverted = true ∧ reply.reason = some (.fit "hi") := by
  obtain ⟨held, written, reported⟩ := decode?_holds clean_greeting
  have holds := (held astray).mp holds_astray.decode?
  refine ⟨?_, ?_, ?_⟩
  · apply (written _ (holds_greeting (by decide) (by decide) readInt_word_two)).mpr
    rw [offsetWord_greeting (by decide), lengthWord_greeting (by decide) (by decide),
      String.toList_ofList]
    exact ⟨by decide, fun c member => (small_of_mem_paddedDigits c member).1⟩
  · rw [written astray holds, astray, offsetWord_greeting rfl]
    rintro ⟨placed, -⟩
    exact absurd placed (by decide)
  · have absent : RpcError.ofEnvelope [("result", .text astray)] = .ok none := rfl
    have decoded : ofJson (Members.get "result" [("result", .text astray)]) =
        .ok (decode? astray) := rfl
    have read := CallReply.ofEnvelope_of_unreverting absent nofun decoded
    exact ⟨_, read, (reported _ _ read nofun).2.mpr ⟨astray, rfl, holds⟩⟩

/-- Neither the offset word nor the digits of the length word are checked: reasons are read from
payloads that are not written for them, and a reply with such a result counts as reverted. -/
theorem decode?_not_only_bears :
    ¬ (∀ payload reason, decode? payload = some reason → replacement ∉ reason.toList →
        Bears payload reason) ∧
      decode? astray = some "hi" ∧ ¬ Bears astray "hi" ∧
      decode? (greeting (word 32) signedTwo) = some "hi" ∧
      ¬ Bears (greeting (word 32) signedTwo) "hi" := by
  have astray_unborne : ¬ Bears astray "hi" := by
    intro bears
    have placed := bears.placed
    rw [astray, offsetWord_greeting rfl] at placed
    exact absurd placed (by decide)
  have signed_unborne : ¬ Bears (greeting (word 32) signedTwo) "hi" := by
    intro bears
    have hex := bears.hex
    rw [lengthWord_greeting (by decide) (by decide), String.toList_ofList] at hex
    exact absurd (hex '+' List.mem_cons_self) (by decide)
  refine ⟨fun only => ?_, holds_astray.decode?, astray_unborne, holds_signed.decode?,
    signed_unborne⟩
  exact astray_unborne (only astray "hi" holds_astray.decode? clean_greeting)

end Revert

end TxSubmission
