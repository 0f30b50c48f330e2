import TxSubmission.Proofs.Confirmation
import TxSubmission.Proofs.HexText
import TxSubmission.Proofs.Relay
import TxSubmission.Proofs.Utf8Text

/-!
Revert reasons are read as they were written. A payload bears a reason if it begins with the
canonical payload of the reason, in any mix of letter cases; what stands behind is not looked at.
Whatever characters the reason has, decoding gives it back, and a call whose reply has such a
payload for a result fails with it, unless the node reports the revert itself.
-/

namespace TxSubmission

open Text Number

namespace Revert

/-- A payload that begins with the canonical one of a reason, capitals standing for small letters;
anything may follow. -/
def Bears (payload reason : String) : Prop :=
  ∃ written behind : List Char, payload.toList = written ++ behind ∧
    written.map Char.toLower = encode reason

theorem readInt_of_word {digits : List Char} {n : Nat} (fits : n < 2 ^ 256)
    (lowered : digits.map Char.toLower = word n) :
    digits.length = wordDigits ∧ readInt 16 (String.ofList digits) = .ok (n : Int) := by
  obtain ⟨ds, width, spelled, value⟩ :=
    exists_paddedDigits (show 0 < wordDigits by decide) (show n < 16 ^ 64 by omega)
  have cased : Spells digits ds := Spells.of_toLower (lowered ▸ spelled)
  have inhabited : ds ≠ [] := by
    rintro rfl
    cases width
  refine ⟨cased.length.trans width, ?_⟩
  rw [readInt_of_spells inhabited cased, value]

theorem part_add (s : List Char) (start size : Nat) :
    part s start (start + size : Nat) = (s.drop start).take size := by
  rw [part, if_neg (by omega), Int.toNat_natCast, List.drop_take, Nat.add_sub_cancel_left]

/-- There is a reason in what follows a selector exactly if the length word counts bytes whose
digits follow it; nothing is read that is shorter or holds anything else. -/
theorem reason?_eq_some_iff {body : List Char} {reason : String} :
    reason? body = some reason ↔
      2 * wordDigits ≤ body.length ∧ ∃ bytes : List UInt8,
        readInt 16 (String.ofList ((body.drop wordDigits).take wordDigits)) =
          .ok (bytes.length : Int) ∧
        ((body.drop (2 * wordDigits)).take (2 * bytes.length)).map Char.toLower =
          hexOfBytes bytes ∧
        String.ofList (decodeUtf8 bytes) = reason := by
  have word : part body wordDigits (2 * wordDigits) = (body.drop wordDigits).take wordDigits := by
    have twice : (2 * wordDigits : Int) = (wordDigits + wordDigits : Nat) := rfl
    rw [twice, part_add]
  have run (n : Nat) : part body (2 * wordDigits) (2 * wordDigits + 2 * (n : Int)) =
      (body.drop (2 * wordDigits)).take (2 * n) := by
    have whole : (2 * wordDigits + 2 * (n : Int)) = (2 * wordDigits + 2 * n : Nat) := by omega
    rw [whole, part_add]
  constructor
  · intro found
    unfold reason? at found
    split at found
    next => cases found
    next long =>
      refine ⟨Nat.le_of_not_lt long, ?_⟩
      rw [word] at found
      split at found
      next => cases found
      next length counted =>
        obtain ⟨bytes, read, told⟩ := Option.bind_eq_some_iff.mp found
        split at told
        next same =>
          subst same
          rw [run] at read
          refine ⟨bytes, counted, (length_of_hexBytes? read).2 ?_, Option.some.inj told⟩
          exact List.length_take_le _ _
        next => cases told
  · rintro ⟨long, bytes, counted, lowered, rfl⟩
    have read := hexBytes?_of_hexOfBytes lowered
    simp only [reason?, if_neg (Nat.not_lt.mpr long), word, counted, run, read, Option.bind_some,
      if_true]

theorem reason?_of_parts {offset digits hex behind : List Char} {bytes : List UInt8}
    (skipped : offset.length = wordDigits) (sized : digits.length = wordDigits)
    (counted : readInt 16 (String.ofList digits) = .ok (bytes.length : Int))
    (lowered : hex.map Char.toLower = hexOfBytes bytes) :
    reason? (offset ++ (digits ++ (hex ++ behind))) =
      some (String.ofList (decodeUtf8 bytes)) := by
  have filled : hex.length = 2 * bytes.length := by
    rw [← length_hexOfBytes, ← lowered, List.length_map]
  have twice : 2 * wordDigits = wordDigits + wordDigits := Nat.two_mul wordDigits
  refine reason?_eq_some_iff.mpr ⟨?_, bytes, ?_, ?_, rfl⟩
  · simp only [List.length_append]
    omega
  · rw [List.drop_left' skipped, List.take_left' sized, counted]
  · rw [twice, ← List.drop_drop, List.drop_left' skipped, List.drop_left' sized,
      List.take_left' filled, lowered]

theorem decode?_of_bears {payload reason : String}
    (short : (encodeUtf8 reason.toList).length < 2 ^ 256) (bears : Bears payload reason) :
    decode? payload = some reason := by
  obtain ⟨written, behind, same, lowered⟩ := bears
  obtain ⟨front, hex, rfl, lowered, bytes⟩ := List.map_eq_append_iff.mp lowered
  obtain ⟨front, digits, rfl, lowered, sized⟩ := List.map_eq_append_iff.mp lowered
  obtain ⟨mark, offset, rfl, marked, skipped⟩ := List.map_eq_append_iff.mp lowered
  have ten : mark.length = selector.length := by
    rw [← String.length_toList, ← marked, List.length_map]
  obtain ⟨offset_length, -⟩ := readInt_of_word (by decide) skipped
  obtain ⟨digits_length, counted⟩ := readInt_of_word short sized
  simp only [List.append_assoc] at same
  rw [decode?, same, List.take_left' ten, List.drop_left' ten, if_pos marked,
    reason?_of_parts offset_length digits_length counted bytes, decodeUtf8_encodeUtf8,
    String.ofList_toList]

end Revert

def CallReply.verdict (reply : CallReply) : Except Failure Json :=
  if reply.reverted then .error (.execution (.reverted reply.reason))
  else
    match reply.value.present?, reply.error with
    | some value, _ => .ok value
    | none, some error => .ok error.data
    | none, none => .ok .null

theorem RpcError.isRevert_iff {error : RpcError} :
    error.isRevert = true ↔ error.code = .fit revertedCode := by
  unfold isRevert
  split
  next code same => simp [same]
  next value same => simp [same]

namespace CallReply

variable {envelope : Members} {error : Option RpcError}

theorem filter_isRevert_eq_none_iff :
    error.filter RpcError.isRevert = none ↔
      ∀ e ∈ error, e.code ≠ .fit RpcError.revertedCode := by
  simp [Option.filter_eq_none_iff, RpcError.isRevert_iff]

theorem ofEnvelope_of_reverting {e : RpcError} (found : RpcError.ofEnvelope envelope = .ok (some e))
    (reverts : e.code = .fit RpcError.revertedCode) :
    ofEnvelope envelope = .ok ⟨Members.get "result" envelope, some e, true, some e.message⟩ := by
  have kept : (some e).filter RpcError.isRevert = some e := by
    rw [Option.filter_some, if_pos (RpcError.isRevert_iff.mpr reverts)]
  rw [ofEnvelope, found]
  simp only [bind, Except.bind, kept]
  rfl

theorem ofEnvelope_of_unreverting (found : RpcError.ofEnvelope envelope = .ok error)
    (unreported : ∀ e ∈ error, e.code ≠ .fit RpcError.revertedCode) {reason : Option String}
    (read : Revert.ofJson (Members.get "result" envelope) = .ok reason) :
    ofEnvelope envelope =
      .ok ⟨Members.get "result" envelope, error, reason.isSome, reason.map .fit⟩ := by
  have dropped := filter_isRevert_eq_none_iff.mpr unreported
  rw [ofEnvelope, found]
  simp only [bind, Except.bind, dropped, read]
  rfl

end CallReply

def Account.callParams (account : Account) (recipient data : Option (Given String))
    (block : BlockParameter) : Except Failure (List Json) := do
  let request ← (Request.readOnly
    { sender := some account.address, recipient, data }).mapError .fault
  request.paramsAt block

theorem Account.call_relays (account : Account) (recipient data : Option (Given String))
    (block : BlockParameter) :
    (account.call recipient data block).Relays account.endpoint (.fit "eth_call")
      (account.callParams recipient data block)
      fun envelope => (CallReply.ofEnvelope envelope).mapError .fault :=
  Act.Relays.prepared fun request => Provider.call_relays account.endpoint request block

theorem Custody.call_relays (custody : Custody) (recipient data : Option (Given String))
    (block : BlockParameter) :
    (custody.manager.call recipient data block).Relays custody.account.endpoint (.fit "eth_call")
      (custody.account.callParams recipient data block)
      fun envelope => (CallReply.ofEnvelope envelope).mapError .fault >>= CallReply.verdict := by
  refine (custody.account.call_relays recipient data block).bind fun reply node => ?_
  unfold CallReply.verdict
  split
  next => exact Act.Shows.log_bind (Act.Shows.fail _ node)
  next =>
    cases reply.value.present? with
    | some value => exact Act.Shows.pure value node
    | none =>
      cases reply.error with
      | some error => exact Act.Shows.pure error.data node
      | none => exact Act.Shows.pure Json.null node

namespace Revert

theorem ofEnvelope_of_bears {envelope : Members} {payload reason : String}
    (result : Members.get "result" envelope = .text payload)
    (decoded : decode? payload = some reason)
    (unreverted : (Members.get "error" envelope).isNull = true ∨
      ∃ error, RpcError.ofJson (Members.get "error" envelope) = .ok error ∧
        error.code ≠ .fit RpcError.revertedCode) :
    ∃ found, CallReply.ofEnvelope envelope =
      .ok ⟨.text payload, found, true, some (.fit reason)⟩ := by
  have read : ofJson (Members.get "result" envelope) = .ok (some reason) := by
    rw [result, ofJson, decoded]
  have heard : ∃ found, RpcError.ofEnvelope envelope = .ok found ∧
      ∀ e ∈ found, e.code ≠ .fit RpcError.revertedCode := by
    cases absent : (Members.get "error" envelope).isNull with
    | true => exact ⟨none, RpcError.ofEnvelope_of_absent absent, nofun⟩
    | false =>
      rw [absent] at unreverted
      obtain ⟨error, reported, other⟩ := unreverted.resolve_left Bool.false_ne_true
      refine ⟨some error, ?_, ?_⟩
      · rw [RpcError.ofEnvelope_of_present absent, reported]
        rfl
      · rintro e ⟨⟩
        exact other
  obtain ⟨found, told, unreported⟩ := heard
  refine ⟨found, ?_⟩
  rw [CallReply.ofEnvelope_of_unreverting told unreported read, result]
  rfl

/-- A payload that bears a reason is read as the reason, and a call fails with it when that is the
result in the reply. -/
theorem reason_returned {payload reason : String}
    (short : (encodeUtf8 reason.toList).length < 2 ^ 256) (bears : Bears payload reason) :
    decode? payload = some reason ∧
      ∀ (custody : Custody) (recipient data : Option (Given String)) (block : BlockParameter)
        (link : Link) (envelope : Members),
        let ran := custody.manager.call recipient data block link
        ran.trace.questions ≠ [] →
        custody.account.endpoint.object? (link.node.next (.fit "eth_call")) = some envelope →
        Members.get "result" envelope = .text payload →
        ((Members.get "error" envelope).isNull = true ∨
          ∃ error, RpcError.ofJson (Members.get "error" envelope) = .ok error ∧
            error.code ≠ .fit RpcError.revertedCode) →
        ran.outcome = .error (.execution (.reverted (some (.fit reason)))) := by
  have decoded := decode?_of_bears short bears
  refine ⟨decoded, ?_⟩
  intro custody recipient data block link envelope ran asked heard result unreverted
  obtain ⟨found, read⟩ := ofEnvelope_of_bears result decoded unreverted
  rw [(custody.call_relays recipient data block).heard asked heard, read]
  rfl

def samplePayload : String := String.ofList ((encode "é").map Char.toUpper ++ [' '])

theorem encodeUtf8_sample : encodeUtf8 "é".toList = [0xc3, 0xa9] := by
  have text : "é".toList = ['é'] := String.toList_ofList
  rw [text]
  decide +kernel

theorem bears_sample : Bears samplePayload "é" := by
  refine ⟨(encode "é").map Char.toUpper, [' '], String.toList_ofList, ?_⟩
  have mark : selector.toList = ['0', 'x', '0', '8', 'c', '3', '7', '9', 'a', '0'] :=
    String.toList_ofList
  rw [encode, encodeUtf8_sample, mark]
  decide +kernel

def sampleNode : Node :=
  { replies := fun _ _ => Node.enveloped [("result", .text samplePayload)] }

theorem asked_sample :
    ((Custody.sample "http://n").manager.call none none .latest
      { node := sampleNode }).trace.questions ≠ [] := by
  let params : List Json := [.object [("from", .text "0x1")], .text "latest"]
  have targeted : (Endpoint.plain "http://n").target (.fit "eth_call") params =
      .ok Endpoint.sampleAddress := Endpoint.target_of_address Endpoint.address_plain rfl
  have asked := Provider.exchange_asks targeted { node := sampleNode }
  exact Act.questions_bind_ne_nil (Act.questions_bind_ne_nil asked _) _

theorem reason_returned_sample :
    decode? samplePayload = some "é" ∧
      ((Custody.sample "http://n").manager.call none none .latest
        { node := sampleNode }).outcome =
        .error (.execution (.reverted (some (.fit "é")))) := by
  have short : (encodeUtf8 "é".toList).length < 2 ^ 256 := by
    rw [encodeUtf8_sample]
    decide
  obtain ⟨decoded, returned⟩ := reason_returned short bears_sample
  have heard : (Endpoint.plain "http://n").object? (sampleNode.next (.fit "eth_call")) =
      some [("result", .text samplePayload)] := Endpoint.object?_enveloped _
  refine ⟨decoded, ?_⟩
  exact returned (.sample "http://n") none none .latest { node := sampleNode } _ asked_sample heard
    rfl (.inl rfl)

end Revert

end TxSubmission
