import TxSubmission.Proofs.Carriage
import TxSubmission.Proofs.RevertReason
import TxSubmission.Proofs.Validity

/-!
How a call ends. A call of an account asks one question, with its sender, its recipient and its data
and nothing else, and the reply to it settles the rest. An error that tells of a revert comes first,
then a result that is a revert payload; a call without either returns its result, or what the error
carried where there is no result.
-/

namespace TxSubmission

open Text

/-- What a call carries, given its data with the mark: texts under three names, and neither fees nor
a nonce. -/
def callEntries (sender : String) (recipient marked : Option String) : Members :=
  ("from", .text sender) ::
    (recipient.toList.map fun recipient => ("to", .text recipient)) ++
      marked.toList.map fun marked => ("data", .text marked)

theorem isSendable_callEntries (room : Nat) (sender : String) (recipient marked : Option String) :
    (Json.object (callEntries sender recipient marked)).isSendable (room + 2) = true := by
  cases recipient <;> cases marked <;> rfl

theorem Request.payload_of_reading {sender : String} {recipient data : Option String}
    {request : Request}
    (built : readOnly
      { sender := some (.fit sender), recipient := recipient.map .fit, data := data.map .fit } =
        .ok request) :
    request.payload = .ok (.object (callEntries sender recipient (data.map withHexPrefix))) := by
  have checked := Draft.checked_of_check built
  have marked : request.data = data.map withHexPrefix :=
    PlainOrder.markedData_plain checked.data
  rw [payload, wire, fields, checked.slots, marked]
  cases recipient <;> cases data <;> rfl

theorem Account.callParams_plain {account : Account} {sender tag : String} {block : BlockParameter}
    (held : account.address = .fit sender) (encoded : block.encode = .ok tag)
    (recipient data : Option String) :
    account.callParams (recipient.map .fit) (data.map .fit) block =
      .ok [.object (callEntries sender recipient (data.map withHexPrefix)), .text tag] := by
  have truthy := account.address_given
  rw [held] at truthy
  let draft : Draft :=
    { sender := some (.fit sender), recipient := recipient.map .fit, data := data.map .fit }
  obtain ⟨request, built⟩ : ∃ request, draft.check = .ok request :=
    @Draft.exists_check draft _ (.unpriced none) data rfl truthy rfl rfl
  have written := Request.payload_of_reading built
  have reading : Request.readOnly
      { sender := some (.fit sender), recipient := recipient.map .fit, data := data.map .fit } =
        .ok request := built
  rw [callParams, held, reading]
  simp only [Except.mapError, bind, Except.bind, Request.paramsAt, written, encoded]

theorem RpcError.plain_of_ofEnvelope {envelope : Members} {error : RpcError}
    (read : ofEnvelope envelope = .ok (some error)) :
    ∃ code message, error.code = .fit code ∧ error.message = .fit message := by
  unfold ofEnvelope at read
  split at read
  next => cases read
  next value present =>
    cases value with
    | object members =>
      simp only [ofJson] at read
      cases coded : readCode (Members.get "code" members) with
      | error fault =>
        rw [coded] at read
        cases read
      | ok code =>
        rw [coded] at read
        cases read
        exact ⟨_, _, rfl, rfl⟩
    | _ =>
      cases read
      exact ⟨_, _, rfl, rfl⟩

def Reverts (outcome : Except Failure Json) (reason : String) : Prop :=
  outcome = .error (.execution (.reverted (some (.fit reason))))

/-- How a call ends on an error, if there is one, and a result. -/
structure CallReply.Settles (error : Option RpcError) (result : Json)
    (outcome : Except Failure Json) : Prop where
  reverts_iff : (∃ reason, Reverts outcome reason) ↔
    (∃ e ∈ error, e.code = .fit RpcError.revertedCode) ∨
      ∃ payload, result = .text payload ∧ (Revert.decode? payload).isSome = true
  reported : ∀ e ∈ error, e.code = .fit RpcError.revertedCode →
    ∃ reason, e.message = .fit reason ∧ Reverts outcome reason
  decoded : (∀ e ∈ error, e.code ≠ .fit RpcError.revertedCode) → ∀ payload reason,
    result = .text payload → Revert.decode? payload = some reason → Reverts outcome reason
  told : ∀ failure, outcome = .error failure → ∃ reason, Reverts outcome reason ∧
    failure.message =
      "Contract Call has been reverted by the EVM with the reason: '" ++ reason ++ "'."
  returned : (¬ ∃ reason, Reverts outcome reason) →
    outcome = .ok (if result.isNull then error.elim .null RpcError.data else result)

namespace CallReply

variable {envelope : Members} {error : Option RpcError} {result : Json}

theorem not_reverts_ok {value : Json} {reason : String} : ¬ Reverts (.ok value) reason := nofun

theorem settles_reported {e : RpcError} {reason : String}
    (reverts : e.code = .fit RpcError.revertedCode) (said : e.message = .fit reason) :
    Settles (some e) result (.error (.execution (.reverted (some e.message)))) := by
  rw [said]
  constructor
  case reverts_iff => exact ⟨fun _ => .inl ⟨e, rfl, reverts⟩, fun _ => ⟨reason, rfl⟩⟩
  case reported =>
    rintro other ⟨⟩ -
    exact ⟨reason, said, rfl⟩
  case decoded => exact fun unreported => absurd reverts (unreported e rfl)
  case told =>
    rintro failure ⟨⟩
    exact ⟨reason, rfl, rfl⟩
  case returned => exact fun spared => absurd ⟨reason, rfl⟩ spared

theorem settles_decoded {payload reason : String}
    (unreported : ∀ e ∈ error, e.code ≠ .fit RpcError.revertedCode)
    (decoded : Revert.decode? payload = some reason) :
    Settles error (.text payload) (.error (.execution (.reverted (some (.fit reason))))) := by
  have accepted : (Revert.decode? payload).isSome = true := by rw [decoded, Option.isSome_some]
  constructor
  case reverts_iff => exact ⟨fun _ => .inr ⟨payload, rfl, accepted⟩, fun _ => ⟨reason, rfl⟩⟩
  case reported => exact fun e found reverts => absurd reverts (unreported e found)
  case decoded =>
    rintro - other text ⟨⟩ read
    rw [decoded] at read
    cases read
    rfl
  case told =>
    rintro failure ⟨⟩
    exact ⟨reason, rfl, rfl⟩
  case returned => exact fun spared => absurd ⟨reason, rfl⟩ spared

theorem settles_returned (unreported : ∀ e ∈ error, e.code ≠ .fit RpcError.revertedCode)
    (undecoded : ∀ payload, result = .text payload → Revert.decode? payload = none) :
    Settles error result
      (.ok (if result.isNull then error.elim .null RpcError.data else result)) := by
  constructor
  case reverts_iff =>
    constructor
    · rintro ⟨reason, reverts⟩
      exact absurd reverts not_reverts_ok
    · rintro (⟨e, found, reverts⟩ | ⟨payload, text, accepted⟩)
      · exact absurd reverts (unreported e found)
      · rw [undecoded payload text] at accepted
        cases accepted
  case reported => exact fun e found reverts => absurd reverts (unreported e found)
  case decoded =>
    intro _ payload reason text decoded
    rw [undecoded payload text] at decoded
    cases decoded
  case told => exact nofun
  case returned => exact fun _ => rfl

theorem verdict_of_spared (value : Json) (error : Option RpcError)
    (reason : Option (Given String)) :
    verdict ⟨value, error, false, reason⟩ =
      .ok (if value.isNull then error.elim .null RpcError.data else value) := by
  cases value with
  | null => cases error <;> rfl
  | _ => rfl

theorem settles_verdict (read : RpcError.ofEnvelope envelope = .ok error)
    (told : Members.get "result" envelope = .null ∨
      ∃ payload, Members.get "result" envelope = .text payload) :
    Settles error (Members.get "result" envelope)
      ((ofEnvelope envelope).mapError .fault >>= verdict) := by
  by_cases reports : ∃ e, error = some e ∧ e.code = .fit RpcError.revertedCode
  · obtain ⟨e, rfl, reverts⟩ := reports
    obtain ⟨code, reason, -, said⟩ := RpcError.plain_of_ofEnvelope read
    rw [ofEnvelope_of_reverting read reverts]
    exact settles_reported reverts said
  · have unreported : ∀ e ∈ error, e.code ≠ .fit RpcError.revertedCode :=
      fun e found reverts => reports ⟨e, found, reverts⟩
    have ends {reason : Option String}
        (answered : Revert.ofJson (Members.get "result" envelope) = .ok reason) :
        (ofEnvelope envelope).mapError .fault >>= verdict =
          verdict ⟨Members.get "result" envelope, error, reason.isSome, reason.map .fit⟩ := by
      rw [ofEnvelope_of_unreverting read unreported answered]
      rfl
    rcases told with absent | ⟨payload, text⟩
    · rw [absent] at ends ⊢
      rw [ends rfl]
      exact verdict_of_spared .null error none ▸ settles_returned unreported nofun
    · rw [text] at ends ⊢
      rw [ends rfl]
      cases decoded : Revert.decode? payload with
      | none =>
        have undecoded : ∀ other, Json.text payload = .text other →
            Revert.decode? other = none := by
          rintro other ⟨⟩
          exact decoded
        exact verdict_of_spared (.text payload) error none ▸ settles_returned unreported undecoded
      | some reason => exact settles_decoded unreported decoded

end CallReply

namespace Custody

variable {custody : Custody} {sender tag : String} {block : BlockParameter} {link : Link}
  {envelope : Members} {error : Option RpcError}

/-- A call asks one question and ends as the reply to it settles. -/
theorem call_settles (held : custody.account.address = .fit sender)
    (valid : block.encode = .ok tag)
    (heard : custody.account.endpoint.object? (link.node.next (.fit "eth_call")) = some envelope)
    (read : RpcError.ofEnvelope envelope = .ok error)
    (told : Members.get "result" envelope = .null ∨
      ∃ payload, Members.get "result" envelope = .text payload)
    (recipient data : Option String) :
    let ran := custody.manager.call (recipient.map .fit) (data.map .fit) block link
    (∃ address marked, custody.account.endpoint.address = .ok address ∧ Delivers data marked ∧
      ran.trace.questions = [⟨address.text, .fit "eth_call",
        [.object (callEntries sender recipient marked), .text tag]⟩]) ∧
      CallReply.Settles error (Members.get "result" envelope) ran.outcome := by
  obtain ⟨address, reached, seen⟩ := Endpoint.exists_address_of_object? heard
  have relays := custody.call_relays (recipient.map .fit) (data.map .fit) block
  rw [Account.callParams_plain held valid] at relays
  obtain ⟨questions, outcome⟩ := relays.runs link
  have sendable : RpcRequest.isSendable custody.account.endpoint.room (.fit "eth_call")
      [.object (callEntries sender recipient (data.map withHexPrefix)), .text tag] = true := by
    apply RpcRequest.isSendable_fit
    rw [Json.isSendable_list]
    simp [isSendable_callEntries]
  have targeted := Endpoint.target_of_address reached sendable
  have shown := Provider.exchange_shows targeted link.node link rfl
  intro ran
  refine ⟨⟨address, _, reached, delivers_withHexPrefix data,
    questions.trans shown.questions⟩, ?_⟩
  have ended : ran.outcome =
      (CallReply.ofEnvelope envelope).mapError .fault >>= CallReply.verdict := by
    rw [outcome, shown.outcome, Http.Reply.envelope_of_object? seen]
    rfl
  rw [ended]
  exact CallReply.settles_verdict read told

/-- A reply with everything at once: an error that tells of a revert, in braces and quotes, and a
result that is a revert payload. -/
def crowdedReply : Members :=
  [("error", .object [("code", .int 3), ("message", .text "\x7b'\x7d")]),
   ("result", .text Revert.samplePayload)]

def crowdedNode : Node := { replies := fun _ _ => Node.enveloped crowdedReply }

theorem call_settles_crowded :
    let ran := (sample "http://n").manager.call (some (.fit "0x2")) none .latest
      { node := crowdedNode }
    ran.trace.questions = [⟨Endpoint.sampleAddress.text, .fit "eth_call",
        [.object [("from", .text "0x1"), ("to", .text "0x2")], .text "latest"]⟩] ∧
      Reverts ran.outcome "\x7b'\x7d" := by
  have heard : (sample "http://n").account.endpoint.object?
      (crowdedNode.next (.fit "eth_call")) = some crowdedReply :=
    Endpoint.object?_enveloped crowdedReply
  intro ran
  obtain ⟨⟨address, marked, reached, delivers, asked⟩, settled⟩ :=
    @call_settles (sample "http://n") "0x1" "latest" .latest { node := crowdedNode } crowdedReply _
      rfl (by decide) heard rfl (.inr ⟨_, rfl⟩) (some "0x2") none
  have same : address = Endpoint.sampleAddress :=
    (Except.ok.inj (Endpoint.address_plain.symm.trans reached)).symm
  obtain ⟨reason, said, reverts⟩ := settled.reported _ rfl rfl
  cases said
  cases delivers
  subst same
  exact ⟨asked, reverts⟩

end Custody

end TxSubmission
