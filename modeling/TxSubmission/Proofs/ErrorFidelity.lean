import TxSubmission.Proofs.ErrorReports
import TxSubmission.Proofs.RevertReason

/-!
The way of an error from the node to the caller. An error that can be read reaches the caller of
every operation whole, with its code, its message and its data: inside the replies that are
returned, in the failures that are raised, and with a note around its message while a receipt is
waited for. An error object with a number, a text and data is read as it stands, unless its number
is 0: this code is lost, as if the object had none.
-/

namespace TxSubmission

open Number

namespace RpcError

theorem readMessage_text (message : String) : readMessage (.text message) = message := by
  unfold readMessage
  by_cases empty : message = ""
  · subst empty
    rfl
  · have truthy : (Json.text message).isTruthy = true := (isTruthy_text message).mpr empty
    rw [if_pos truthy]
    rfl

theorem ofJson_worded {members : Members} {message : String} {code : Int}
    (worded : Members.get "message" members = .text message)
    (coded : readCode (Members.get "code" members) = .ok code) :
    ofJson (.object members) =
      .ok { code := .fit code, message := .fit message, data := Members.get "data" members } := by
  rw [ofJson, coded, worded, readMessage_text]
  rfl

theorem readCode_int {code : Int} (nonzero : code ≠ 0) : readCode (.int code) = .ok code := by
  rw [readCode, if_neg nonzero]

theorem readCode_zero : readCode (.int 0) = .ok internalCode := rfl

theorem readCode_null : readCode .null = .ok internalCode := rfl

theorem ofEnvelope_of_reported {envelope : Members} {error : RpcError}
    (present : (Members.get "error" envelope).isNull = false)
    (reported : ofJson (Members.get "error" envelope) = .ok error) :
    ofEnvelope envelope = .ok (some error) := by
  rw [ofEnvelope_of_present present, reported]
  rfl

end RpcError

namespace ExecutionError

def waitingNote (error : RpcError) : String :=
  "Error processing request: " ++ error.message.display

theorem waitingNote_inhabited (error : RpcError) : waitingNote error ≠ "" := by
  intro empty
  exact absurd (String.append_eq_empty_iff.mp empty).1 (by decide)

theorem noted_text (error : RpcError) {note : String} (inhabited : note ≠ "") :
    noted error (some (.fit note)) = note := by
  have kept : (some (Given.fit note)).filter Given.isTruthy = some (.fit note) := by
    rw [Option.filter_some, (isTruthy_text note).mpr inhabited]
    rfl
  rw [noted, Given.orElse, kept]
  rfl

end ExecutionError

section Readers

variable {envelope : Members} {error : RpcError}

theorem Members.outcome_of_reported (read : RpcError.ofEnvelope envelope = .ok (some error)) :
    outcome envelope = .error (.execution (.rpc error none)) := by
  rw [outcome, read]

theorem Receipt.ofEnvelope_of_reported (read : RpcError.ofEnvelope envelope = .ok (some error)) :
    ofEnvelope envelope =
      .error (.execution
        (.rpc error (some (.fit (ExecutionError.waitingNote error))))) := by
  rw [ofEnvelope, read]
  rfl

theorem CodeReply.ofEnvelope_of_reported (read : RpcError.ofEnvelope envelope = .ok (some error)) :
    ofEnvelope envelope = .ok { error := some error } := by
  rw [ofEnvelope, read]
  rfl

/-- Beside an error the result of a call is still read as a revert payload, so it has to be a text
or count as false, unless the error tells of the revert itself. -/
theorem CallReply.ofEnvelope_of_reported (read : RpcError.ofEnvelope envelope = .ok (some error))
    (readable : error.isRevert = true ∨ (Members.get "result" envelope).isTruthy = false ∨
      ∃ payload, Members.get "result" envelope = .text payload) :
    ∃ reply, ofEnvelope envelope = .ok reply ∧ reply.error = some error := by
  cases reverts : error.isRevert with
  | true => exact ⟨_, ofEnvelope_of_reverting read (RpcError.isRevert_iff.mp reverts), rfl⟩
  | false =>
    rw [reverts] at readable
    have unreverting : ∀ e ∈ some error, e.code ≠ .fit RpcError.revertedCode := by
      rintro e ⟨⟩ coded
      rw [RpcError.isRevert_iff.mpr coded] at reverts
      cases reverts
    have reason : ∃ reason, Revert.ofJson (Members.get "result" envelope) = .ok reason := by
      rcases readable with impossible | falsy | ⟨payload, text⟩
      · cases impossible
      · cases result : Members.get "result" envelope with
        | text payload => exact ⟨_, rfl⟩
        | _ =>
          rw [result] at falsy
          simp only [Revert.ofJson, falsy]
          exact ⟨_, rfl⟩
      · rw [text]
        exact ⟨_, rfl⟩
    obtain ⟨reason, decoded⟩ := reason
    exact ⟨_, ofEnvelope_of_unreverting read unreverting decoded, rfl⟩

end Readers

namespace Endpoint

variable {endpoint : Endpoint} {envelope : Members} {error : RpcError}

theorem rejection?_of_reported {reply : Http.Reply} (heard : endpoint.object? reply = some envelope)
    (present : (Members.get "error" envelope).isNull = false)
    (reported : RpcError.ofJson (Members.get "error" envelope) = .ok error) :
    endpoint.rejection? reply = some error := by
  rw [rejection?, heard, Option.bind_some, Members.rejection?, present, reported]
  rfl

theorem Concludes.of_rejection {reply : Http.Reply} {outcome : Except Failure SendReply}
    (concludes : endpoint.Concludes reply outcome)
    (rejected : endpoint.rejection? reply = some error) :
    outcome = .ok { error := some error } := by
  cases concludes with
  | accepted token =>
    rw [rejection?_of_token token] at rejected
    cases rejected
  | rejected named =>
    rw [named] at rejected
    cases rejected
    rfl
  | failed unaccepted unrejected =>
    rw [unrejected] at rejected
    cases rejected

end Endpoint

theorem Account.send_of_unlooked {account : Account} {order : Order} {link : Link}
    {failure : Failure} {chainId tip cap : Option (Given Int)}
    (terms : order.terms = .incentive chainId tip cap)
    (unlooked : (Provider.incentiveAddress account.endpoint link).outcome = .error failure) :
    (account.send order link).outcome = .error failure := by
  rw [send_eq, Act.bind_apply]
  have ended : (account.recipient order.terms link).outcome = .error failure := by
    rw [terms]
    change ((Provider.incentiveAddress account.endpoint >>= _) link).outcome = _
    rw [Act.bind_apply, unlooked]
  rw [ended]

/-- Where a caller meets an error that the node reports in an object: inside the replies of the
operations that return one, in the rejection of an execution, and raised by the lookup, the other
queries and the wait for a receipt. -/
structure Custody.Conveys (custody : Custody) (envelope : Members) (error : RpcError) : Prop where
  sent : ∀ order link,
    (custody.manager.send order link).trace.questions ≠
      custody.account.endpoint.lookups order.terms →
    custody.account.endpoint.object?
      (custody.account.endpoint.verdict order.terms link.node) = some envelope →
    (custody.manager.send order link).outcome = .ok { error := some error }
  executed : ∀ order link,
    (custody.manager.execute order link).trace.questions ≠
      custody.account.endpoint.lookups order.terms →
    custody.account.endpoint.object?
      (custody.account.endpoint.verdict order.terms link.node) = some envelope →
    (custody.manager.execute order link).outcome = .error (.execution (.rejected error none))
  unlooked : ∀ order link chainId tip cap, order.terms = .incentive chainId tip cap →
    custody.account.endpoint.lookups order.terms ≠ [] →
    custody.account.endpoint.object?
      (link.node.next custody.account.endpoint.lookupMethod) = some envelope →
    (custody.manager.send order link).outcome = .error (.execution (.rpc error none)) ∧
      (custody.manager.execute order link).outcome = .error (.execution (.rpc error none))
  coded : ∀ address block,
    (custody.manager.code address block).Hears custody.account.endpoint (.fit "eth_getCode")
      envelope (.ok { error := some error })
  called : error.isRevert = true ∨ (Members.get "result" envelope).isTruthy = false ∨
      (∃ payload, Members.get "result" envelope = .text payload) →
    ∃ reply : CallReply, reply.error = some error ∧ ∀ request block,
      (Provider.call custody.account.endpoint request block).Hears custody.account.endpoint
        (.fit "eth_call") envelope (.ok reply)
  lookedUp : (Provider.incentiveAddress custody.account.endpoint).Hears custody.account.endpoint
    custody.account.endpoint.lookupMethod envelope (.error (.execution (.rpc error none)))
  chained : (Provider.chainId custody.account.endpoint).Hears custody.account.endpoint
    (.fit "eth_chainId") envelope (.error (.execution (.rpc error none)))
  estimated : ∀ request,
    (Provider.estimateGas custody.account.endpoint request).Hears custody.account.endpoint
      (.fit "eth_estimateGas") envelope (.error (.execution (.rpc error none)))
  queried : ∀ hash,
    (Provider.receipt custody.account.endpoint hash).Hears custody.account.endpoint
      (.fit Provider.receiptMethod) envelope
      (.error (.execution
        (.rpc error (some (.fit (ExecutionError.waitingNote error))))))
  polled : ∀ (hash : String) (link : Link) (turns : Int) (address : Http.Address) (j : Nat),
    Polling.turns? custody.polling.attempts = some turns → j < turns →
    (0 < j → Polling.stall? turns custody.polling.interval = none) →
    custody.account.endpoint.address = .ok address →
    (∀ i < j, (link.node.ahead Provider.receiptMethod i).isPending address = true) →
    (link.node.ahead Provider.receiptMethod j).object? address = some envelope →
    (custody.await (.fit hash) link).outcome =
      .error (.execution
        (.rpc error (some (.fit (ExecutionError.waitingNote error)))))
  said : (ExecutionError.rejected error none).message = error.message.display ∧
    (ExecutionError.rpc error none).message = error.message.display ∧
    (ExecutionError.rpc error (some (.fit (ExecutionError.waitingNote error)))).message =
      "Error processing request: " ++ error.message.display

namespace Custody

variable (custody : Custody) {envelope : Members} {error : RpcError}

theorem send_of_rejected (order : Order) (link : Link)
    (rejected : custody.account.endpoint.rejection?
      (custody.account.endpoint.verdict order.terms link.node) = some error) :
    ((custody.manager.send order link).trace.questions ≠
        custody.account.endpoint.lookups order.terms →
      (custody.manager.send order link).outcome = .ok { error := some error }) ∧
    ((custody.manager.execute order link).trace.questions ≠
        custody.account.endpoint.lookups order.terms →
      (custody.manager.execute order link).outcome =
        .error (.execution (.rejected error none))) := by
  obtain ⟨outcome, submissions, left, sent, how⟩ := custody.account.send_shows order link.node
  cases how with
  | unsent =>
    have ended := sent.bind_error custody.manager.confirm
    rw [List.append_nil] at sent ended
    constructor
    · intro submitted
      exact absurd (sent link rfl).questions submitted
    · intro submitted
      exact absurd (ended link rfl).questions submitted
  | sent read named built wired concludes =>
    cases concludes.of_rejection rejected
    have refused := custody.manager.confirm_of_error error left
    constructor
    · intro _
      exact (sent link rfl).outcome
    · intro _
      exact (sent.bind refused link rfl).outcome

theorem send_of_unlooked {order : Order} {link : Link} {failure : Failure}
    {chainId tip cap : Option (Given Int)} (terms : order.terms = .incentive chainId tip cap)
    (unlooked : (Provider.incentiveAddress custody.account.endpoint link).outcome =
      .error failure) :
    (custody.manager.send order link).outcome = .error failure ∧
      (custody.manager.execute order link).outcome = .error failure := by
  have ended := Account.send_of_unlooked terms unlooked
  refine ⟨ended, ?_⟩
  change ((custody.account.send order >>= custody.manager.confirm) link).outcome = _
  rw [Act.bind_apply, ended]

theorem lookup_asked {endpoint : Endpoint} {link : Link} {terms : FeeTerms}
    (looked : endpoint.lookups terms ≠ []) :
    (Provider.incentiveAddress endpoint link).trace.questions ≠ [] := by
  unfold Endpoint.lookups at looked
  split at looked
  next targeted =>
    obtain ⟨outcome, asked, -⟩ := Provider.incentiveAddress_shows targeted link.node
    rw [(asked link rfl).questions]
    exact List.cons_ne_nil _ _
  next => exact absurd rfl looked

theorem await_of_reported (present : (Members.get "error" envelope).isNull = false)
    (reported : RpcError.ofJson (Members.get "error" envelope) = .ok error) (hash : String)
    (link : Link) {turns : Int} {address : Http.Address} {j : Nat}
    (counted : Polling.turns? custody.polling.attempts = some turns) (bound : j < turns)
    (steady : 0 < j → Polling.stall? turns custody.polling.interval = none)
    (read : custody.account.endpoint.address = .ok address)
    (pending : ∀ i < j, (link.node.ahead Provider.receiptMethod i).isPending address = true)
    (heard : (link.node.ahead Provider.receiptMethod j).object? address = some envelope) :
    (custody.await (.fit hash) link).outcome =
      .error (.execution
        (.rpc error (some (.fit (ExecutionError.waitingNote error))))) := by
  have decisive : (link.node.ahead Provider.receiptMethod j).isPending address = false := by
    rw [Http.Reply.isPending, heard, Option.any_some, present, Bool.false_and]
  obtain ⟨outcome, decides, run⟩ := Polling.poll_decided counted read hash turns.toNat link.node j
    (show j < turns.toNat by omega) pending decisive steady
  have waits : custody.await (.fit hash) =
      custody.polling.poll (Provider.receipt custody.account.endpoint) (.fit hash) turns.toNat
        turns.toNat := by
    rw [await, Polling.wait, counted]
  rw [waits, (run link rfl).outcome]
  exact decides.unique (.refused heard present reported)

theorem conveys (present : (Members.get "error" envelope).isNull = false)
    (reported : RpcError.ofJson (Members.get "error" envelope) = .ok error) :
    custody.Conveys envelope error := by
  have read := RpcError.ofEnvelope_of_reported present reported
  have outcome := Members.outcome_of_reported read
  have lookedUp : (Provider.incentiveAddress custody.account.endpoint).Hears
      custody.account.endpoint custody.account.endpoint.lookupMethod envelope
      (.error (.execution (.rpc error none))) := by
    apply (Provider.incentiveAddress_relays custody.account.endpoint).hears
    rw [outcome]
    rfl
  have rejected {reply : Http.Reply}
      (heard : custody.account.endpoint.object? reply = some envelope) :
      custody.account.endpoint.rejection? reply = some error :=
    Endpoint.rejection?_of_reported heard present reported
  refine
    { sent := fun order link submitted heard =>
        (custody.send_of_rejected order link (rejected heard)).1 submitted
      executed := fun order link submitted heard =>
        (custody.send_of_rejected order link (rejected heard)).2 submitted
      unlooked := fun order link _ _ _ terms looked heard =>
        custody.send_of_unlooked terms (lookedUp link (lookup_asked looked) heard)
      coded := ?_
      called := ?_
      lookedUp
      chained := ?_
      estimated := ?_
      queried := ?_
      polled := fun hash link _ _ _ counted bound =>
        custody.await_of_reported present reported hash link counted bound
      said := ⟨rfl, rfl, ExecutionError.noted_text error (ExecutionError.waitingNote_inhabited _)⟩ }
  · intro address block
    apply (Provider.code_relays custody.account.endpoint address block).hears
    rw [CodeReply.ofEnvelope_of_reported read]
    rfl
  · intro readable
    obtain ⟨reply, made, carried⟩ := CallReply.ofEnvelope_of_reported read readable
    refine ⟨reply, carried, ?_⟩
    intro request block
    apply (Provider.call_relays custody.account.endpoint request block).hears
    rw [made]
    rfl
  · apply (Provider.chainId_relays custody.account.endpoint).hears
    rw [outcome]
    rfl
  · intro request
    apply (Provider.estimateGas_relays custody.account.endpoint request).hears
    rw [outcome]
    rfl
  · intro hash
    apply (Provider.receipt_relays custody.account.endpoint hash).hears
    rw [Receipt.ofEnvelope_of_reported read]

/-- An error object with a text for its message reaches every caller with that message and its
data, and with its code, if it has one other than 0; otherwise with the code of an internal
error. -/
theorem errors_conveyed {members : Members} {message : String}
    (reported : Members.get "error" envelope = .object members)
    (worded : Members.get "message" members = .text message) :
    (∀ code : Int, Members.get "code" members = .int code → code ≠ 0 →
      custody.Conveys envelope ⟨.fit code, .fit message, Members.get "data" members⟩) ∧
    (Members.get "code" members = .null ∨ Members.get "code" members = .int 0 →
      custody.Conveys envelope
        ⟨.fit RpcError.internalCode, .fit message, Members.get "data" members⟩) := by
  have present : (Members.get "error" envelope).isNull = false := by
    rw [reported]
    rfl
  constructor
  · intro code coded nonzero
    apply custody.conveys present
    rw [reported]
    apply RpcError.ofJson_worded worded
    rw [coded, RpcError.readCode_int nonzero]
  · intro uncoded
    apply custody.conveys present
    rw [reported]
    apply RpcError.ofJson_worded worded
    rcases uncoded with missing | zero
    · rw [missing, RpcError.readCode_null]
    · rw [zero, RpcError.readCode_zero]

theorem errors_conveyed_coded :
    (sample "http://n").Conveys (Endpoint.coded (.int 7)) ⟨.fit 7, .fit "m", .text "0x1"⟩ ∧
      (sample "http://n").Conveys (Endpoint.coded (.int 0))
        ⟨.fit (-32603), .fit "m", .text "0x1"⟩ := by
  obtain ⟨numbered, -⟩ := @errors_conveyed (sample "http://n") (Endpoint.coded (.int 7))
    [("code", .int 7), ("message", .text "m"), ("data", .text "0x1")] "m" rfl rfl
  obtain ⟨-, unnumbered⟩ := @errors_conveyed (sample "http://n") (Endpoint.coded (.int 0))
    [("code", .int 0), ("message", .text "m"), ("data", .text "0x1")] "m" rfl rfl
  exact ⟨numbered 7 rfl (by decide), unnumbered (.inr rfl)⟩

/-- The code 0 does not reach a caller: in front of a node that reports it, a query for code hands
back another one. -/
theorem errors_not_always_conveyed :
    Members.get "error" (Endpoint.coded (.int 0)) =
        .object [("code", .int 0), ("message", .text "m"), ("data", .text "0x1")] ∧
      ((sample "http://n").manager.code (.fit "0x1") .latest
        { node := { replies := fun _ _ => Node.enveloped (Endpoint.coded (.int 0)) } }).outcome =
        .ok { error := some ⟨.fit (-32603), .fit "m", .text "0x1"⟩ } := by
  let node : Node := { replies := fun _ _ => Node.enveloped (Endpoint.coded (.int 0)) }
  have conveys : (sample "http://n").Conveys (Endpoint.coded (.int 0))
      ⟨.fit (-32603), .fit "m", .text "0x1"⟩ := (sample "http://n").conveys rfl rfl
  have targeted : (Endpoint.plain "http://n").target (.fit "eth_getCode")
      [.text "0x1", .text "latest"] = .ok Endpoint.sampleAddress :=
    Endpoint.target_of_address Endpoint.address_plain rfl
  have asked := Act.questions_bind_ne_nil (Provider.exchange_asks targeted { node })
    fun envelope => Act.ofFault (CodeReply.ofEnvelope envelope)
  have heard : (Endpoint.plain "http://n").object? (node.next (.fit "eth_getCode")) =
      some (Endpoint.coded (.int 0)) := Endpoint.object?_enveloped _
  exact ⟨rfl, conveys.coded (.fit "0x1") .latest { node } asked heard⟩

end Custody

end TxSubmission
