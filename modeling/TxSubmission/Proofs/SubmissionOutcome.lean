import TxSubmission.Proofs.Confirmation

/-!
The outcome of a submission. A reply that can be read holds a hash or an error and never both, and
the hash is not empty. So the manager never has to deal with an accepted transaction without a hash,
and an execution is rejected exactly if sending the same order to the same node returns an error. On
the way from the node to the manager nothing else says that a submission is rejected: what sends and
what waits fail in other ways and log under other names.
-/

namespace TxSubmission

open Number

def Event.isManagerial : Event → Bool
  | .logged _ .manager _ => true
  | _ => false

def Failure.isRejection : Failure → Bool
  | .execution (.rejected ..) => true
  | _ => false

theorem Failure.isRejection_of_isExchange {failure : Failure}
    (exchanged : failure.isExchange = true) : failure.isRejection = false := by
  cases failure with
  | fault cause => rfl
  | execution error =>
    cases error with
    | transport cause => rfl
    | _ => cases exchanged

/-- An operation that leaves it to the manager to reject a submission and to tell of it. -/
structure Act.Defers {σ α : Type} (act : Act σ α) : Prop where
  silent : ∀ state, ∀ event ∈ (act state).trace, event.isManagerial = false
  unrejected : ∀ state failure,
    (act state).outcome = .error failure → failure.isRejection = false

namespace Act.Defers

variable {σ α β : Type}

theorem pure (a : α) : Defers (Pure.pure a : Act σ α) where
  silent _ := List.forall_mem_nil _
  unrejected _ _ := nofun

theorem fail {failure : Failure} (other : failure.isRejection = false) :
    Defers (Act.fail failure : Act σ α) where
  silent _ := List.forall_mem_nil _
  unrejected := by
    rintro _ _ ⟨⟩
    exact other

theorem ofFault (result : Except Fault α) : Defers (Act.ofFault result : Act σ α) := by
  cases result with
  | ok a => exact pure a
  | error fault => exact fail rfl

theorem ofInvalid (result : Except Invalid α) : Defers (Act.ofInvalid result : Act σ α) := by
  cases result with
  | ok a => exact pure a
  | error cause => exact fail rfl

theorem emit {event : Event} (other : event.isManagerial = false) :
    Defers (Act.emit event : Act σ Unit) where
  silent _ := List.forall_mem_singleton.mpr other
  unrejected _ _ := nofun

theorem bind {first : Act σ α} {next : α → Act σ β} (head : first.Defers)
    (tail : ∀ a, (next a).Defers) : (first >>= next).Defers where
  silent state := by
    rw [bind_apply]
    cases (first state).outcome with
    | error failure => exact head.silent state
    | ok a => exact List.forall_mem_append.mpr ⟨head.silent state, (tail a).silent _⟩
  unrejected state failure := by
    rw [bind_apply]
    cases ended : (first state).outcome with
    | error cause =>
      rintro ⟨⟩
      exact head.unrejected state _ ended
    | ok a => exact (tail a).unrejected _ failure

end Act.Defers

theorem Endpoint.target_isExchange {endpoint : Endpoint} {method : Given String}
    {params : List Json} {failure : Failure}
    (untargeted : endpoint.target method params = .error failure) : failure.isExchange = true := by
  unfold target at untargeted
  split at untargeted
  next =>
    cases untargeted
    rfl
  next =>
    split at untargeted
    next =>
      cases untargeted
      rfl
    next =>
      split at untargeted
      next => cases untargeted
      next =>
        cases untargeted
        rfl

namespace Provider

variable (endpoint : Endpoint)

theorem silent_opening (link : Link) :
    ∀ event ∈ opening endpoint link, event.isManagerial = false := by
  intro event shown
  rw [eq_of_mem_opening shown]
  rfl

theorem silent_announcement (method : Given String) (params : List Json) :
    ∀ event ∈ announcement endpoint method params, event.isManagerial = false := by
  intro event shown
  obtain ⟨text, rfl⟩ := exists_of_mem_announcement shown
  rfl

theorem silent_complaint (heard : Except Failure Members) :
    ∀ event ∈ complaint heard, event.isManagerial = false := by
  intro event shown
  obtain ⟨text, rfl⟩ := exists_of_mem_complaint shown
  rfl

theorem exchange_defers (method : Given String) (params : List Json) :
    (exchange endpoint method params).Defers := by
  cases targeted : endpoint.target method params with
  | error failure =>
    constructor
    · intro link
      rw [exchange_untargeted targeted]
      exact List.forall_mem_append.mpr
        ⟨silent_opening endpoint link, silent_announcement endpoint method params⟩
    · intro link other ended
      rw [exchange_untargeted targeted] at ended
      cases ended
      exact Failure.isRejection_of_isExchange (Endpoint.target_isExchange targeted)
  | ok address =>
    constructor
    · intro link
      rw [exchange_targeted targeted]
      simp only [List.forall_mem_append, List.forall_mem_cons]
      exact ⟨silent_opening endpoint link, silent_announcement endpoint method params, rfl,
        silent_complaint _⟩
    · intro link failure ended
      rw [exchange_targeted targeted] at ended
      exact Failure.isRejection_of_isExchange (Http.Reply.envelope_isExchange ended)

theorem result_defers (method : Given String) (params : List Json) :
    (result endpoint method params).Defers := by
  refine (exchange_defers endpoint method params).bind fun envelope => ?_
  refine (Act.Defers.ofFault _).bind fun error => ?_
  cases error with
  | none => exact .pure _
  | some error => exact .fail rfl

theorem incentiveAddress_defers : (incentiveAddress endpoint).Defers := by
  refine (result_defers endpoint _ []).bind fun found => ?_
  cases found with
  | text address =>
    dsimp only
    split
    next => exact .fail rfl
    next => exact .pure _
  | _ => exact .fail rfl

theorem send_defers (request : Request) : (send endpoint request).Defers := by
  refine (Act.Defers.ofInvalid _).bind fun payload => ?_
  exact (exchange_defers endpoint _ _).bind fun envelope => .ofFault _

theorem receipt_defers (hash : Given String) : (receipt endpoint hash).Defers := by
  refine (exchange_defers endpoint _ _).bind fun envelope => ?_
  refine (Act.Defers.ofFault _).bind fun error => ?_
  cases error with
  | some error => exact .fail rfl
  | none =>
    dsimp only
    split
    next => exact (Act.Defers.ofFault _).bind fun receipt => .pure _
    next => exact .pure _

end Provider

namespace Polling

variable {σ : Type} (polling : Polling) (hash : Given String)

theorem giveUp_defers {α : Type} (turns : Nat) :
    (polling.giveUp turns hash : Act σ α).Defers := by
  unfold giveUp
  cases polling.interval.times? turns with
  | none => exact .fail rfl
  | some total =>
    refine (Act.Defers.pure _).bind fun total => (Act.Defers.ofFault _).bind fun _ => ?_
    refine (Act.Defers.emit rfl).bind fun _ => ?_
    cases total.toBinary64? with
    | none => exact .fail rfl
    | some waited => exact .fail rfl

theorem pause_defers : (polling.pause : Act σ Unit).Defers := by
  unfold pause
  split
  next => exact .emit rfl
  next => exact .fail rfl

theorem poll_defers {query : Given String → Act σ (Option Receipt)} (queries : (query hash).Defers)
    (turns left : Nat) : (polling.poll query hash turns left).Defers := by
  induction left with
  | zero => exact giveUp_defers polling hash turns
  | succ left ih =>
    refine queries.bind fun found => ?_
    cases found with
    | some receipt => exact (Act.Defers.emit rfl).bind fun _ => .pure _
    | none =>
      refine (Act.Defers.ofFault _).bind fun _ => (Act.Defers.emit rfl).bind fun _ => ?_
      split
      next => exact polling.pause_defers.bind fun _ => ih
      next => exact ih

end Polling

theorem Account.send_defers (account : Account) (order : Order) :
    (account.send order).Defers := by
  rw [send_eq]
  refine Act.Defers.bind ?_ fun recipient => (Act.Defers.ofFault _).bind fun request =>
    Provider.send_defers account.endpoint request
  unfold recipient
  split
  next => exact .pure _
  next => exact .pure _
  next =>
    refine (Provider.incentiveAddress_defers account.endpoint).bind fun recipient => ?_
    exact (Act.Defers.emit rfl).bind fun _ => .pure _

theorem Custody.await_defers (custody : Custody) (hash : Given String) :
    (custody.await hash).Defers := by
  unfold await Polling.wait
  split
  next => exact custody.polling.poll_defers hash (Provider.receipt_defers _ hash) _ _
  next => exact .fail rfl

namespace SendReply

/-- A reply holds a hash that is not empty or an error, and nothing else. -/
inductive Settled : SendReply → Prop
  | accepted {hash : String} (inhabited : hash ≠ "") : Settled { hash := some (.fit hash) }
  | rejected (error : RpcError) : Settled { error := some error }

/-- What a reply says of the envelope that it was read from. -/
structure Tells (reply : SendReply) (envelope : Members) : Prop where
  one : reply.hash.isSome = !reply.error.isSome
  hash_iff : ∀ hash, reply.hash = some hash ↔
    (Members.get "error" envelope).isNull = true ∧
      ∃ text, Members.get "result" envelope = .text text ∧ text ≠ "" ∧ hash = .fit text
  error_wins : (Members.get "error" envelope).isNull = false →
    ∃ error, RpcError.ofJson (Members.get "error" envelope) = .ok error ∧
      reply = { error := some error }

variable {envelope : Members} {reply : SendReply}

theorem ofEnvelope_tells (read : ofEnvelope envelope = .ok reply) : reply.Tells envelope := by
  cases absent : (Members.get "error" envelope).isNull with
  | false =>
    rw [ofEnvelope_of_present absent] at read
    obtain ⟨error, reported, rfl⟩ := exists_of_map_eq_ok read
    exact
      { one := rfl
        hash_iff := by simp [absent]
        error_wins := fun _ => ⟨error, reported, rfl⟩ }
  | true =>
    rw [ofEnvelope_of_absent absent] at read
    cases token : Members.token? envelope with
    | some text =>
      rw [token] at read
      cases read
      obtain ⟨-, result, inhabited⟩ := Members.token?_eq_some_iff.mp token
      exact
        { one := rfl
          hash_iff := by simp [absent, result, inhabited, eq_comm]
          error_wins := by simp [absent] }
    | none =>
      rw [token] at read
      cases read
      refine { one := rfl, hash_iff := ?_, error_wins := by simp [absent] }
      rintro hash
      refine iff_of_false nofun ?_
      rintro ⟨-, text, result, inhabited, -⟩
      rw [Members.token?_eq_some_iff.mpr ⟨absent, result, inhabited⟩] at token
      cases token

end SendReply

theorem Account.concludes_of_send {account : Account} {order : Order} {link : Link}
    {reply : SendReply} (sent : (account.send order link).outcome = .ok reply) :
    (∃ url payload, (account.send order link).trace.questions =
      account.endpoint.lookups order.terms ++ [⟨url, .fit Provider.sendMethod, [payload]⟩]) ∧
    account.endpoint.Concludes (account.endpoint.verdict order.terms link.node) (.ok reply) := by
  obtain ⟨outcome, submissions, left, shown, how⟩ := account.send_shows order link.node
  have asked := (shown link rfl).questions
  rw [(shown link rfl).outcome] at sent
  subst sent
  cases how with
  | sent _ _ _ _ concludes => exact ⟨⟨_, _, asked⟩, concludes⟩

namespace Endpoint.Concludes

variable {endpoint : Endpoint} {answer : Http.Reply} {reply : SendReply}

theorem settled (concludes : endpoint.Concludes answer (.ok reply)) : reply.Settled := by
  cases concludes with
  | accepted token => exact .accepted (Endpoint.token?_inhabited token)
  | rejected => exact .rejected _

theorem exists_envelope (concludes : endpoint.Concludes answer (.ok reply)) :
    ∃ envelope, endpoint.object? answer = some envelope ∧
      SendReply.ofEnvelope envelope = .ok reply := by
  cases concludes with
  | accepted token =>
    obtain ⟨envelope, heard, token⟩ := Option.bind_eq_some_iff.mp token
    exact ⟨envelope, heard, SendReply.ofEnvelope_of_token token⟩
  | rejected named =>
    obtain ⟨envelope, heard, named⟩ := Option.bind_eq_some_iff.mp named
    exact ⟨envelope, heard, SendReply.ofEnvelope_of_rejection named⟩

end Endpoint.Concludes

def Manager.hashless : Event :=
  .logged .warning .manager "Node accepted the transaction without returning a hash"

theorem Act.Defers.not_mem {σ α : Type} {act : Act σ α} (defers : act.Defers) (state : σ)
    {event : Event} (managerial : event.isManagerial = true) : event ∉ (act state).trace := by
  intro member
  rw [defers.silent state event member] at managerial
  cases managerial

namespace Manager

variable (manager : Manager Link) {reply : SendReply}

theorem hashless_not_mem_confirm (defers : ∀ hash, (manager.await hash).Defers)
    (settled : reply.Settled) (link : Link) : hashless ∉ (manager.confirm reply link).trace := by
  cases settled with
  | @accepted hash inhabited =>
    rw [manager.confirm_hash inhabited, Act.log_then]
    refine List.not_mem_cons_of_ne_of_not_mem ?_ ((defers _).not_mem _ rfl)
    simp [hashless]
  | rejected error =>
    have worded : "Node accepted the transaction without returning a hash" ≠
        "Transaction rejected by node: " ++ error.text := by
      intro same
      have first := congrArg (fun s => s.toList.head?) same
      simp at first
    refine List.not_mem_cons_of_ne_of_not_mem ?_ List.not_mem_nil
    simpa [hashless] using worded

theorem confirm_rejected_iff (defers : ∀ hash, (manager.await hash).Defers)
    (settled : reply.Settled) (link : Link) (error : RpcError) (note : Option (Given String)) :
    (manager.confirm reply link).outcome = .error (.execution (.rejected error note)) ↔
      note = none ∧ reply.error = some error := by
  cases settled with
  | @accepted hash inhabited =>
    rw [manager.confirm_hash inhabited, Act.log_then]
    refine iff_of_false ?_ nofun
    intro ended
    cases (defers _).unrejected _ _ ended
  | rejected named =>
    have ended : (manager.confirm { error := some named } link).outcome =
        .error (.execution (.rejected named none)) := rfl
    rw [ended]
    simp [eq_comm, and_comm]

end Manager

/-- How the sending of an order and the execution of the same order go together. -/
structure Custody.Pairs (custody : Custody) (order : Order) (link : Link) : Prop where
  asked : ∀ reply, (custody.manager.send order link).outcome = .ok reply →
    ∃ url payload, (custody.manager.send order link).trace.questions =
      custody.account.endpoint.lookups order.terms ++ [⟨url, .fit Provider.sendMethod, [payload]⟩]
  answered : ∀ reply, (custody.manager.send order link).outcome = .ok reply → ∃ envelope,
    custody.account.endpoint.object? (custody.account.endpoint.verdict order.terms link.node) =
      some envelope ∧ SendReply.ofEnvelope envelope = .ok reply
  settled : ∀ reply, (custody.manager.send order link).outcome = .ok reply → reply.Settled
  hashed : ∀ reply, (custody.manager.send order link).outcome = .ok reply → reply.error = none →
    ∃ hash, hash ≠ "" ∧ reply.hash = some (.fit hash)
  unreached : Manager.hashless ∉ (custody.manager.execute order link).trace
  rejected_iff : ∀ error note,
    (custody.manager.execute order link).outcome = .error (.execution (.rejected error note)) ↔
      note = none ∧ ∃ reply, (custody.manager.send order link).outcome = .ok reply ∧
        reply.error = some error

namespace Custody

variable (custody : Custody) (order : Order) (link : Link)

theorem execute_cases :
    (∃ failure, (custody.account.send order link).outcome = .error failure ∧
      custody.manager.execute order link =
        ⟨.error failure, (custody.account.send order link).state,
          (custody.account.send order link).trace⟩) ∨
    ∃ reply, (custody.account.send order link).outcome = .ok reply ∧ reply.Settled ∧
      custody.manager.execute order link =
        (custody.manager.confirm reply (custody.account.send order link).state).after
          (custody.account.send order link).trace := by
  have executed : custody.manager.execute order link =
      (custody.account.send order >>= custody.manager.confirm) link := rfl
  rw [executed, Act.bind_apply]
  cases sent : (custody.account.send order link).outcome with
  | error failure => exact .inl ⟨failure, rfl, rfl⟩
  | ok reply => exact .inr ⟨reply, rfl, (Account.concludes_of_send sent).2.settled, rfl⟩

theorem hashless_not_mem_execute :
    Manager.hashless ∉ (custody.manager.execute order link).trace := by
  have unsaid : Manager.hashless ∉ (custody.account.send order link).trace :=
    (custody.account.send_defers order).not_mem link rfl
  obtain ⟨failure, -, executed⟩ | ⟨reply, -, settled, executed⟩ :=
    custody.execute_cases order link
  · rw [executed]
    exact unsaid
  · rw [executed]
    have confirmed := custody.manager.hashless_not_mem_confirm custody.await_defers settled
      (custody.account.send order link).state
    exact fun member => (List.mem_append.mp member).elim unsaid confirmed

theorem execute_rejected_iff (error : RpcError) (note : Option (Given String)) :
    (custody.manager.execute order link).outcome = .error (.execution (.rejected error note)) ↔
      note = none ∧ ∃ reply, (custody.manager.send order link).outcome = .ok reply ∧
        reply.error = some error := by
  have same : custody.manager.send order link = custody.account.send order link := rfl
  obtain ⟨failure, sent, executed⟩ | ⟨reply, sent, settled, executed⟩ :=
    custody.execute_cases order link
  · rw [executed, same, sent]
    refine iff_of_false ?_ (by simp)
    rintro ⟨⟩
    cases (custody.account.send_defers order).unrejected link _ sent
  · rw [executed, same, sent]
    refine (custody.manager.confirm_rejected_iff custody.await_defers settled _ error note).trans ?_
    simp

theorem pairs : custody.Pairs order link where
  asked _ sent := (Account.concludes_of_send sent).1
  answered _ sent := (Account.concludes_of_send sent).2.exists_envelope
  settled _ sent := (Account.concludes_of_send sent).2.settled
  hashed reply sent unerring := by
    cases (Account.concludes_of_send sent).2.settled with
    | accepted inhabited => exact ⟨_, inhabited, rfl⟩
    | rejected error => cases unerring
  unreached := custody.hashless_not_mem_execute order link
  rejected_iff := custody.execute_rejected_iff order link

/-- Every envelope that can be read gives a reply with a hash or an error, never both; the hash is
the text of a result that no error stands beside, and an error that is there wins. So whatever a
node sends, a submission without an error has a hash to wait for, the manager never records one
without, and an execution is rejected with an error exactly if sending the order returns it. -/
theorem outcomes_settled :
    (∀ envelope reply, SendReply.ofEnvelope envelope = .ok reply → reply.Tells envelope) ∧
      ∀ (custody : Custody) (order : Order) (link : Link), custody.Pairs order link :=
  ⟨fun _ _ read => SendReply.ofEnvelope_tells read, pairs⟩

theorem outcomes_settled_crowded :
    ∃ error, RpcError.ofJson (.text "busy") = .ok error ∧
      SendReply.ofEnvelope [("result", .text "0x1"), ("error", .text "busy")] =
        .ok { error := some error } := by
  obtain ⟨told, -⟩ := outcomes_settled
  have tells := told [("result", .text "0x1"), ("error", .text "busy")] _ rfl
  obtain ⟨error, read, same⟩ := tells.error_wins rfl
  exact ⟨error, read, congrArg Except.ok same⟩

end Custody

end TxSubmission
