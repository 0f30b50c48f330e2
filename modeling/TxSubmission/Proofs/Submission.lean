import TxSubmission.Proofs.Exchange
import TxSubmission.Proofs.WireForm
import TxSubmission.Sender.Account

/-!
Sending an order. The incentive recipient is looked up first where the terms ask for one; then
at most one submission is posted, and the reply to it accepts the transaction with a hash, rejects
it with an error or fails.
-/

namespace TxSubmission

open Number

def Provider.sendMethod : String := "eth_sendTransaction"

namespace Members

/-- The text that an envelope without an error has for a result, unless it is empty. -/
def token? (envelope : Members) : Option String :=
  match (get "error" envelope).isNull, get "result" envelope with
  | true, .text token => if token = "" then none else some token
  | _, _ => none

theorem token?_eq_some_iff {envelope : Members} {token : String} :
    token? envelope = some token ↔
      (get "error" envelope).isNull = true ∧ get "result" envelope = .text token ∧ token ≠ "" := by
  unfold token?
  split
  next text absent result =>
    rw [absent, result]
    by_cases empty : text = ""
    · subst empty
      simp
    · rw [if_neg empty]
      constructor
      · rintro ⟨⟩
        exact ⟨rfl, rfl, empty⟩
      · rintro ⟨-, same, -⟩
        rw [Json.text.inj same]
  next other =>
    refine iff_of_false nofun ?_
    rintro ⟨absent, result, -⟩
    exact other token absent result

theorem token?_inhabited {envelope : Members} {token : String}
    (named : token? envelope = some token) : token ≠ "" :=
  (token?_eq_some_iff.mp named).2.2

/-- The error with which an envelope rejects a submission: the one that it has, as far as it can be
read, or the one that stands in for a missing hash. -/
def rejection? (envelope : Members) : Option RpcError :=
  if (get "error" envelope).isNull then
    match token? envelope with
    | some _ => none
    | none => some .missingHash
  else (RpcError.ofJson (get "error" envelope)).toOption

theorem absent_of_token {envelope : Members} {token : String}
    (named : token? envelope = some token) : (get "error" envelope).isNull = true :=
  (token?_eq_some_iff.mp named).1

theorem rejection?_of_token {envelope : Members} {token : String}
    (named : token? envelope = some token) : rejection? envelope = none := by
  rw [rejection?, if_pos (absent_of_token named), named]

end Members

namespace SendReply

variable {envelope : Members}

theorem ofEnvelope_of_absent (absent : (Members.get "error" envelope).isNull = true) :
    ofEnvelope envelope =
      .ok (match Members.token? envelope with
        | some hash => { hash := some (.fit hash) }
        | none => { error := some .missingHash }) := by
  rw [ofEnvelope, RpcError.ofEnvelope_of_absent absent, Members.token?, absent]
  simp only [bind, Except.bind]
  cases Members.get "result" envelope with
  | text hash =>
    dsimp only
    split
    next => rfl
    next => rfl
  | _ => rfl

theorem ofEnvelope_of_present (present : (Members.get "error" envelope).isNull = false) :
    ofEnvelope envelope =
      (RpcError.ofJson (Members.get "error" envelope)).map
        fun error => { error := some error } := by
  rw [ofEnvelope, RpcError.ofEnvelope_of_present present]
  cases RpcError.ofJson (Members.get "error" envelope) with
  | error fault => rfl
  | ok error => rfl

theorem ofEnvelope_of_token {hash : String} (accepted : Members.token? envelope = some hash) :
    ofEnvelope envelope = .ok { hash := some (.fit hash) } := by
  rw [ofEnvelope_of_absent (Members.absent_of_token accepted), accepted]

theorem ofEnvelope_of_rejection {error : RpcError}
    (rejected : Members.rejection? envelope = some error) :
    ofEnvelope envelope = .ok { error := some error } := by
  unfold Members.rejection? at rejected
  split at rejected
  next absent =>
    rw [ofEnvelope_of_absent absent]
    split at rejected
    next => cases rejected
    next =>
      cases rejected
      rfl
  next present =>
    rw [ofEnvelope_of_present (Bool.eq_false_iff.mpr present)]
    cases read : RpcError.ofJson (Members.get "error" envelope) with
    | error fault =>
      rw [read] at rejected
      cases rejected
    | ok named =>
      rw [read] at rejected
      cases rejected
      rfl

theorem ofEnvelope_of_neither (unaccepted : Members.token? envelope = none)
    (unrejected : Members.rejection? envelope = none) :
    ∃ fault, ofEnvelope envelope = .error fault := by
  unfold Members.rejection? at unrejected
  split at unrejected
  next =>
    rw [unaccepted] at unrejected
    cases unrejected
  next present =>
    rw [ofEnvelope_of_present (Bool.eq_false_iff.mpr present)]
    cases read : RpcError.ofJson (Members.get "error" envelope) with
    | error fault => exact ⟨fault, rfl⟩
    | ok named =>
      rw [read] at unrejected
      cases unrejected

end SendReply

namespace Endpoint

def object? (endpoint : Endpoint) (reply : Http.Reply) : Option Members :=
  match endpoint.address with
  | .ok address => reply.object? address
  | .error _ => none

theorem exists_address_of_object? {endpoint : Endpoint} {reply : Http.Reply} {envelope : Members}
    (heard : endpoint.object? reply = some envelope) :
    ∃ address, endpoint.address = .ok address ∧ reply.object? address = some envelope := by
  unfold object? at heard
  split at heard
  next address read => exact ⟨address, read, heard⟩
  next => cases heard

theorem object?_enveloped (envelope : Members) :
    (plain "http://n").object? (Node.enveloped envelope) = some envelope := by
  rw [object?, address_plain]
  rfl

/-- The text that a reply answers with: the hash of a submission, or the address of a lookup. -/
def token? (endpoint : Endpoint) (reply : Http.Reply) : Option String :=
  (endpoint.object? reply).bind Members.token?

/-- The error with which a reply rejects a submission. -/
def rejection? (endpoint : Endpoint) (reply : Http.Reply) : Option RpcError :=
  (endpoint.object? reply).bind Members.rejection?

section Addressed

variable {endpoint : Endpoint} {address : Http.Address}

theorem token?_of_address (read : endpoint.address = .ok address) (reply : Http.Reply) :
    endpoint.token? reply = (reply.object? address).bind Members.token? := by
  rw [token?, object?, read]

theorem rejection?_of_address (read : endpoint.address = .ok address) (reply : Http.Reply) :
    endpoint.rejection? reply = (reply.object? address).bind Members.rejection? := by
  rw [rejection?, object?, read]

end Addressed

theorem token?_inhabited {endpoint : Endpoint} {reply : Http.Reply} {token : String}
    (named : endpoint.token? reply = some token) : token ≠ "" := by
  obtain ⟨envelope, -, named⟩ := Option.bind_eq_some_iff.mp named
  exact Members.token?_inhabited named

theorem rejection?_of_token {endpoint : Endpoint} {reply : Http.Reply} {token : String}
    (named : endpoint.token? reply = some token) : endpoint.rejection? reply = none := by
  obtain ⟨envelope, heard, named⟩ := Option.bind_eq_some_iff.mp named
  rw [rejection?, heard]
  exact Members.rejection?_of_token named

theorem token?_of_rejection {endpoint : Endpoint} {reply : Http.Reply} {error : RpcError}
    (named : endpoint.rejection? reply = some error) : endpoint.token? reply = none := by
  cases token : endpoint.token? reply with
  | none => rfl
  | some hash =>
    rw [rejection?_of_token token] at named
    cases named

def lookups (endpoint : Endpoint) (terms : FeeTerms) : List Question :=
  match terms, endpoint.target endpoint.lookupMethod [] with
  | .incentive .., .ok address => [⟨address.text, endpoint.lookupMethod, []⟩]
  | _, _ => []

theorem lookups_of_unreadable {endpoint : Endpoint} {fault : Fault}
    (unreadable : endpoint.address = .error fault) (terms : FeeTerms) :
    endpoint.lookups terms = [] := by
  unfold lookups
  split
  next targeted =>
    rw [address_of_target targeted] at unreadable
    cases unreadable
  next => rfl

end Endpoint

def Node.after (node : Node) (questions : List Question) : Node :=
  questions.foldl (fun node question => node.advance question.method) node

/-- The reply that the submission of an order on given terms gets. -/
def Endpoint.verdict (endpoint : Endpoint) (terms : FeeTerms) (node : Node) : Http.Reply :=
  (node.after (endpoint.lookups terms)).next (.fit Provider.sendMethod)

/-- How a submission ends by the reply to it. -/
inductive Endpoint.Concludes (endpoint : Endpoint) (reply : Http.Reply) :
    Except Failure SendReply → Prop
  | accepted {hash : String} (token : endpoint.token? reply = some hash) :
      Concludes endpoint reply (.ok { hash := some (.fit hash) })
  | rejected {error : RpcError} (named : endpoint.rejection? reply = some error) :
      Concludes endpoint reply (.ok { error := some error })
  | failed {failure : Failure} (unaccepted : endpoint.token? reply = none)
      (unrejected : endpoint.rejection? reply = none) :
      Concludes endpoint reply (.error failure)

namespace Provider

variable {endpoint : Endpoint} {address : Http.Address}

theorem concludes (read : endpoint.address = .ok address) {payload : Json} {node : Node}
    (targeted : endpoint.target (.fit sendMethod) [payload] = .ok address) :
    ∃ outcome, endpoint.Concludes (node.next (.fit sendMethod)) outcome ∧
      (do
        let envelope ← exchange endpoint (.fit sendMethod) [payload]
        Act.ofFault (SendReply.ofEnvelope envelope)).Shows node outcome
          [⟨address.text, .fit sendMethod, [payload]⟩] []
          (node.advance (.fit sendMethod)) := by
  have token := Endpoint.token?_of_address read (node.next (.fit sendMethod))
  have rejection := Endpoint.rejection?_of_address read (node.next (.fit sendMethod))
  cases heard : (node.next (.fit sendMethod)).object? address with
  | none =>
    rw [heard] at token rejection
    obtain ⟨cause, lost⟩ | ⟨fault, lost⟩ :=
      Http.Reply.envelope_error_of_object? heard sendMethod
    · exact ⟨_, .failed token rejection, exchange_lost targeted lost _⟩
    · exact ⟨_, .failed token rejection, exchange_lost targeted lost _⟩
  | some envelope =>
    rw [heard] at token rejection
    cases accepted : Members.token? envelope with
    | some hash =>
      refine ⟨_, .accepted (token.trans accepted), exchange_then targeted heard ?_⟩
      rw [SendReply.ofEnvelope_of_token accepted]
      exact Act.Shows.pure _ _
    | none =>
      cases rejected : Members.rejection? envelope with
      | some error =>
        refine ⟨_, .rejected (rejection.trans rejected), exchange_then targeted heard ?_⟩
        rw [SendReply.ofEnvelope_of_rejection rejected]
        exact Act.Shows.pure _ _
      | none =>
        obtain ⟨fault, garbled⟩ := SendReply.ofEnvelope_of_neither accepted rejected
        refine ⟨.error (.fault fault), .failed (token.trans accepted) (rejection.trans rejected),
          exchange_then targeted heard ?_⟩
        rw [garbled]
        exact Act.Shows.fail _ _

theorem send_shows (endpoint : Endpoint) (request : Request) (node : Node) :
    ∃ outcome submissions left,
      (send endpoint request).Shows node outcome submissions [] left ∧
      ((submissions = [] ∧ ∃ failure, outcome = .error failure) ∨
        ∃ address entries, endpoint.address = .ok address ∧ request.wire = .ok entries ∧
          submissions = [⟨address.text, .fit sendMethod, [.object entries]⟩] ∧
          endpoint.Concludes (node.next (.fit sendMethod)) outcome) := by
  unfold send
  cases wired : request.wire with
  | error cause =>
    have unwritten : request.payload = .error cause := by
      rw [Request.payload, wired]
      rfl
    rw [unwritten, Act.ofInvalid_error, Act.fail_then]
    exact ⟨_, _, _, Act.Shows.fail _ node, .inl ⟨rfl, _, rfl⟩⟩
  | ok entries =>
    rw [Request.payload_of_wire wired, Act.ofInvalid_ok, pure_bind]
    cases targeted : endpoint.target (.fit sendMethod) [.object entries] with
    | error failure =>
      have unsent := (exchange_shows_nothing targeted node).bind_error
        fun envelope => Act.ofFault (SendReply.ofEnvelope envelope)
      exact ⟨_, _, _, unsent, .inl ⟨rfl, _, rfl⟩⟩
    | ok address =>
      have read := Endpoint.address_of_target targeted
      obtain ⟨outcome, concludes, sent⟩ := concludes read targeted
      exact ⟨_, _, _, sent, .inr ⟨address, entries, read, rfl, rfl, concludes⟩⟩

theorem send_of_sendable (read : endpoint.address = .ok address) {request : Request}
    {entries : Members} (wired : request.wire = .ok entries)
    (sendable : (Json.object entries).isSendable (endpoint.room + 2) = true) (node : Node) :
    ∃ outcome, (send endpoint request).Shows node outcome
      [⟨address.text, .fit sendMethod, [.object entries]⟩] []
      (node.advance (.fit sendMethod)) := by
  have postable : RpcRequest.isSendable endpoint.room (.fit sendMethod) [.object entries] =
      true := by
    apply RpcRequest.isSendable_fit
    rw [Json.isSendable_list]
    simpa using sendable
  have targeted := Endpoint.target_of_address read postable
  obtain ⟨outcome, -, submitted⟩ := concludes read targeted
  refine ⟨outcome, ?_⟩
  unfold send
  rw [Request.payload_of_wire wired, Act.ofInvalid_ok, pure_bind]
  exact submitted

theorem result_shows {method : Given String} {params : List Json}
    (targeted : endpoint.target method params = .ok address) (node : Node) :
    ∃ outcome,
      (result endpoint method params).Shows node outcome [⟨address.text, method, params⟩] []
        (node.advance method) ∧
      ∀ found, outcome = .ok found → ∃ envelope,
        (node.next method).object? address = some envelope ∧
          (Members.get "error" envelope).isNull = true ∧ found = Members.get "result" envelope := by
  unfold result
  cases heard : (node.next method).object? address with
  | none =>
    obtain ⟨cause, lost⟩ | ⟨fault, lost⟩ :=
      Http.Reply.envelope_error_of_object? heard method.display
    · exact ⟨_, exchange_lost targeted lost _, nofun⟩
    · exact ⟨_, exchange_lost targeted lost _, nofun⟩
  | some envelope =>
    cases absent : (Members.get "error" envelope).isNull with
    | true =>
      refine ⟨.ok (Members.get "result" envelope), exchange_unreported targeted heard absent ?_, ?_⟩
      · exact Act.Shows.pure _ _
      · intro found same
        cases same
        exact ⟨envelope, rfl, absent, rfl⟩
    | false =>
      cases reported : RpcError.ofJson (Members.get "error" envelope) with
      | error fault => exact ⟨_, exchange_garbled targeted heard absent reported _, nofun⟩
      | ok error =>
        refine ⟨.error (.execution (.rpc error none)),
          exchange_reported targeted heard absent reported ?_, nofun⟩
        exact Act.Shows.fail _ _

theorem incentiveAddress_shows
    (targeted : endpoint.target endpoint.lookupMethod [] = .ok address) (node : Node) :
    ∃ outcome,
      (incentiveAddress endpoint).Shows node outcome [⟨address.text, endpoint.lookupMethod, []⟩] []
        (node.advance endpoint.lookupMethod) ∧
      ∀ recipient, outcome = .ok recipient →
        endpoint.token? (node.next endpoint.lookupMethod) = some recipient := by
  have read := Endpoint.address_of_target targeted
  obtain ⟨outcome, asked, names⟩ := result_shows targeted node
  unfold incentiveAddress
  cases outcome with
  | error failure => exact ⟨_, asked.bind_error _, nofun⟩
  | ok found =>
    obtain ⟨envelope, heard, absent, result⟩ := names found rfl
    have token : endpoint.token? (node.next endpoint.lookupMethod) = Members.token? envelope := by
      rw [Endpoint.token?_of_address read, heard]
      rfl
    by_cases named : ∃ recipient, found = .text recipient ∧ recipient ≠ ""
    · obtain ⟨recipient, rfl, inhabited⟩ := named
      refine ⟨.ok recipient, asked.bind ?_, ?_⟩
      · dsimp only
        rw [if_neg inhabited]
        exact Act.Shows.pure _ _
      · intro other same
        cases same
        rw [token, Members.token?, absent, ← result]
        exact if_neg inhabited
    · refine ⟨.error (.execution (.rpc .invalidIncentive none)), asked.bind ?_, nofun⟩
      cases found with
      | text recipient =>
        have empty : recipient = "" := by
          by_cases empty : recipient = ""
          · exact empty
          · exact absurd ⟨recipient, rfl, empty⟩ named
        dsimp only
        rw [if_pos empty]
        exact Act.Shows.fail _ _
      | _ => exact Act.Shows.fail _ _

theorem incentiveAddress_untargeted {failure : Failure}
    (untargeted : endpoint.target endpoint.lookupMethod [] = .error failure) (node : Node) :
    (incentiveAddress endpoint).Shows node (.error failure) [] [] node := by
  have unasked : (result endpoint endpoint.lookupMethod []).Shows node (.error failure) [] []
      node := (exchange_shows_nothing untargeted node).bind_error _
  exact unasked.bind_error _

end Provider

def FeeTerms.looksUp : FeeTerms → Bool
  | .incentive .. => true
  | _ => false

theorem FeeTerms.exists_of_looksUp (terms : FeeTerms) (asking : terms.looksUp = true) :
    ∃ chainId tip cap, terms = .incentive chainId tip cap := by
  cases terms with
  | incentive chainId tip cap => exact ⟨chainId, tip, cap, rfl⟩
  | _ => cases asking

theorem Endpoint.lookups_of_looksUp {endpoint : Endpoint} {address : Http.Address}
    (targeted : endpoint.target endpoint.lookupMethod [] = .ok address) {terms : FeeTerms}
    (asking : terms.looksUp = true) :
    endpoint.lookups terms = [⟨address.text, endpoint.lookupMethod, []⟩] := by
  obtain ⟨chainId, tip, cap, rfl⟩ := terms.exists_of_looksUp asking
  unfold lookups
  rw [targeted]

namespace Account

def recipient (account : Account) (terms : FeeTerms) : Act Link String :=
  match terms with
  | .legacy _ | .market .. => pure ""
  | .incentive .. => do
    let recipient ← Provider.incentiveAddress account.endpoint
    Act.log .debug .account ("Using incentive address " ++ recipient)
    pure recipient

def request (account : Account) (order : Order) (recipient : String) : Except Fault Request :=
  let cargo := account.cargo order
  match order.terms with
  | .legacy gasPrice => Request.legacy cargo gasPrice
  | .market chainId tip cap => Request.market cargo chainId tip cap none
  | .incentive chainId tip cap =>
    Request.incentivized cargo chainId tip cap (some (.fit recipient))

theorem send_eq (account : Account) (order : Order) :
    account.send order =
      account.recipient order.terms >>= fun recipient =>
        Act.ofFault (account.request order recipient) >>= Provider.send account.endpoint := by
  unfold send recipient request
  cases order.terms <;> simp only [bind_assoc, pure_bind]

theorem recipient_shows (account : Account) (terms : FeeTerms) (node : Node) :
    ∃ outcome,
      (account.recipient terms).Shows node outcome (account.endpoint.lookups terms) []
        (node.after (account.endpoint.lookups terms)) ∧
      ∀ recipient, outcome = .ok recipient → ∀ chainId tip cap, terms = .incentive chainId tip cap →
        account.endpoint.token? (node.next account.endpoint.lookupMethod) = some recipient := by
  cases terms with
  | legacy gasPrice => exact ⟨_, Act.Shows.pure _ node, nofun⟩
  | market chainId tip cap => exact ⟨_, Act.Shows.pure _ node, nofun⟩
  | incentive chainId tip cap =>
    unfold recipient Endpoint.lookups
    cases targeted : account.endpoint.target account.endpoint.lookupMethod [] with
    | error failure =>
      have unasked := Provider.incentiveAddress_untargeted targeted node
      exact ⟨_, unasked.bind_error _, nofun⟩
    | ok address =>
      obtain ⟨outcome, asked, names⟩ := Provider.incentiveAddress_shows targeted node
      cases outcome with
      | error failure => exact ⟨_, asked.bind_error _, nofun⟩
      | ok recipient =>
        refine ⟨_, asked.bind (Act.Shows.log_bind (Act.Shows.pure _ _)), ?_⟩
        intro found same _ _ _ _
        cases same
        exact names recipient rfl

/-- How an order is sent behind its lookup: not at all, or by one submission of the request that is
built for it, whose reply decides. -/
inductive Sends (account : Account) (order : Order) (node : Node) :
    Except Failure SendReply → List Question → Prop
  | unsent {failure : Failure} : Sends account order node (.error failure) []
  | sent {address : Http.Address} {recipient : String} {request : Request} {entries : Members}
      {outcome : Except Failure SendReply} (read : account.endpoint.address = .ok address)
      (named : ∀ chainId tip cap, order.terms = .incentive chainId tip cap →
        account.endpoint.token? (node.next account.endpoint.lookupMethod) = some recipient)
      (built : account.request order recipient = .ok request)
      (wired : request.wire = .ok entries)
      (concludes : account.endpoint.Concludes (account.endpoint.verdict order.terms node) outcome) :
      Sends account order node outcome
        [⟨address.text, .fit Provider.sendMethod, [.object entries]⟩]

section Sends

variable {account : Account} {order : Order} {node : Node} {outcome : Except Failure SendReply}
  {submissions : List Question}

theorem Sends.submitting (sends : account.Sends order node outcome submissions) :
    ∀ question ∈ submissions, question.method = .fit Provider.sendMethod := by
  cases sends with
  | unsent => exact nofun
  | sent =>
    intro question member
    rw [List.mem_singleton.mp member]

theorem Sends.of_unreadable (sends : account.Sends order node outcome submissions) {fault : Fault}
    (unreadable : account.endpoint.address = .error fault) : submissions = [] := by
  cases sends with
  | unsent => rfl
  | sent read =>
    rw [unreadable] at read
    cases read

end Sends

theorem send_shows (account : Account) (order : Order) (node : Node) :
    ∃ outcome submissions left,
      (account.send order).Shows node outcome
        (account.endpoint.lookups order.terms ++ submissions) [] left ∧
      account.Sends order node outcome submissions := by
  obtain ⟨found, looked, named⟩ := account.recipient_shows order.terms node
  rw [send_eq]
  cases found with
  | error failure =>
    refine ⟨.error failure, [], node.after (account.endpoint.lookups order.terms), ?_, .unsent⟩
    rw [List.append_nil]
    exact looked.bind_error _
  | ok recipient =>
    cases built : account.request order recipient with
    | error fault =>
      refine ⟨.error (.fault fault), [], node.after (account.endpoint.lookups order.terms),
        looked.bind ?_, .unsent⟩
      rw [built]
      exact Act.Shows.fail _ _
    | ok request =>
      obtain ⟨outcome, submissions, left, sent, how⟩ :=
        Provider.send_shows account.endpoint request
          (node.after (account.endpoint.lookups order.terms))
      refine ⟨outcome, submissions, left, looked.bind ?_, ?_⟩
      · rw [built, Act.ofFault_ok, pure_bind]
        exact sent
      · rcases how with ⟨rfl, failure, rfl⟩ | ⟨address, entries, read, wired, rfl, concludes⟩
        · exact .unsent
        · exact .sent read (named recipient rfl) built wired concludes

theorem send_of_named (account : Account) {order : Order} (asking : order.terms.looksUp = true)
    {recipient : String} {request : Request} {lookup submission : Question}
    {node middle left : Node} {outcome : Except Failure SendReply}
    (looked : (Provider.incentiveAddress account.endpoint).Shows node (.ok recipient) [lookup] []
      middle)
    (built : account.request order recipient = .ok request)
    (submitted : (Provider.send account.endpoint request).Shows middle outcome [submission] []
      left) :
    (account.send order).Shows node outcome [lookup, submission] [] left := by
  obtain ⟨chainId, tip, cap, terms⟩ := order.terms.exists_of_looksUp asking
  have found : (account.recipient order.terms).Shows node (.ok recipient) [lookup] [] middle := by
    rw [terms]
    exact looked.bind (Act.Shows.log_bind (Act.Shows.pure recipient middle))
  rw [send_eq]
  refine found.bind ?_
  rw [built, Act.ofFault_ok, pure_bind]
  exact submitted

end Account

end TxSubmission
