import TxSubmission.Proofs.Submission
import TxSubmission.Proofs.Waiting
import TxSubmission.Session

/-!
The operations of a provider. Each prepares what it asks for, which may fail before anything is
sent, then makes one exchange and reads its answer off the object that it hears. So an operation
that asks at all asks one question, fails as its exchange does, and otherwise ends as the object
says.
-/

namespace TxSubmission

def Members.outcome (envelope : Members) : Except Failure Json :=
  match RpcError.ofEnvelope envelope with
  | .error fault => .error (.fault fault)
  | .ok (some error) => .error (.execution (.rpc error none))
  | .ok none => .ok (get "result" envelope)

namespace Members

variable {envelope : Members}

theorem outcome_of_absent (absent : (get "error" envelope).isNull = true) :
    outcome envelope = .ok (get "result" envelope) := by
  rw [outcome, RpcError.ofEnvelope_of_absent absent]

theorem outcome_of_present (present : (get "error" envelope).isNull = false) :
    outcome envelope =
      match RpcError.ofJson (get "error" envelope) with
      | .ok error => .error (.execution (.rpc error none))
      | .error fault => .error (.fault fault) := by
  rw [outcome, RpcError.ofEnvelope_of_present present]
  cases RpcError.ofJson (get "error" envelope) with
  | ok error => rfl
  | error fault => rfl

end Members

def Receipt.ofEnvelope (envelope : Members) : Except Failure (Option Receipt) :=
  match RpcError.ofEnvelope envelope with
  | .error fault => .error (.fault fault)
  | .ok (some error) =>
    .error (.execution
      (.rpc error (some (.fit ("Error processing request: " ++ error.message.display)))))
  | .ok none =>
    let found := Members.get "result" envelope
    if found.isTruthy then ((found.asObject ofMembers).mapError .fault).map some else .ok none

def Json.recipient : Json → Except Failure String
  | .text address =>
    if address = "" then .error (.execution (.rpc .invalidIncentive none)) else .ok address
  | _ => .error (.execution (.rpc .invalidIncentive none))

def Request.params (request : Request) : Except Failure (List Json) := do
  let payload ← request.payload.mapError fun cause => .fault (.invalid cause)
  .ok [payload]

def Request.paramsAt (request : Request) (block : BlockParameter) : Except Failure (List Json) := do
  let payload ← request.payload.mapError fun cause => .fault (.invalid cause)
  let tag ← block.encode.mapError .fault
  .ok [payload, .text tag]

namespace Act

variable {α β γ : Type}

/-- An operation that asks nothing, does not sleep and ends in one way. -/
def Settles (act : Act Link α) (outcome : Except Failure α) : Prop :=
  ∀ node, act.Shows node outcome [] [] node

theorem settles_ofExcept (outcome : Except Failure α) : (ofExcept outcome).Settles outcome :=
  fun _ _ same => ⟨rfl, rfl, rfl, same⟩

theorem settles_ofFault (result : Except Fault α) :
    (ofFault result).Settles (result.mapError .fault) := settles_ofExcept _

theorem Settles.bind {act : Act Link α} {outcome : Except Failure α} (settles : act.Settles outcome)
    {next : α → Act Link β} {further : α → Except Failure β}
    (goes : ∀ a, (next a).Settles (further a)) : (act >>= next).Settles (outcome >>= further) := by
  intro node
  cases outcome with
  | error failure => exact (settles node).bind_error next
  | ok a => exact (settles node).bind (goes a node)

theorem questions_bind_ne_nil {first : Act Link α} {link : Link}
    (asked : (first link).trace.questions ≠ []) (next : α → Act Link β) :
    ((first >>= next) link).trace.questions ≠ [] := by
  rw [bind_apply]
  cases (first link).outcome with
  | error failure => exact asked
  | ok a =>
    intro silent
    simp only [Ran.after, Trace.questions_append, List.append_eq_nil_iff] at silent
    exact asked silent.1

/-- An operation that prepares parameters, or fails, and hands what one exchange with them hears to
a reader. -/
def Relays (endpoint : Endpoint) (method : Given String) (params : Except Failure (List Json))
    (read : Members → Except Failure α) (act : Act Link α) : Prop :=
  match params with
  | .error failure => act = fail failure
  | .ok params => ∃ next, act = Provider.exchange endpoint method params >>= next ∧
      ∀ envelope, (next envelope).Settles (read envelope)

namespace Relays

variable {endpoint : Endpoint} {method : Given String} {params : Except Failure (List Json)}
  {read : Members → Except Failure α} {act : Act Link α}

theorem prepared {result : Except Failure γ} {next : γ → Act Link α}
    {further : γ → Except Failure (List Json)}
    (relays : ∀ c, (next c).Relays endpoint method (further c) read) :
    (ofExcept result >>= next).Relays endpoint method (result >>= further) read := by
  cases result with
  | error failure => rfl
  | ok c => exact relays c

theorem bind (relays : act.Relays endpoint method params read) {next : α → Act Link β}
    {further : α → Except Failure β} (goes : ∀ a, (next a).Settles (further a)) :
    (act >>= next).Relays endpoint method params fun envelope => read envelope >>= further := by
  cases params with
  | error failure =>
    have failed : act = fail failure := relays
    rw [failed]
    rfl
  | ok params =>
    obtain ⟨reader, rfl, settles⟩ := relays
    refine ⟨fun envelope => reader envelope >>= next, bind_assoc _ _ _, ?_⟩
    exact fun envelope => (settles envelope).bind goes

theorem map (relays : act.Relays endpoint method params read) (f : α → β) :
    (act >>= fun a => Pure.pure (f a)).Relays endpoint method params
      fun envelope => read envelope >>= fun a => .ok (f a) :=
  relays.bind fun a => settles_ofExcept (.ok (f a))

theorem runs {params : List Json} (relays : act.Relays endpoint method (.ok params) read)
    (link : Link) :
    (act link).trace.questions =
        (Provider.exchange endpoint method params link).trace.questions ∧
      (act link).outcome = (Provider.exchange endpoint method params link).outcome >>= read := by
  obtain ⟨next, rfl, settles⟩ := relays
  rw [bind_apply]
  cases (Provider.exchange endpoint method params link).outcome with
  | error failure => exact ⟨rfl, rfl⟩
  | ok envelope =>
    have shown :=
      settles envelope _ (Provider.exchange endpoint method params link).state rfl
    refine ⟨?_, shown.outcome⟩
    simp only [Ran.after, Trace.questions_append, shown.questions, List.append_nil]

theorem shows {params : List Json} (relays : act.Relays endpoint method (.ok params) read)
    {address : Http.Address} (targeted : endpoint.target method params = .ok address)
    (node : Node) :
    act.Shows node ((node.next method).envelope address method.display >>= read)
      [⟨address.text, method, params⟩] [] (node.advance method) := by
  obtain ⟨next, rfl, settles⟩ := relays
  have asked := Provider.exchange_shows targeted node
  cases heard : (node.next method).envelope address method.display with
  | error failure =>
    rw [heard] at asked
    exact asked.bind_error next
  | ok envelope =>
    rw [heard] at asked
    exact asked.bind (settles envelope _)

theorem shows_nothing {params : List Json} (relays : act.Relays endpoint method (.ok params) read)
    {failure : Failure} (untargeted : endpoint.target method params = .error failure)
    (node : Node) : act.Shows node (.error failure) [] [] node := by
  obtain ⟨next, rfl, -⟩ := relays
  exact (Provider.exchange_shows_nothing untargeted node).bind_error next

theorem heard (relays : act.Relays endpoint method params read) {link : Link}
    (asked : (act link).trace.questions ≠ []) {envelope : Members}
    (hears : endpoint.object? (link.node.next method) = some envelope) :
    (act link).outcome = read envelope := by
  cases params with
  | error failure =>
    have failed : act = fail failure := relays
    rw [failed] at asked
    exact absurd rfl asked
  | ok params =>
    obtain ⟨questions, outcome⟩ := relays.runs link
    rw [questions] at asked
    rw [outcome]
    cases targeted : endpoint.target method params with
    | error failure =>
      exact absurd (Provider.exchange_shows_nothing targeted link.node link rfl).questions asked
    | ok address =>
      rw [Endpoint.object?, Endpoint.address_of_target targeted] at hears
      rw [(Provider.exchange_shows targeted link.node link rfl).outcome,
        Http.Reply.envelope_of_object? hears]
      rfl

end Relays

end Act

namespace Provider

theorem exchange_asks {endpoint : Endpoint} {method : Given String} {params : List Json}
    {address : Http.Address} (targeted : endpoint.target method params = .ok address)
    (link : Link) : (exchange endpoint method params link).trace.questions ≠ [] := by
  rw [(exchange_shows targeted link.node link rfl).questions]
  exact List.cons_ne_nil _ _

variable (endpoint : Endpoint)

theorem send_relays (request : Request) :
    (send endpoint request).Relays endpoint (.fit sendMethod) request.params
      fun envelope => (SendReply.ofEnvelope envelope).mapError .fault :=
  Act.Relays.prepared fun _ => ⟨_, rfl, fun _ => Act.settles_ofFault _⟩

theorem call_relays (request : Request) (block : BlockParameter) :
    (call endpoint request block).Relays endpoint (.fit "eth_call") (request.paramsAt block)
      fun envelope => (CallReply.ofEnvelope envelope).mapError .fault := by
  refine Act.Relays.prepared fun payload => Act.Relays.prepared fun tag => ?_
  exact ⟨_, rfl, fun _ => Act.settles_ofFault _⟩

theorem code_relays (address : Given String) (block : BlockParameter) :
    (code endpoint address block).Relays endpoint (.fit "eth_getCode")
      (block.encode.mapError .fault >>= fun tag => .ok [address.toJson, .text tag])
      fun envelope => (CodeReply.ofEnvelope envelope).mapError .fault :=
  Act.Relays.prepared fun _ => ⟨_, rfl, fun _ => Act.settles_ofFault _⟩

theorem result_relays (method : Given String) (params : List Json) :
    (result endpoint method params).Relays endpoint method (.ok params) Members.outcome := by
  refine ⟨_, rfl, fun envelope => ?_⟩
  unfold Members.outcome
  cases RpcError.ofEnvelope envelope with
  | error fault => exact Act.settles_ofExcept _
  | ok found =>
    cases found with
    | some error => exact Act.settles_ofExcept _
    | none => exact Act.settles_ofExcept _

theorem receipt_relays (hash : Given String) :
    (receipt endpoint hash).Relays endpoint (.fit receiptMethod) (.ok [hash.toJson])
      Receipt.ofEnvelope := by
  refine ⟨_, rfl, fun envelope => ?_⟩
  unfold Receipt.ofEnvelope
  cases RpcError.ofEnvelope envelope with
  | error fault => exact Act.settles_ofExcept _
  | ok found =>
    cases found with
    | some error => exact Act.settles_ofExcept _
    | none =>
      simp only [Act.ofFault_ok, pure_bind]
      split
      next =>
        cases (Members.get "result" envelope).asObject Receipt.ofMembers with
        | error fault => exact Act.settles_ofExcept _
        | ok receipt => exact Act.settles_ofExcept _
      next => exact Act.settles_ofExcept _

theorem incentiveAddress_relays :
    (incentiveAddress endpoint).Relays endpoint endpoint.lookupMethod (.ok [])
      fun envelope => Members.outcome envelope >>= Json.recipient := by
  refine (result_relays endpoint endpoint.lookupMethod []).bind fun found => ?_
  cases found with
  | text address =>
    unfold Json.recipient
    dsimp only
    split
    next => exact Act.settles_ofExcept _
    next => exact Act.settles_ofExcept _
  | _ => exact Act.settles_ofExcept _

theorem estimateGas_relays (request : Request) :
    (estimateGas endpoint request).Relays endpoint (.fit "eth_estimateGas") request.params
      fun envelope => Members.outcome envelope >>= fun found =>
        (Quantity.ofJson found).mapError .fault := by
  refine Act.Relays.prepared fun payload => ?_
  exact (result_relays endpoint (.fit "eth_estimateGas") [payload]).bind
    fun _ => Act.settles_ofFault _

theorem chainId_relays :
    (chainId endpoint).Relays endpoint (.fit "eth_chainId") (.ok [])
      fun envelope => Members.outcome envelope >>= fun found =>
        (Quantity.ofJson found).mapError .fault :=
  (result_relays endpoint (.fit "eth_chainId") []).bind fun _ => Act.settles_ofFault _

end Provider

end TxSubmission
