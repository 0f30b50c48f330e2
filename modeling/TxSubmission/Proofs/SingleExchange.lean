import TxSubmission.Proofs.Relay
import TxSubmission.Proofs.ReplySorts

/-!
Single exchanges. A request that can be written, for a node whose address can be read, is posted
once, takes one reply and ends as the reply is sorted; any other is not posted. The operations of a
provider make one exchange at most, and an exchange that fails ends the operation with the same
failure, which a health check gives for an answer.
-/

namespace TxSubmission

open Number

/-- An operation failed without a request and left the node as it was. -/
def Ran.IsUnposted {α : Type} (ran : Ran Link α) (link : Link) (failure : Failure) : Prop :=
  ran.outcome = .error failure ∧ ran.trace.postings = [] ∧ ran.state.node = link.node

/-- What one exchange does in front of a node. It posts nothing and fails if its request cannot be
logged, the address of the node cannot be read or a number cannot be written; otherwise it posts one
request, takes one reply and ends as the reply says. -/
def Endpoint.ExchangesOnce (endpoint : Endpoint) (method : String) (params : List Json)
    (link : Link) : Prop :=
  let ran := Provider.exchange endpoint (.fit method) params link
  match RpcRequest.unshown? endpoint.room (.fit method) params, endpoint.address with
  | some fault, _ => ran.IsUnposted link (.fault fault)
  | none, .error fault => ran.IsUnposted link (.fault fault)
  | none, .ok address =>
    if (Json.list params).isFinite then
      (∃ id, ran.trace.postings = [(address.text, ⟨id, .fit method, params⟩)] ∧
        RpcRequest.body ⟨id, .fit method, params⟩ =
          .object [("jsonrpc", .text "2.0"), ("id", .int id), ("method", .text method),
            ("params", .list params)]) ∧
      ran.state.node = link.node.advance (.fit method) ∧
      (link.node.next (.fit method)).Classified address method ran.outcome
    else ran.IsUnposted link (.execution (.transport (.unreadable method)))

/-- What a step of a provider answers when its exchange has failed: only a health check gives the
failure for an answer. -/
def ProviderStep.lost : ProviderStep → Failure → Except Failure Answer
  | .health, failure => .ok (.health (.failing failure.message))
  | _, failure => .error failure

def Endpoint.question? (endpoint : Endpoint) :
    ProviderStep → Option (Given String × Except Failure (List Json))
  | .name | .url | .timeout | .ready | .close => none
  | .health => if Provider.ready endpoint then some (.fit "eth_chainId", .ok []) else none
  | .send recipe => some (.fit Provider.sendMethod, recipe.build.mapError .fault >>= Request.params)
  | .call recipe block =>
    some (.fit "eth_call", recipe.build.mapError .fault >>= fun request => request.paramsAt block)
  | .code address block =>
    some (.fit "eth_getCode",
      block.encode.mapError .fault >>= fun tag => .ok [address.toJson, .text tag])
  | .receipt hash => some (.fit Provider.receiptMethod, .ok [hash.toJson])
  | .incentiveAddress => some (endpoint.lookupMethod, .ok [])
  | .estimateGas recipe =>
    some (.fit "eth_estimateGas", recipe.build.mapError .fault >>= Request.params)
  | .chainId => some (.fit "eth_chainId", .ok [])

/-- A step of a provider that has a question asks what one exchange asks and is lost with it, unless
the question cannot be prepared; any other asks nothing. -/
def Endpoint.AsksOnce (endpoint : Endpoint) (step : ProviderStep) (link : Link) : Prop :=
  let ran := endpoint.perform step link
  match endpoint.question? step with
  | none => ran.trace.questions = []
  | some (_, .error failure) => ran.trace.questions = [] ∧ ran.outcome = .error failure
  | some (method, .ok params) =>
    ran.trace.questions = (Provider.exchange endpoint method params link).trace.questions ∧
      ∀ failure, (Provider.exchange endpoint method params link).outcome = .error failure →
        ran.outcome = step.lost failure

namespace Provider

variable {endpoint : Endpoint}

theorem healthCheck_run (readied : ready endpoint = true) (link : Link) :
    healthCheck endpoint link =
      ⟨.ok (match (chainId endpoint link).outcome with
        | .ok found => .healthy found
        | .error failure => .failing failure.message),
        (chainId endpoint link).state, (chainId endpoint link).trace⟩ := by
  unfold healthCheck
  rw [if_pos readied, Act.bind_apply]
  cases ended : chainId endpoint link with
  | mk outcome state trace =>
    cases outcome with
    | ok found => simp [Act.attempt, ended, Ran.after, Pure.pure, Act.pure]
    | error failure => simp [Act.attempt, ended, Ran.after, Pure.pure, Act.pure]

end Provider

namespace Endpoint

variable (endpoint : Endpoint)

theorem exchange_isUnposted {method : Given String} {params : List Json} {failure : Failure}
    (untargeted : endpoint.target method params = .error failure) (link : Link) :
    (Provider.exchange endpoint method params link).IsUnposted link failure := by
  have shown := Provider.exchange_shows_nothing untargeted link.node link rfl
  exact ⟨shown.outcome, List.map_eq_nil_iff.mp shown.questions, shown.left⟩

theorem exchangesOnce (method : String) (params : List Json) (link : Link) :
    endpoint.ExchangesOnce method params link := by
  have finite : (Given.fit method).toJson.isFinite = true := rfl
  unfold ExchangesOnce
  intro ran
  split
  next fault unshown =>
    apply endpoint.exchange_isUnposted
    simp only [target, RpcRequest.logText, unshown]
  next fault shown unreadable =>
    apply endpoint.exchange_isUnposted
    simp only [target, RpcRequest.logText, shown, unreadable]
  next address shown read =>
    split
    next writable =>
      have targeted : endpoint.target (.fit method) params = .ok address := by
        simp only [target, RpcRequest.logText, shown, read, finite, writable, Bool.and_self,
          if_true]
      have shown := Provider.exchange_shows targeted link.node link rfl
      refine ⟨?_, shown.left, ?_⟩
      · obtain ⟨id, posted⟩ := Trace.exists_of_questions shown.questions
        exact ⟨id, posted, rfl⟩
      · rw [shown.outcome]
        exact Http.Reply.classified address method _
    next unwritable =>
      apply endpoint.exchange_isUnposted
      simp only [target, RpcRequest.logText, shown, read, unwritable, Bool.and_false,
        Bool.false_eq_true, if_false]
      rfl

theorem asksOnce_of_relays {step : ProviderStep} {method : Given String}
    {params : Except Failure (List Json)} {read : Members → Except Failure Answer}
    (relays : (endpoint.perform step).Relays endpoint method params read)
    (asks : endpoint.question? step = some (method, params))
    (lost : ∀ failure, step.lost failure = .error failure) (link : Link) :
    endpoint.AsksOnce step link := by
  unfold AsksOnce
  rw [asks]
  cases params with
  | error failure =>
    have failed : endpoint.perform step = Act.fail failure := relays
    rw [failed]
    exact ⟨rfl, rfl⟩
  | ok params =>
    obtain ⟨questions, outcome⟩ := relays.runs link
    refine ⟨questions, ?_⟩
    intro failure failed
    rw [outcome, failed, lost failure]
    rfl

theorem asksOnce_health (link : Link) : endpoint.AsksOnce .health link := by
  have performed : endpoint.perform .health link =
      (Provider.healthCheck endpoint >>= fun health => pure (.health health)) link := rfl
  unfold AsksOnce question?
  rw [performed, Act.bind_apply]
  cases readied : Provider.ready endpoint with
  | false =>
    have unasked : Provider.healthCheck endpoint link = ⟨.ok .disabled, link, []⟩ := by
      rw [Provider.healthCheck, readied]
      rfl
    rw [unasked]
    rfl
  | true =>
    obtain ⟨questions, outcome⟩ := (Provider.chainId_relays endpoint).runs link
    rw [Provider.healthCheck_run readied]
    constructor
    · simpa [Ran.after, Pure.pure, Act.pure] using questions
    · intro failure failed
      rw [outcome, failed]
      rfl

theorem asksOnce (step : ProviderStep) (link : Link) : endpoint.AsksOnce step link := by
  cases step with
  | name | url | timeout | ready | close => rfl
  | health => exact endpoint.asksOnce_health link
  | send recipe =>
    have relays := fun request => (Provider.send_relays endpoint request).map Answer.sendReply
    exact endpoint.asksOnce_of_relays (Act.Relays.prepared relays) rfl (fun _ => rfl) link
  | call recipe block =>
    have relays := fun request => (Provider.call_relays endpoint request block).map Answer.callReply
    exact endpoint.asksOnce_of_relays (Act.Relays.prepared relays) rfl (fun _ => rfl) link
  | code address block =>
    exact endpoint.asksOnce_of_relays
      ((Provider.code_relays endpoint address block).map Answer.codeReply) rfl (fun _ => rfl) link
  | receipt hash =>
    have answers := (Provider.receipt_relays endpoint hash).map fun found =>
      found.elim Answer.noReceipt Answer.receipt
    have performed : endpoint.perform (.receipt hash) = Provider.receipt endpoint hash >>=
        fun found => pure (found.elim Answer.noReceipt Answer.receipt) := by
      refine congrArg (Provider.receipt endpoint hash >>= ·) (funext fun found => ?_)
      cases found <;> rfl
    rw [← performed] at answers
    exact endpoint.asksOnce_of_relays answers rfl (fun _ => rfl) link
  | incentiveAddress =>
    exact endpoint.asksOnce_of_relays
      ((Provider.incentiveAddress_relays endpoint).map Answer.text) rfl (fun _ => rfl) link
  | estimateGas recipe =>
    have relays := fun request => (Provider.estimateGas_relays endpoint request).map Answer.number
    exact endpoint.asksOnce_of_relays (Act.Relays.prepared relays) rfl (fun _ => rfl) link
  | chainId =>
    exact endpoint.asksOnce_of_relays
      ((Provider.chainId_relays endpoint).map Answer.number) rfl (fun _ => rfl) link

/-- Every exchange that is made is made once and ends as its reply says, and every operation of a
provider fails as its exchange does. -/
theorem exchanges_classified (link : Link) :
    (∀ method params, endpoint.ExchangesOnce method params link) ∧
      ∀ step, endpoint.AsksOnce step link := by
  constructor
  · intro method params
    exact endpoint.exchangesOnce method params link
  · intro step
    exact endpoint.asksOnce step link

def always (reply : Http.Reply) : Link := { node := { replies := fun _ _ => reply } }

theorem exchanges_classified_silent :
    (plain "http://n").ExchangesOnce "eth_chainId" [] (always (Node.enveloped [])) ∧
      (plain "http://n").AsksOnce .health (always (Node.enveloped [])) := by
  obtain ⟨exchanged, asked⟩ :=
    exchanges_classified (plain "http://n") (always (Node.enveloped []))
  exact ⟨exchanged "eth_chainId" [], asked .health⟩

theorem postings_of_long {n : Int} (long : Nat.pow 10 maxDecimalDigits ≤ n.natAbs) (link : Link) :
    (Provider.exchange endpoint (.fit "eth_chainId") [.int n] link).trace.postings = [] := by
  have untargeted : endpoint.target (.fit "eth_chainId") [.int n] =
      .error (.fault (.invalid (.literal .tooLongToShow))) := by
    rw [target, RpcRequest.logText, RpcRequest.unshown?_of_long long]
  exact (endpoint.exchange_isUnposted untargeted link).2.1

/-- Not every exchange posts a request, and not every reply is returned or a failure of the round
trip: an address with an open bracket is not posted to and a number of too many digits not posted,
and neither a place without a root nor a body of nothing but open brackets has a failure of its
own. -/
theorem exchanges_not_always_classified :
    (Provider.exchange (plain "http://[::1") (.fit "eth_chainId") []
      (always (Node.enveloped []))).trace.postings = [] ∧
    (Provider.exchange (plain "http://n") (.fit "eth_chainId")
      [.int (Nat.pow 10 maxDecimalDigits : Nat)] (always (Node.enveloped []))).trace.postings = [] ∧
    (∃ fault, (Provider.exchange (plain "http://n") (.fit "eth_chainId") []
      (always (.response 301 (some "http:foo") (.text "")))).outcome = .error (.fault fault)) ∧
    ∃ fault, (Provider.exchange (plain "http://n") (.fit "eth_chainId") []
      (always (.response 200 none (.text (String.ofList (List.replicate 976 '[')))))).outcome =
        .error (.fault fault) := by
  have lost {reply : Http.Reply} (strays : reply.isStray sampleAddress = true) :
      ∃ fault, (Provider.exchange (plain "http://n") (.fit "eth_chainId") []
        (always reply)).outcome = .error (.fault fault) := by
    have targeted : (plain "http://n").target (.fit "eth_chainId") [] = .ok sampleAddress :=
      target_of_address address_plain rfl
    obtain ⟨fault, garbled⟩ :=
      (Http.Reply.sorts sampleAddress "eth_chainId" reply).fault_of_isStray strays
    have shown := Provider.exchange_shows targeted (always reply).node (always reply) rfl
    exact ⟨fault, shown.outcome.trans garbled⟩
  refine ⟨?_, ?_, lost ?_, lost ?_⟩
  · obtain ⟨fault, unreadable⟩ := address_plain_bracket
    have untargeted : (plain "http://[::1").target (.fit "eth_chainId") [] =
        .error (.fault fault) := target_of_unreadable unreadable rfl
    exact ((plain "http://[::1").exchange_isUnposted untargeted _).2.1
  · exact (plain "http://n").postings_of_long (Int.natAbs_natCast _).ge _
  · have text : "http:foo".toList = ['h', 't', 't', 'p', ':', 'f', 'o', 'o'] :=
      String.toList_ofList
    have ascii : ("http:foo".any fun c => !Http.Address.isAscii c) =
        "http:foo".toList.any fun c => !Http.Address.isAscii c := String.contains_bool_eq
    have seen : (Http.Reply.response 301 (some "http:foo") (.text "")).arrives sampleAddress =
        true := by
      simp only [Http.Reply.arrives, Option.any_some, ascii, text]
      decide
    exact Http.Reply.isStray_of_strays seen (.inl ⟨Http.isDangling_rootless, rfl⟩)
  · have deep := Http.Body.read_brackets (show 3 ≤ Http.usualDepth by decide)
      (show Http.usualDepth < 976 by decide)
    exact Http.Reply.isStray_of_strays rfl (.inr ⟨rfl, .list, deep⟩)

end Endpoint

end TxSubmission