import TxSubmission.Proofs.SingleExchange

/-!
Conversations with a node. Whatever a manager or a provider is asked to do, it speaks to the node by
exchanges alone; between two of them it only logs and sleeps. Which questions a step may ask is
known before it begins, except for the recipient that is looked up and the hash that the node
returns. So what every exchange of such a question keeps, every step of a session keeps, apart from
the closing of the client.
-/

namespace TxSubmission

open Number

def Event.isQuiet : Event → Bool
  | .logged .. | .slept _ => true
  | _ => false

namespace Trace

variable {shown : Trace}

theorem postings_of_quiet (quiet : ∀ event ∈ shown, event.isQuiet = true) :
    shown.postings = [] := by
  refine List.filterMap_eq_nil_iff.mpr fun event member => ?_
  have silent := quiet event member
  cases event with
  | posted => cases silent
  | _ => rfl

theorem lines_of_quiet (quiet : ∀ event ∈ shown, event.isQuiet = true) : shown.lines = [] := by
  refine List.filterMap_eq_nil_iff.mpr fun event member => ?_
  have silent := quiet event member
  cases event with
  | printed => cases silent
  | _ => rfl

@[simp]
theorem lines_nil : lines [] = [] := rfl

@[simp]
theorem lines_append (before later : Trace) :
    lines (before ++ later) = before.lines ++ later.lines :=
  List.filterMap_append

@[simp]
theorem lines_logged (severity : Log.Severity) (component : Component) (text : String)
    (later : Trace) : lines (.logged severity component text :: later) = later.lines := rfl

@[simp]
theorem lines_posted (url : String) (request : RpcRequest) (later : Trace) :
    lines (.posted url request :: later) = later.lines := rfl

end Trace

/-- An operation that speaks to a node by exchanges of some questions alone. -/
inductive Act.Speaks (endpoint : Endpoint) (asks : Given String → List Json → Prop) :
    {α : Type} → Act Link α → Prop
  | still {α : Type} (outcome : Except Failure α) {shown : Trace}
      (quiet : ∀ event ∈ shown, event.isQuiet = true) :
      Speaks endpoint asks (fun link => ⟨outcome, link, shown⟩)
  | exchange {method : Given String} {params : List Json} (asked : asks method params) :
      Speaks endpoint asks (Provider.exchange endpoint method params)
  | bind {α β : Type} {first : Act Link α} {next : α → Act Link β}
      (head : Speaks endpoint asks first)
      (tail : ∀ link a, (first link).outcome = .ok a → Speaks endpoint asks (next a)) :
      Speaks endpoint asks (first >>= next)
  | attempt {α : Type} {act : Act Link α} (spoken : Speaks endpoint asks act) :
      Speaks endpoint asks act.attempt

namespace Provider

@[simp]
theorem lines_opening (endpoint : Endpoint) (link : Link) :
    (opening endpoint link).lines = [] :=
  filterMap_opening fun _ => rfl

@[simp]
theorem lines_announcement (endpoint : Endpoint) (method : Given String) (params : List Json) :
    (announcement endpoint method params).lines = [] :=
  filterMap_announcement fun _ _ _ => rfl

@[simp]
theorem lines_complaint (heard : Except Failure Members) : (complaint heard).lines = [] :=
  filterMap_complaint fun _ _ _ => rfl

end Provider

namespace Act.Speaks

variable {endpoint : Endpoint} {asks : Given String → List Json → Prop} {α β γ : Type}

theorem pure (a : α) : Speaks endpoint asks (Pure.pure a : Act Link α) := still (.ok a) nofun

theorem fail (failure : Failure) : Speaks endpoint asks (Act.fail failure : Act Link α) :=
  still (.error failure) nofun

theorem raise (error : ExecutionError) : Speaks endpoint asks (Act.raise error : Act Link α) :=
  fail _

theorem ofFault (result : Except Fault α) : Speaks endpoint asks (Act.ofFault result) :=
  still _ nofun

theorem log (severity : Log.Severity) (component : Component) (text : String) :
    Speaks endpoint asks (Act.log severity component text) :=
  still _ fun _ member => List.mem_singleton.mp member ▸ rfl

theorem slept (duration : Amount) : Speaks endpoint asks (Act.emit (.slept duration)) :=
  still _ fun _ member => List.mem_singleton.mp member ▸ rfl

theorem andThen {first : Act Link α} {next : α → Act Link β} (head : first.Speaks endpoint asks)
    (tail : ∀ a, (next a).Speaks endpoint asks) : (first >>= next).Speaks endpoint asks :=
  bind head fun _ a _ => tail a

theorem prepared {result : Except Failure γ} {next : γ → Act Link β}
    (tail : ∀ c, result = .ok c → (next c).Speaks endpoint asks) :
    (Act.ofExcept result >>= next).Speaks endpoint asks :=
  bind (still result nofun) fun _ c ended => tail c ended

theorem map {act : Act Link α} (spoken : act.Speaks endpoint asks) (f : α → β) :
    (act >>= fun a => Pure.pure (f a)).Speaks endpoint asks :=
  andThen spoken fun a => pure (f a)

theorem mono {wider : Given String → List Json → Prop} {act : Act Link α}
    (spoken : act.Speaks endpoint asks)
    (allows : ∀ method params, asks method params → wider method params) :
    act.Speaks endpoint wider := by
  induction spoken with
  | still outcome quiet => exact .still outcome quiet
  | exchange asked => exact .exchange (allows _ _ asked)
  | bind _ _ head tail => exact .bind head tail
  | attempt _ spoken => exact .attempt spoken

/-- What quiet events, the exchanges of the questions and sequences keep, an operation keeps. -/
theorem keeps (kept : Link → Trace → Link → Prop)
    (still : ∀ link shown, (∀ event ∈ shown, event.isQuiet = true) → kept link shown link)
    (exchange : ∀ method params, asks method params → ∀ link,
      kept link (Provider.exchange endpoint method params link).trace
        (Provider.exchange endpoint method params link).state)
    (sequence : ∀ link middle last shown later,
      kept link shown middle → kept middle later last → kept link (shown ++ later) last)
    {act : Act Link α} (spoken : act.Speaks endpoint asks) (link : Link) :
    kept link (act link).trace (act link).state := by
  -- over the way the operation is put together, from any link
  induction spoken generalizing link with
  | still outcome quiet => exact still link _ quiet
  | exchange asked => exact exchange _ _ asked link
  | @bind _ _ first next _ _ head tail =>
    rw [bind_apply]
    cases ended : (first link).outcome with
    | error failure => exact head link
    | ok a => exact sequence _ _ _ _ _ (head link) (tail link a ended _)
  | attempt _ spoken => exact spoken link

theorem asked {act : Act Link α} (spoken : act.Speaks endpoint asks) (link : Link) :
    ∀ question ∈ (act link).trace.questions, asks question.method question.params ∧
      ∃ address, endpoint.address = .ok address ∧ question.url = address.text := by
  refine keeps (fun _ shown _ => ∀ question ∈ shown.questions,
    asks question.method question.params ∧
      ∃ address, endpoint.address = .ok address ∧ question.url = address.text)
    ?_ ?_ ?_ spoken link
  · intro _ shown quiet
    rw [Trace.questions, Trace.postings_of_quiet quiet]
    exact List.forall_mem_nil _
  · intro method params asked link question member
    cases targeted : endpoint.target method params with
    | error failure =>
      rw [(Provider.exchange_shows_nothing targeted link.node link rfl).questions] at member
      cases member
    | ok address =>
      rw [(Provider.exchange_shows targeted link.node link rfl).questions] at member
      rw [List.mem_singleton.mp member]
      exact ⟨asked, address, Endpoint.address_of_target targeted, rfl⟩
  · intro _ _ _ shown later before after question member
    rw [Trace.questions_append] at member
    rcases List.mem_append.mp member with sooner | later
    · exact before question sooner
    · exact after question later

theorem lines {act : Act Link α} (spoken : act.Speaks endpoint asks) (link : Link) :
    (act link).trace.lines = [] := by
  refine keeps (fun _ shown _ => Trace.lines shown = []) ?_ ?_ ?_ spoken link
  · exact fun _ _ quiet => Trace.lines_of_quiet quiet
  · intro method params _ link
    cases targeted : endpoint.target method params with
    | error failure => simp [Provider.exchange_untargeted targeted]
    | ok address => simp [Provider.exchange_targeted targeted]
  · intro _ _ _ shown later before after
    simp [before, after]

end Act.Speaks

namespace Provider

variable {endpoint : Endpoint} {asks : Given String → List Json → Prop}

theorem result_speaks {method : Given String} {params : List Json} (asked : asks method params) :
    (result endpoint method params).Speaks endpoint asks := by
  refine (Act.Speaks.exchange asked).andThen fun envelope => ?_
  refine (Act.Speaks.ofFault _).andThen fun error => ?_
  cases error with
  | none => exact .pure _
  | some error => exact .raise _

theorem send_speaks {request : Request}
    (asked : ∀ params, request.params = .ok params → asks (.fit sendMethod) params) :
    (send endpoint request).Speaks endpoint asks := by
  refine Act.Speaks.prepared fun payload written => ?_
  refine (Act.Speaks.exchange (asked [payload] ?_)).andThen fun _ => .ofFault _
  rw [Request.params, written]
  rfl

theorem call_speaks {request : Request} {block : BlockParameter}
    (asked : ∀ params, request.paramsAt block = .ok params → asks (.fit "eth_call") params) :
    (call endpoint request block).Speaks endpoint asks := by
  refine Act.Speaks.prepared fun payload written => Act.Speaks.prepared fun tag encoded => ?_
  refine (Act.Speaks.exchange (asked [payload, .text tag] ?_)).andThen fun _ => .ofFault _
  rw [Request.paramsAt, written, encoded]
  rfl

theorem code_speaks {address : Given String} {block : BlockParameter}
    (asked : ∀ tag, block.encode = .ok tag →
      asks (.fit "eth_getCode") [address.toJson, .text tag]) :
    (code endpoint address block).Speaks endpoint asks := by
  refine Act.Speaks.prepared fun tag encoded => ?_
  refine (Act.Speaks.exchange (asked tag ?_)).andThen fun _ => .ofFault _
  exact eq_ok_of_mapError encoded

theorem receipt_speaks {hash : Given String} (asked : asks (.fit receiptMethod) [hash.toJson]) :
    (receipt endpoint hash).Speaks endpoint asks := by
  refine (Act.Speaks.exchange asked).andThen fun envelope => ?_
  refine (Act.Speaks.ofFault _).andThen fun error => ?_
  cases error with
  | some error => exact .raise _
  | none =>
    dsimp only
    split
    next => exact (Act.Speaks.ofFault _).map _
    next => exact .pure _

theorem incentiveAddress_speaks (asked : asks endpoint.lookupMethod []) :
    (incentiveAddress endpoint).Speaks endpoint asks := by
  refine (result_speaks asked).andThen fun found => ?_
  cases found with
  | text address =>
    dsimp only
    split
    next => exact .raise _
    next => exact .pure _
  | _ => exact .raise _

theorem estimateGas_speaks {request : Request}
    (asked : ∀ params, request.params = .ok params → asks (.fit "eth_estimateGas") params) :
    (estimateGas endpoint request).Speaks endpoint asks := by
  refine Act.Speaks.prepared fun payload written => ?_
  refine (result_speaks (asked [payload] ?_)).andThen fun _ => .ofFault _
  rw [Request.params, written]
  rfl

theorem chainId_speaks (asked : asks (.fit "eth_chainId") []) :
    (chainId endpoint).Speaks endpoint asks :=
  (result_speaks asked).andThen fun _ => .ofFault _

theorem healthCheck_speaks
    (asked : ready endpoint = true → asks (.fit "eth_chainId") []) :
    (healthCheck endpoint).Speaks endpoint asks := by
  unfold healthCheck
  split
  next readied =>
    refine (chainId_speaks (asked readied)).attempt.andThen fun ended => ?_
    cases ended with
    | ok found => exact .pure _
    | error failure => exact .pure _
  next => exact .pure _

end Provider

namespace Account

variable {account : Account} {asks : Given String → List Json → Prop}

/-- What may be asked for an order: who the incentive recipient is, and that the node submit what is
built with the answer. -/
inductive AsksFor (account : Account) (order : Order) : Given String → List Json → Prop
  | lookup {chainId tip cap : Option (Given Int)}
      (terms : order.terms = .incentive chainId tip cap) :
      AsksFor account order account.endpoint.lookupMethod []
  | submission {recipient : String} {request : Request} {params : List Json}
      (built : account.request order recipient = .ok request)
      (written : request.params = .ok params) :
      AsksFor account order (.fit Provider.sendMethod) params

theorem recipient_speaks (account : Account) (order : Order) :
    (account.recipient order.terms).Speaks account.endpoint (account.AsksFor order) := by
  unfold recipient
  split
  next => exact .pure _
  next => exact .pure _
  next chainId tip cap terms =>
    refine (Provider.incentiveAddress_speaks (.lookup terms)).andThen fun _ => ?_
    exact (Act.Speaks.log _ _ _).andThen fun _ => .pure _

theorem send_speaks (account : Account) (order : Order) :
    (account.send order).Speaks account.endpoint (account.AsksFor order) := by
  rw [send_eq]
  refine (account.recipient_speaks order).andThen fun recipient => ?_
  refine Act.Speaks.prepared fun request built => ?_
  exact Provider.send_speaks fun _ written => .submission (eq_ok_of_mapError built) written

theorem exists_hash_of_send {order : Order} {link : Link} {reply : SendReply} {hash : Given String}
    (sent : (account.send order link).outcome = .ok reply) (returned : reply.hash = some hash) :
    ∃ text, hash = .fit text := by
  obtain ⟨outcome, submissions, left, shown, how⟩ := account.send_shows order link.node
  rw [(shown link rfl).outcome] at sent
  subst sent
  cases how with
  | sent _ _ _ _ concludes =>
    cases concludes with
    | accepted => exact ⟨_, (Option.some.inj returned).symm⟩
    | rejected => cases returned

def reading (account : Account) (recipient data : Option (Given String)) : Except Fault Request :=
  Request.readOnly { sender := some account.address, recipient, data }

theorem call_speaks {recipient data : Option (Given String)} {block : BlockParameter}
    (asked : ∀ request params, account.reading recipient data = .ok request →
      request.paramsAt block = .ok params → asks (.fit "eth_call") params) :
    (account.call recipient data block).Speaks account.endpoint asks := by
  refine Act.Speaks.prepared fun request built => Provider.call_speaks fun params written => ?_
  exact asked request params (eq_ok_of_mapError built) written

end Account

namespace Polling

variable {endpoint : Endpoint} {asks : Given String → List Json → Prop}

theorem giveUp_speaks {α : Type} (polling : Polling) (turns : Nat) (hash : Given String) :
    (polling.giveUp turns hash : Act Link α).Speaks endpoint asks := by
  unfold giveUp
  cases polling.interval.times? turns with
  | none => exact .fail _
  | some total =>
    simp only [pure_bind]
    refine (Act.Speaks.ofFault _).andThen fun _ => (Act.Speaks.log _ _ _).andThen fun _ => ?_
    cases total.toBinary64? with
    | none => exact .fail _
    | some waited => exact .raise _

theorem pause_speaks (polling : Polling) :
    (polling.pause : Act Link Unit).Speaks endpoint asks := by
  unfold pause
  split
  next => exact .slept _
  next => exact .fail _

theorem poll_speaks (polling : Polling) {query : Given String → Act Link (Option Receipt)}
    {hash : Given String} (queries : (query hash).Speaks endpoint asks) (turns remaining : Nat) :
    (polling.poll query hash turns remaining).Speaks endpoint asks := by
  induction remaining with
  | zero => exact giveUp_speaks polling turns hash
  | succ remaining ih =>
    refine queries.andThen fun found => ?_
    cases found with
    | some receipt => exact (Act.Speaks.log _ _ _).andThen fun _ => .pure _
    | none =>
      refine (Act.Speaks.ofFault _).andThen fun _ => (Act.Speaks.log _ _ _).andThen fun _ => ?_
      split
      next => exact polling.pause_speaks.andThen fun _ => ih
      next => exact ih

theorem wait_speaks (polling : Polling) {query : Given String → Act Link (Option Receipt)}
    {hash : Given String} (queries : (query hash).Speaks endpoint asks) :
    (polling.wait query hash).Speaks endpoint asks := by
  unfold wait
  split
  next => exact poll_speaks polling queries _ _
  next => exact .fail _

end Polling

namespace Custody

variable (custody : Custody)

/-- The questions that a step of a session may ask. -/
inductive MayAsk : Step → Given String → List Json → Prop
  | send {order : Order} {method : Given String} {params : List Json}
      (asks : custody.account.AsksFor order method params) :
      MayAsk (.manager (.send order)) method params
  | execute {order : Order} {method : Given String} {params : List Json}
      (asks : custody.account.AsksFor order method params) :
      MayAsk (.manager (.execute order)) method params
  | confirm {order : Order} (hash : String) :
      MayAsk (.manager (.execute order)) (.fit Provider.receiptMethod) [.text hash]
  | call {recipient data : Option (Given String)} {block : BlockParameter} {request : Request}
      {params : List Json} (built : custody.account.reading recipient data = .ok request)
      (written : request.paramsAt block = .ok params) :
      MayAsk (.manager (.call recipient data block)) (.fit "eth_call") params
  | code {address : Given String} {block : BlockParameter} {tag : String}
      (encoded : block.encode = .ok tag) :
      MayAsk (.manager (.code address block)) (.fit "eth_getCode") [address.toJson, .text tag]
  | await (hash : Given String) :
      MayAsk (.manager (.await hash)) (.fit Provider.receiptMethod) [hash.toJson]
  | provider {step : ProviderStep} {method : Given String} {params : List Json}
      (asks : custody.account.endpoint.question? step = some (method, .ok params)) :
      MayAsk (.provider step) method params

theorem await_speaks {asks : Given String → List Json → Prop} {hash : Given String}
    (asked : asks (.fit Provider.receiptMethod) [hash.toJson]) :
    (custody.await hash).Speaks custody.account.endpoint asks :=
  custody.polling.wait_speaks (Provider.receipt_speaks asked)

theorem confirm_speaks {asks : Given String → List Json → Prop} {reply : SendReply}
    (texts : ∀ hash, reply.hash = some hash → ∃ text, hash = .fit text)
    (asked : ∀ text, asks (.fit Provider.receiptMethod) [.text text]) :
    (custody.manager.confirm reply).Speaks custody.account.endpoint asks := by
  unfold Manager.confirm
  split
  next => exact (Act.Speaks.log _ _ _).andThen fun _ => .raise _
  next => exact (Act.Speaks.log _ _ _).andThen fun _ => .raise _
  next hash _ kept =>
    obtain ⟨returned, -⟩ := Option.filter_eq_some_iff.mp kept
    obtain ⟨text, rfl⟩ := texts hash returned
    exact (Act.Speaks.log _ _ _).andThen fun _ => custody.await_speaks (asked text)

theorem execute_speaks (order : Order) :
    (custody.manager.execute order).Speaks custody.account.endpoint
      (custody.MayAsk (.manager (.execute order))) := by
  refine Act.Speaks.bind
    ((custody.account.send_speaks order).mono fun _ _ asks => .execute asks) ?_
  intro link reply sent
  exact custody.confirm_speaks (fun _ returned => Account.exists_hash_of_send sent returned)
    fun text => .confirm text

theorem call_speaks (recipient data : Option (Given String)) (block : BlockParameter) :
    (custody.manager.call recipient data block).Speaks custody.account.endpoint
      (custody.MayAsk (.manager (.call recipient data block))) := by
  refine Act.Speaks.andThen (Account.call_speaks fun _ _ built written => .call built written) ?_
  intro reply
  split
  next => exact (Act.Speaks.log _ _ _).andThen fun _ => .raise _
  next =>
    split
    next => exact .pure _
    next => exact .pure _
    next => exact .pure _

theorem manager_speaks (step : ManagerStep) :
    (custody.manager.perform step).Speaks custody.account.endpoint
      (custody.MayAsk (.manager step)) := by
  cases step with
  | address => exact .pure _
  | send order =>
    exact ((custody.account.send_speaks order).mono fun _ _ asks => .send asks).map _
  | execute order => exact (custody.execute_speaks order).map _
  | call recipient data block => exact (custody.call_speaks recipient data block).map _
  | code address block =>
    exact (Provider.code_speaks fun _ encoded => .code encoded).map _
  | await hash => exact (custody.await_speaks (.await hash)).map _

end Custody

theorem Endpoint.perform_speaks (endpoint : Endpoint) {step : ProviderStep}
    (stays : step ≠ .close) :
    (endpoint.perform step).Speaks endpoint
      fun method params => endpoint.question? step = some (method, .ok params) := by
  cases step with
  | name | url | timeout | ready => exact .pure _
  | close => exact absurd rfl stays
  | health =>
    refine (Provider.healthCheck_speaks fun readied => ?_).map _
    rw [question?, if_pos readied]
  | send recipe =>
    refine Act.Speaks.prepared fun request built => ?_
    refine (Provider.send_speaks fun params written => ?_).map _
    exact congrArg (fun asked => some (_, asked)) (bind_eq_ok built written)
  | call recipe block =>
    refine Act.Speaks.prepared fun request built => ?_
    refine (Provider.call_speaks fun params written => ?_).map _
    exact congrArg (fun asked => some (_, asked)) (bind_eq_ok built written)
  | code address block =>
    refine (Provider.code_speaks fun tag encoded => ?_).map _
    rw [question?, encoded]
    rfl
  | receipt hash =>
    refine (Provider.receipt_speaks rfl).andThen fun found => ?_
    cases found with
    | some receipt => exact .pure _
    | none => exact .pure _
  | incentiveAddress => exact (Provider.incentiveAddress_speaks rfl).map _
  | estimateGas recipe =>
    refine Act.Speaks.prepared fun request built => ?_
    refine (Provider.estimateGas_speaks fun params written => ?_).map _
    exact congrArg (fun asked => some (_, asked)) (bind_eq_ok built written)
  | chainId => exact (Provider.chainId_speaks rfl).map _

theorem Custody.perform_speaks (custody : Custody) {step : Step} (stays : step ≠ .provider .close) :
    (custody.perform step).Speaks custody.account.endpoint (custody.MayAsk step) := by
  cases step with
  | budget => exact .pure _
  | manager step => exact custody.manager_speaks step
  | provider step =>
    have spoken := custody.account.endpoint.perform_speaks fun same => stays (congrArg _ same)
    exact spoken.mono fun _ _ asks => .provider asks

end TxSubmission
