import TxSubmission.Proofs.FreshLookups

/-!
Steps that are refused on the spot. Fees that are missing, numbers below zero and what names no
block are found before a request is numbered, so that a step with any of them fails for that reason,
and link and node are as they were. An order with an incentive is no exception but for its lookup,
which comes first.
-/

namespace TxSubmission

open Text Number

namespace BlockParameter

def isMarkedNumber (s : String) : Bool :=
  hasHexPrefix s &&
    match Quantity.decode s with
    | .ok n => 0 ≤ n
    | .error _ => false

/-- Whether a block is none: a truth value, a number below zero, or a text that is neither a tag nor
a number. -/
def isInvalid : BlockParameter → Bool
  | .number n => n < 0
  | .text s => decide (lowered s ∉ tags) && !isMarkedNumber s
  | .flag _ => true
  | .other _ => false

theorem encode_of_isInvalid {block : BlockParameter} (invalid : block.isInvalid = true) :
    ∃ cause, block.encode = .error (.invalid cause) := by
  cases block with
  | number n =>
    cases n with
    | ofNat n => cases invalid
    | negSucc n => exact ⟨_, rfl⟩
  | flag b => exact ⟨_, rfl⟩
  | other value => cases invalid
  | text s =>
    obtain ⟨untagged, unmarked⟩ := Bool.and_eq_true_iff.mp invalid
    rw [decide_eq_true_eq] at untagged
    rw [Bool.not_eq_true', isMarkedNumber] at unmarked
    rw [encode, encodeText, if_neg untagged]
    cases marked : hasHexPrefix s with
    | false => exact ⟨_, rfl⟩
    | true =>
      rw [marked, Bool.true_and] at unmarked
      cases read : Quantity.decode s with
      | error cause => exact ⟨cause, rfl⟩
      | ok n =>
        rw [read] at unmarked
        cases n with
        | ofNat n => cases unmarked
        | negSucc n => exact ⟨_, rfl⟩

end BlockParameter

def Order.isInvalid (order : Order) : Bool := order.terms.isIncomplete || order.isNegative

namespace ManagerStep

/-- Whether a step is refused whatever the node says: an order with a missing fee or a number below
zero, or a question about no block. -/
def isInvalid : ManagerStep → Bool
  | .send order | .execute order => order.isInvalid
  | .call _ _ block | .code _ block => block.isInvalid
  | .address | .await _ => false

def data? : ManagerStep → Option (Given String)
  | .send order | .execute order => order.data
  | .call _ data _ => data
  | _ => none

end ManagerStep

namespace Account

variable {account : Account}

theorem recipient_of_modest {terms : FeeTerms} (modest : terms.looksUp = false) :
    account.recipient terms = pure "" := by
  cases terms with
  | incentive => cases modest
  | _ => rfl

theorem send_of_isInvalid {order : Order} (invalid : order.isInvalid = true)
    (modest : order.terms.looksUp = false) :
    ∃ fault, fault.IsRefusal order.data ∧ account.send order = Act.fail (.fault fault) := by
  obtain ⟨fault, refusal, refused⟩ := account.refuses (Bool.or_eq_true_iff.mp invalid) ""
  refine ⟨fault, refusal, ?_⟩
  rw [send_eq, recipient_of_modest modest, pure_bind, refused]

theorem call_of_isInvalid (account : Account) {block : BlockParameter}
    (invalid : block.isInvalid = true) (recipient data : Option (Given String)) :
    ∃ fault, fault.IsRefusal data ∧
      account.call recipient data block = Act.fail (.fault fault) := by
  obtain ⟨cause, unencoded⟩ := BlockParameter.encode_of_isInvalid invalid
  let draft : Draft := { sender := some account.address, recipient, data }
  have called : account.call recipient data block = Act.ofFault draft.check >>= fun request =>
      Provider.call account.endpoint request block := rfl
  rw [called]
  cases built : draft.check with
  | error fault => exact ⟨fault, Draft.isRefusal_of_check built, rfl⟩
  | ok request =>
    rw [Act.ofFault_ok, pure_bind, Provider.call]
    cases request.payload with
    | error unwritten => exact ⟨_, Fault.isRefusal_invalid data unwritten, rfl⟩
    | ok payload =>
      refine ⟨_, Fault.isRefusal_invalid data cause, ?_⟩
      rw [Act.ofInvalid_ok, pure_bind, unencoded]
      rfl

end Account

theorem Trace.still_of_logged {shown : Trace} (told : ∀ event ∈ shown,
      ∃ severity component text, event = .logged severity component text) :
    shown.questions = [] ∧ shown.sleeps = [] := by
  constructor
  · refine List.map_eq_nil_iff.mpr (postings_of_quiet fun event member => ?_)
    obtain ⟨severity, component, text, rfl⟩ := told event member
    rfl
  · refine List.filterMap_eq_nil_iff.mpr fun event member => ?_
    obtain ⟨severity, component, text, rfl⟩ := told event member
    rfl

/-- What a step with some data does that only looks somebody up and then fails: the run of the
lookup alone, a few log records aside. -/
structure Endpoint.OnlyLooksUp (endpoint : Endpoint) (data : Option (Given String)) (link : Link)
    (ran : Ran Link Answer) : Prop where
  state : ran.state = (Provider.incentiveAddress endpoint link).state
  trace : ∃ shown, ran.trace = (Provider.incentiveAddress endpoint link).trace ++ shown ∧
    ∀ event ∈ shown, ∃ severity component text, event = .logged severity component text
  asked : ran.trace.questions = match endpoint.address with
    | .ok address =>
      if endpoint.lookupMethod.toJson.isSendable (endpoint.room + 1) then
        [⟨address.text, endpoint.lookupMethod, []⟩]
      else []
    | .error _ => []
  slept : ran.trace.sleeps = []
  unlooked : ∀ failure, (Provider.incentiveAddress endpoint link).outcome = .error failure →
    ran.outcome = .error failure
  looked : ∀ recipient, (Provider.incentiveAddress endpoint link).outcome = .ok recipient →
    ∃ fault, fault.IsRefusal data ∧ ran.outcome = .error (.fault fault)

namespace Custody

variable {custody : Custody} {step : ManagerStep}

theorem perform_of_isInvalid (custody : Custody) (invalid : step.isInvalid = true)
    (modest : step.looksUp = false) :
    ∃ fault, fault.IsRefusal step.data? ∧
      custody.manager.perform step = Act.fail (.fault fault) := by
  cases step with
  | address | await => cases invalid
  | send order =>
    obtain ⟨fault, refusal, refused⟩ := custody.account.send_of_isInvalid invalid modest
    refine ⟨fault, refusal, ?_⟩
    rw [custody.perform_of_order rfl, refused, Act.fail_then]
  | execute order =>
    obtain ⟨fault, refusal, refused⟩ := custody.account.send_of_isInvalid invalid modest
    refine ⟨fault, refusal, ?_⟩
    rw [custody.perform_of_order rfl, refused, Act.fail_then]
  | call recipient data block =>
    obtain ⟨fault, refusal, refused⟩ := custody.account.call_of_isInvalid invalid recipient data
    have called : custody.manager.perform (.call recipient data block) =
        custody.account.call recipient data block >>= _ := bind_assoc _ _ _
    refine ⟨fault, refusal, ?_⟩
    rw [called, refused, Act.fail_then]
  | code address block =>
    obtain ⟨cause, unencoded⟩ := BlockParameter.encode_of_isInvalid invalid
    have queried : custody.manager.perform (.code address block) =
        Act.ofFault block.encode >>= _ := bind_assoc _ _ _
    refine ⟨_, Fault.isRefusal_invalid _ cause, ?_⟩
    rw [queried, unencoded]
    rfl

theorem send_of_refused {order : Order} (invalid : order.isInvalid = true)
    (asking : order.terms.looksUp = true) (link : Link) :
    ∃ failure shown, custody.account.send order link =
        ⟨.error failure, (Provider.incentiveAddress custody.account.endpoint link).state,
          (Provider.incentiveAddress custody.account.endpoint link).trace ++ shown⟩ ∧
      (∀ event ∈ shown, ∃ severity component text, event = .logged severity component text) ∧
      match (Provider.incentiveAddress custody.account.endpoint link).outcome with
        | .error unlooked => failure = unlooked
        | .ok _ => ∃ fault, fault.IsRefusal order.data ∧ failure = .fault fault := by
  obtain ⟨chainId, tip, cap, terms⟩ := order.terms.exists_of_looksUp asking
  rw [Account.send_eq, terms]
  -- the lookup runs before the fees are looked at, so its failure goes first
  cases looked : Provider.incentiveAddress custody.account.endpoint link with
  | mk outcome state trace =>
    cases outcome with
    | error failure =>
      refine ⟨failure, [], ?_, nofun, rfl⟩
      rw [List.append_nil]
      exact Act.bind_of_error (Act.bind_of_error looked _) _
    | ok recipient =>
      obtain ⟨fault, refusal, refused⟩ :=
        custody.account.refuses (Bool.or_eq_true_iff.mp invalid) recipient
      let told : Trace := [.logged .debug .account ("Using incentive address " ++ recipient)]
      have found : custody.account.recipient (.incentive chainId tip cap) link =
          ⟨.ok recipient, state, trace ++ told⟩ := Act.bind_of_ok looked _
      refine ⟨.fault fault, told, ?_, ?_, fault, refusal, rfl⟩
      · rw [Act.bind_of_ok found, refused]
        exact congrArg (Ran.mk _ _) (List.append_nil _)
      · exact fun event member => ⟨_, _, _, List.mem_singleton.mp member⟩

theorem lookup_asks (custody : Custody) (link : Link) :
    let endpoint := custody.account.endpoint
    let looked := Provider.incentiveAddress endpoint link
    looked.trace.sleeps = [] ∧ looked.trace.questions = match endpoint.address with
      | .ok address =>
        if endpoint.lookupMethod.toJson.isSendable (endpoint.room + 1) then
          [⟨address.text, endpoint.lookupMethod, []⟩]
        else []
      | .error _ => [] := by
  intro endpoint looked
  have lookup : RpcRequest.isSendable endpoint.room endpoint.lookupMethod [] =
      endpoint.lookupMethod.toJson.isSendable (endpoint.room + 1) := Bool.and_true _
  cases targeted : endpoint.target endpoint.lookupMethod [] with
  | error failure =>
    have shown := Provider.incentiveAddress_untargeted targeted link.node link rfl
    refine ⟨shown.sleeps, shown.questions.trans ?_⟩
    cases read : endpoint.address with
    | error fault => rfl
    | ok address =>
      refine (if_neg fun named => ?_).symm
      rw [Endpoint.target_of_address read (lookup.trans named)] at targeted
      cases targeted
  | ok address =>
    obtain ⟨read, sendable⟩ := Endpoint.target_eq_ok_iff.mp targeted
    obtain ⟨outcome, shows, -⟩ := Provider.incentiveAddress_shows targeted link.node
    refine ⟨(shows link rfl).sleeps, (shows link rfl).questions.trans ?_⟩
    rw [read]
    exact (if_pos (lookup.symm.trans sendable)).symm

theorem perform_onlyLooksUp (invalid : step.isInvalid = true) (asking : step.looksUp = true)
    (link : Link) :
    custody.account.endpoint.OnlyLooksUp step.data? link (custody.manager.perform step link) := by
  obtain ⟨order, sends, same, asking, invalid⟩ : ∃ order, step.order? = some order ∧
      step.data? = order.data ∧ order.terms.looksUp = true ∧ order.isInvalid = true := by
    cases step with
    | send order => exact ⟨order, rfl, rfl, asking, invalid⟩
    | execute order => exact ⟨order, rfl, rfl, asking, invalid⟩
    | _ => cases asking
  obtain ⟨failure, shown, sent, told, failed⟩ := custody.send_of_refused invalid asking link
  obtain ⟨sleepless, asked⟩ := custody.lookup_asks link
  obtain ⟨unasked, unslept⟩ := Trace.still_of_logged told
  rw [custody.perform_of_order sends, Act.bind_of_error sent, same]
  exact
    { state := rfl
      trace := ⟨shown, rfl, told⟩
      asked := by
        rw [Trace.questions_append, asked, unasked, List.append_nil]
      slept := by
        rw [Trace.sleeps_append, sleepless, unslept]
        rfl
      unlooked := by
        intro unlooked lost
        rw [lost] at failed
        rw [failed]
      looked := by
        intro recipient found
        rw [found] at failed
        obtain ⟨fault, refusal, rfl⟩ := failed
        exact ⟨fault, refusal, rfl⟩ }

/-- A step with a missing fee, a number below zero or no block is refused and leaves everything as
it was. Where it sends an order with an incentive, the recipient is looked up all the same, and
nothing else is done. -/
theorem refused_locally (custody : Custody) {step : ManagerStep} (invalid : step.isInvalid = true)
    (link : Link) :
    (step.looksUp = false → ∃ fault, fault.IsRefusal step.data? ∧
      custody.manager.perform step link = ⟨.error (.fault fault), link, []⟩) ∧
    (step.looksUp = true →
      custody.account.endpoint.OnlyLooksUp step.data? link
        (custody.manager.perform step link)) := by
  refine ⟨fun modest => ?_, fun asking => perform_onlyLooksUp invalid asking link⟩
  obtain ⟨fault, refusal, refused⟩ := custody.perform_of_isInvalid invalid modest
  exact ⟨fault, refusal, congrFun refused link⟩

def gasless (terms : FeeTerms) (data : Option (Given String)) : Order :=
  { terms, gasLimit := some (.fit (-1)), data }

theorem refused_locally_gasless :
    (ManagerStep.send (gasless (.legacy none) none)).isInvalid = true ∧
      ∃ cause, (sample "http://n").manager.perform (.send (gasless (.legacy none) none))
          { node := Node.accepting } =
        ⟨.error (.fault (.invalid cause)), { node := Node.accepting }, []⟩ := by
  obtain ⟨refused, -⟩ := @refused_locally (sample "http://n")
    (.send (gasless (.legacy none) none)) rfl { node := Node.accepting }
  obtain ⟨fault, refusal, ended⟩ := refused rfl
  obtain ⟨cause, rfl⟩ := refusal none rfl
  exact ⟨rfl, cause, ended⟩

/-- A step that is refused does not always tell its cause, and a lookup is not always asked for:
data that is no text may be looked at first, and where an address has an open bracket a number is
taken and a client is created for nothing. -/
theorem refused_otherwise :
    ((sample "http://n").manager.perform
        (.send (gasless (.legacy (some (.fit 1))) (some (.odd (.int 5)))))
        { node := Node.accepting }).outcome = .error (.fault (.wrongType .hexText)) ∧
      let ran := (sample "http://[::1").manager.perform
        (.send (gasless (.incentive none none none) none)) { node := Node.accepting }
      ran.trace.questions = [] ∧ ran.state.sent = 1 ∧ ran.state.client = .live := by
  obtain ⟨fault, unreadable⟩ := Endpoint.address_plain_bracket
  obtain ⟨asked, -⟩ := (@perform_looksUp (sample "http://[::1")
    (.send (gasless (.incentive none none none) none)) _ _ rfl rfl rfl rfl
    { node := Node.accepting }).unaddressed fault unreadable
  have untargeted : (Endpoint.plain "http://[::1").target (.fit Endpoint.defaultLookup) [] =
      .error (.fault fault) := Endpoint.target_of_unreadable unreadable rfl
  have exchanged := Provider.exchange_untargeted untargeted { node := Node.accepting }
  have looked : Provider.incentiveAddress (Endpoint.plain "http://[::1")
      { node := Node.accepting } = _ := Act.bind_of_error (Act.bind_of_error exchanged _) _
  have onlyLooksUp := @perform_onlyLooksUp (sample "http://[::1")
    (.send (gasless (.incentive none none none) none)) rfl rfl { node := Node.accepting }
  refine ⟨rfl, asked, ?_, ?_⟩
  · rw [onlyLooksUp.state]
    exact congrArg (fun ran => ran.state.sent) looked
  · rw [onlyLooksUp.state]
    exact congrArg (fun ran => ran.state.client) looked

end Custody

end TxSubmission
