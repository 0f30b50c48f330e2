import TxSubmission.Proofs.Carriage
import TxSubmission.Proofs.Isolation
import TxSubmission.Proofs.Validity

/-!
Looking up incentive recipients. An order that asks for a recipient is preceded by one lookup of its
own; what the reply to this lookup names is what the submission carries, and a reply that names
nobody ends the order. What was looked up for another order plays no part, and nothing else that a
manager does looks anybody up.
-/

namespace TxSubmission

open Number

theorem Json.recipient_cases (value : Json) :
    (∃ name, name ≠ "" ∧ value = .text name ∧ value.recipient = .ok name) ∨
      (∀ name, value = .text name → name = "") ∧
        value.recipient = .error (.execution (.rpc .invalidIncentive none)) := by
  cases value with
  | text name =>
    unfold recipient
    by_cases empty : name = ""
    · subst empty
      exact .inr ⟨fun _ same => (Json.text.inj same).symm, rfl⟩
    · exact .inl ⟨name, empty, rfl, if_neg empty⟩
  | _ => exact .inr ⟨nofun, rfl⟩

namespace Request

theorem params_ne_nil {request : Request} {params : List Json}
    (written : request.params = .ok params) : params ≠ [] := by
  obtain ⟨payload, -, same⟩ := exists_of_bind_eq_ok written
  cases same
  exact List.cons_ne_nil _ _

theorem paramsAt_ne_nil {request : Request} {block : BlockParameter} {params : List Json}
    (written : request.paramsAt block = .ok params) : params ≠ [] := by
  obtain ⟨payload, -, written⟩ := exists_of_bind_eq_ok written
  obtain ⟨tag, -, same⟩ := exists_of_bind_eq_ok written
  cases same
  exact List.cons_ne_nil _ _

end Request

namespace Endpoint

/-- How a reply ends a lookup that names nobody: the exchange failed or the reply is a stray, the
node reported an error, which can be read or not, or the result is no text that could be an
address. -/
inductive Denies (endpoint : Endpoint) (address : Http.Address) (reply : Http.Reply) :
    Failure → Prop
  | lost {cause : TransportCause}
      (broken : reply.envelope address endpoint.lookupMethod.display =
        .error (.execution (.transport cause))) :
      Denies endpoint address reply (.execution (.transport cause))
  | stray {fault : Fault} (strays : reply.isStray address = true)
      (misread : reply.envelope address endpoint.lookupMethod.display = .error (.fault fault)) :
      Denies endpoint address reply (.fault fault)
  | reported {envelope : Members} {error : RpcError}
      (heard : reply.object? address = some envelope)
      (present : (Members.get "error" envelope).isNull = false)
      (read : RpcError.ofJson (Members.get "error" envelope) = .ok error) :
      Denies endpoint address reply (.execution (.rpc error none))
  | garbled {envelope : Members} {fault : Fault}
      (heard : reply.object? address = some envelope)
      (present : (Members.get "error" envelope).isNull = false)
      (misread : RpcError.ofJson (Members.get "error" envelope) = .error fault) :
      Denies endpoint address reply (.fault fault)
  | nameless {envelope : Members} (heard : reply.object? address = some envelope)
      (absent : (Members.get "error" envelope).isNull = true)
      (nobody : ∀ recipient, Members.get "result" envelope = .text recipient → recipient = "") :
      Denies endpoint address reply (.execution (.rpc .invalidIncentive none))

/-- How a lookup ends by the reply to it. -/
inductive LookedUp (endpoint : Endpoint) (address : Http.Address) (reply : Http.Reply) :
    Except Failure String → Prop
  | named {recipient : String} (token : endpoint.token? reply = some recipient) :
      LookedUp endpoint address reply (.ok recipient)
  | denied {failure : Failure} (nameless : endpoint.token? reply = none)
      (denies : endpoint.Denies address reply failure) :
      LookedUp endpoint address reply (.error failure)

variable {endpoint : Endpoint} {address : Http.Address} {reply : Http.Reply}

theorem lookedUp_of_object (read : endpoint.address = .ok address) {envelope : Members}
    (heard : reply.object? address = some envelope) :
    endpoint.LookedUp address reply (Members.outcome envelope >>= Json.recipient) := by
  have token : endpoint.token? reply = Members.token? envelope := by
    rw [token?_of_address read, heard]
    rfl
  cases absent : (Members.get "error" envelope).isNull with
  | false =>
    have nameless : endpoint.token? reply = none := by
      rw [token, Members.token?, absent]
    rw [Members.outcome_of_present absent]
    cases reported : RpcError.ofJson (Members.get "error" envelope) with
    | error fault => exact .denied nameless (.garbled heard absent reported)
    | ok error => exact .denied nameless (.reported heard absent reported)
  | true =>
    rw [Members.outcome_of_absent absent]
    change endpoint.LookedUp address reply (Members.get "result" envelope).recipient
    obtain ⟨name, inhabited, result, ended⟩ | ⟨nobody, ended⟩ :=
      (Members.get "result" envelope).recipient_cases
    · have named : Members.token? envelope = some name := by
        rw [Members.token?, absent, result]
        exact if_neg inhabited
      rw [ended]
      exact .named (token.trans named)
    · have nameless : Members.token? envelope = none := by
        unfold Members.token?
        split
        next result =>
          rw [if_pos (nobody _ result)]
        next => rfl
      rw [ended]
      exact .denied (token.trans nameless) (.nameless heard absent nobody)

end Endpoint

namespace Provider

variable {endpoint : Endpoint} {address : Http.Address}

theorem lookup_shows (targeted : endpoint.target endpoint.lookupMethod [] = .ok address)
    (node : Node) :
    ∃ outcome,
      (incentiveAddress endpoint).Shows node outcome [⟨address.text, endpoint.lookupMethod, []⟩] []
        (node.advance endpoint.lookupMethod) ∧
      endpoint.LookedUp address (node.next endpoint.lookupMethod) outcome := by
  have read := Endpoint.address_of_target targeted
  refine ⟨_, (incentiveAddress_relays endpoint).shows targeted node, ?_⟩
  cases heard : (node.next endpoint.lookupMethod).object? address with
  | some envelope =>
    rw [Http.Reply.envelope_of_object? heard]
    exact Endpoint.lookedUp_of_object read heard
  | none =>
    have nameless : endpoint.token? (node.next endpoint.lookupMethod) = none := by
      rw [Endpoint.token?_of_address read, heard]
      rfl
    obtain ⟨cause, lost⟩ | ⟨fault, lost⟩ :=
      Http.Reply.envelope_error_of_object? heard endpoint.lookupMethod.display
    · rw [lost]
      exact .denied nameless (.lost lost)
    · rw [lost]
      refine .denied nameless (.stray ?_ lost)
      cases strays : (node.next endpoint.lookupMethod).isStray address with
      | true => rfl
      | false =>
        obtain ⟨cause, other⟩ :=
          (Http.Reply.sorts address endpoint.lookupMethod.display _).transported strays lost
        cases other

end Provider

def ManagerStep.order? : ManagerStep → Option Order
  | .send order | .execute order => some order
  | _ => none

def ManagerStep.looksUp (step : ManagerStep) : Bool :=
  step.order?.any fun order => order.terms.looksUp

/-- What is asked behind a lookup: nothing, or the submission of what pays the recipient, followed
by questions for its receipt. -/
inductive Endpoint.Pays (endpoint : Endpoint) (recipient : String) : List Question → Prop
  | unsent : Pays endpoint recipient []
  | sent {address : Http.Address} {entries : Members} {receipts : List Question}
      (read : endpoint.address = .ok address)
      (named : Members.get? "incentiveAddress" entries = some (.text recipient))
      (asking : ∀ question ∈ receipts, question.method = .fit Provider.receiptMethod ∧
        ∃ hash, question.params = [.text hash]) :
      Pays endpoint recipient
        (⟨address.text, .fit Provider.sendMethod, [.object entries]⟩ :: receipts)

theorem Act.questions_bind {endpoint : Endpoint} {asks : Given String → List Json → Prop}
    {α β : Type} {first : Act Link α} {next : α → Act Link β} {link : Link}
    (tail : ∀ a, (first link).outcome = .ok a → (next a).Speaks endpoint asks) :
    ∃ later, ((first >>= next) link).trace.questions = (first link).trace.questions ++ later ∧
      ∀ question ∈ later, asks question.method question.params := by
  rw [bind_apply]
  cases ended : (first link).outcome with
  | error failure => exact ⟨[], (List.append_nil _).symm, nofun⟩
  | ok a =>
    refine ⟨(next a (first link).state).trace.questions, Trace.questions_append _ _, ?_⟩
    exact fun question member => ((tail a ended).asked _ question member).1

namespace Custody

variable {custody : Custody} {step : ManagerStep} {order : Order}

def settle (custody : Custody) : ManagerStep → SendReply → Act Link Answer
  | .execute _, reply => do pure (.receipt (← custody.manager.confirm reply))
  | _, reply => pure (.sendReply reply)

theorem perform_of_order (custody : Custody) (sends : step.order? = some order) :
    custody.manager.perform step = custody.account.send order >>= custody.settle step := by
  cases step with
  | send sent =>
    cases sends
    rfl
  | execute sent =>
    cases sends
    exact bind_assoc _ _ _
  | _ => cases sends

theorem settle_speaks (custody : Custody) (step : ManagerStep) {reply : SendReply}
    (texts : ∀ hash, reply.hash = some hash → ∃ text, hash = .fit text) :
    (custody.settle step reply).Speaks custody.account.endpoint fun method params =>
      method = .fit Provider.receiptMethod ∧ ∃ hash, params = [.text hash] := by
  cases step with
  | execute order => exact (custody.confirm_speaks texts fun text => ⟨rfl, text, rfl⟩).map _
  | _ => exact .pure _

theorem perform_of_unlooked (sends : step.order? = some order)
    (asking : order.terms.looksUp = true) {node left : Node} {failure : Failure}
    {questions : List Question}
    (unlooked : (Provider.incentiveAddress custody.account.endpoint).Shows node (.error failure)
      questions [] left) :
    (custody.manager.perform step).Shows node (.error failure) questions [] left := by
  rw [custody.perform_of_order sends, Account.send_eq, bind_assoc]
  refine Act.Shows.bind_error ?_ _
  obtain ⟨chainId, tip, cap, terms⟩ := order.terms.exists_of_looksUp asking
  unfold Account.recipient
  rw [terms]
  exact unlooked.bind_error _

end Custody

namespace Account

theorem incentive_of_wire {account : Account} {order : Order} (asking : order.terms.looksUp = true)
    {recipient : String} {request : Request} {entries : Members}
    (built : account.request order recipient = .ok request) (wired : request.wire = .ok entries) :
    Members.get? "incentiveAddress" entries = some (.text recipient) := by
  rw [request_eq] at built
  have slots := (Draft.checked_of_check (Recipe.check_of_build built)).slots
  have named : Members.get? "incentiveAddress" request.slots =
      some (.ofText? (some recipient)) := by
    obtain ⟨chainId, tip, cap, terms⟩ := order.terms.exists_of_looksUp asking
    rw [slots, recipe, terms]
    rfl
  exact Request.get?_wire_text wired named

theorem AsksFor.params_ne_nil {account : Account} {order : Order} {method : Given String}
    {params : List Json} (asks : account.AsksFor order method params)
    (modest : order.terms.looksUp = false) : params ≠ [] := by
  cases asks with
  | lookup terms =>
    rw [terms] at modest
    cases modest
  | submission built written => exact Request.params_ne_nil written

end Account

namespace PlainOrder

variable {account : Account} {sender : String}

theorem isSendableField_number (room : Nat) (number : Option Int) :
    (Given.toJson? (number.map Given.fit)).isSendableField (room + 1) = true := by
  cases number <;> rfl

theorem isSendableField_text (room : Nat) (text : Option String) :
    (Given.toJson? (text.map Given.fit)).isSendableField (room + 1) = true := by
  cases text <;> rfl

theorem isSendable_order (room : Nat) (plain : PlainOrder) :
    plain.order.isSendable room = true := by
  have number (n : Int) :
      (Given.toJson? (some (Given.fit n))).isSendableField (room + 1) = true := rfl
  obtain ⟨terms, gasLimit, recipient, data, value, deploys⟩ := plain
  rw [Order.isSendable, List.all_eq_true]
  cases terms <;> simp [order, PlainTerms.terms, FeeTerms.fees, isSendableField_number,
    isSendableField_text, number]

theorem exists_wire (plain : PlainOrder) (held : account.address = .fit sender)
    (above : plain.order.isNegative = false) {looked : String} (inhabited : looked ≠ "") :
    ∃ request entries, account.request plain.order looked = .ok request ∧
      request.wire = .ok entries ∧
        (Json.object entries).isSendable (account.endpoint.room + 2) = true := by
  have complete : plain.order.terms.isIncomplete = false := by
    change plain.terms.terms.isIncomplete = false
    cases plain.terms <;> rfl
  have sendable : account.address.toJson.isSendableField (account.endpoint.room + 1) = true := by
    rw [held]
    rfl
  obtain ⟨request, built, checked⟩ := account.exists_request complete rfl inhabited
  have sender : (Given.toJson? (some account.address)).isBelowZero = false := by
    rw [held]
    rfl
  have recipient : (Given.toJson? plain.order.recipient).isBelowZero = false := by
    rw [order, toJson?_text]
    exact Json.isBelowZero_ofText? _
  have writable := Draft.isOk_payload checked
  rw [account.not_isNegative_recipe above sender recipient] at writable
  obtain ⟨payload, written⟩ := exists_of_isOk writable
  obtain ⟨entries, wired, -⟩ := exists_of_map_eq_ok written
  refine ⟨request, entries, built, wired, ?_⟩
  exact Request.isSendable_wire (Draft.checked_of_check checked)
    (Account.isSendable_recipe sendable (plain.isSendable_order _) looked) wired

end PlainOrder

namespace Endpoint

/-- How a step that sends an order with an incentive goes, given the reply to its lookup. -/
structure LooksUp (endpoint : Endpoint) (order : Order) (reply : Http.Reply)
    (ran : Ran Link Answer) : Prop where
  unaddressed : ∀ fault, endpoint.address = .error fault →
    ran.trace.questions = [] ∧ ran.outcome = .error (.fault fault)
  denied : ∀ address, endpoint.address = .ok address → endpoint.token? reply = none →
    ran.trace.questions = [⟨address.text, endpoint.lookupMethod, []⟩] ∧
      ∃ failure, endpoint.Denies address reply failure ∧ ran.outcome = .error failure
  named : ∀ address recipient, endpoint.address = .ok address →
    endpoint.token? reply = some recipient → ∃ behind,
      ran.trace.questions = ⟨address.text, endpoint.lookupMethod, []⟩ :: behind ∧
        endpoint.Pays recipient behind ∧
        ∀ plain : PlainOrder, order = plain.order → order.isNegative = false → behind ≠ []

end Endpoint

namespace Custody

variable {custody : Custody} {step : ManagerStep} {order : Order}

theorem perform_pays (sends : step.order? = some order) (asking : order.terms.looksUp = true)
    {address : Http.Address} (targeted : custody.account.endpoint.target
      custody.account.endpoint.lookupMethod [] = .ok address)
    {recipient : String} {link : Link} (token : custody.account.endpoint.token?
      (link.node.next custody.account.endpoint.lookupMethod) = some recipient) :
    ∃ behind, (custody.manager.perform step link).trace.questions =
        ⟨address.text, custody.account.endpoint.lookupMethod, []⟩ :: behind ∧
      custody.account.endpoint.Pays recipient behind := by
  obtain ⟨outcome, submissions, left, sent, how⟩ := custody.account.send_shows order link.node
  rw [Endpoint.lookups_of_looksUp targeted asking] at sent
  rw [custody.perform_of_order sends]
  cases how with
  | unsent =>
    have ended := sent.bind_error (custody.settle step) link rfl
    exact ⟨[], ended.questions, .unsent⟩
  | sent reached named built wired =>
    obtain ⟨chainId, tip, cap, terms⟩ := order.terms.exists_of_looksUp asking
    rw [named chainId tip cap terms] at token
    cases token
    obtain ⟨receipts, asked, awaiting⟩ := Act.questions_bind fun reply ended =>
      custody.settle_speaks step fun _ returned => Account.exists_hash_of_send ended returned
    rw [(sent link rfl).questions] at asked
    exact ⟨_, asked, .sent reached (Account.incentive_of_wire asking built wired) awaiting⟩

theorem perform_submits {sender : String} (held : custody.account.address = .fit sender)
    {plain : PlainOrder} (sends : step.order? = some plain.order)
    (asking : plain.order.terms.looksUp = true) (above : plain.order.isNegative = false)
    {address : Http.Address} (targeted : custody.account.endpoint.target
      custody.account.endpoint.lookupMethod [] = .ok address)
    {recipient : String} {link : Link} (token : custody.account.endpoint.token?
      (link.node.next custody.account.endpoint.lookupMethod) = some recipient) :
    (custody.manager.perform step link).trace.questions ≠
      [⟨address.text, custody.account.endpoint.lookupMethod, []⟩] := by
  obtain ⟨request, entries, built, wired, sendable⟩ :=
    plain.exists_wire held above (Endpoint.token?_inhabited token)
  obtain ⟨found, looked, how⟩ := Provider.lookup_shows targeted link.node
  cases how with
  | denied nameless =>
    rw [nameless] at token
    cases token
  | named other =>
    rw [token] at other
    cases other
    -- nothing between the lookup and the submission can fail for a plain order
    obtain ⟨outcome, submitted⟩ := Provider.send_of_sendable
      (Endpoint.address_of_target targeted) wired sendable
      (link.node.advance custody.account.endpoint.lookupMethod)
    have sent := custody.account.send_of_named asking looked built submitted
    obtain ⟨receipts, asked, -⟩ := Act.questions_bind fun reply ended =>
      custody.settle_speaks step fun _ returned => Account.exists_hash_of_send ended returned
    rw [(sent link rfl).questions] at asked
    rw [custody.perform_of_order sends, asked]
    simp

theorem isSendable_lookup (named : custody.account.endpoint.lookupMethod.toJson.isSendable
    (custody.account.endpoint.room + 1) = true) :
    RpcRequest.isSendable custody.account.endpoint.room custody.account.endpoint.lookupMethod [] =
      true :=
  (Bool.and_true _).trans named

theorem perform_looksUp {sender : String} (held : custody.account.address = .fit sender)
    (named : custody.account.endpoint.lookupMethod.toJson.isSendable
      (custody.account.endpoint.room + 1) = true)
    (sends : step.order? = some order) (asking : order.terms.looksUp = true) (link : Link) :
    custody.account.endpoint.LooksUp order
      (link.node.next custody.account.endpoint.lookupMethod)
      (custody.manager.perform step link) where
  unaddressed fault unreadable := by
    have untargeted := Endpoint.target_of_unreadable unreadable (isSendable_lookup named)
    have unasked := Provider.incentiveAddress_untargeted untargeted link.node
    have ended := perform_of_unlooked sends asking unasked link rfl
    exact ⟨ended.questions, ended.outcome⟩
  denied address read nameless := by
    have targeted := Endpoint.target_of_address read (isSendable_lookup named)
    obtain ⟨found, looked, how⟩ := Provider.lookup_shows targeted link.node
    cases how with
    | named token =>
      rw [nameless] at token
      cases token
    | @denied failure _ denies =>
      have ended := perform_of_unlooked sends asking looked link rfl
      exact ⟨ended.questions, failure, denies, ended.outcome⟩
  named address recipient read token := by
    have targeted := Endpoint.target_of_address read (isSendable_lookup named)
    obtain ⟨behind, asked, pays⟩ := perform_pays sends asking targeted token
    refine ⟨behind, asked, pays, ?_⟩
    rintro plain rfl above rfl
    exact perform_submits held sends asking above targeted token asked

theorem params_ne_nil (modest : step.looksUp = false) {method : Given String} {params : List Json}
    (asks : custody.MayAsk (.manager step) method params) : params ≠ [] := by
  cases asks with
  | send asks => exact asks.params_ne_nil modest
  | execute asks => exact asks.params_ne_nil modest
  | call built written => exact Request.paramsAt_ne_nil written
  | confirm | code | await => exact List.cons_ne_nil _ _

end Custody

theorem Custody.next_linkAfter (custody : Custody) (history : List Step) (link : Link)
    (method : Given String) :
    (linkAfter custody.perform history link).node.next method =
      (link.node.residual (runSteps custody.perform history link)).next method := by
  cases method with
  | odd value => rfl
  | fit method =>
    rw [Node.next_fit, Node.next_fit, ahead_linkAfter custody.perform_isolated,
      Node.ahead_residual]

/-- Wherever in a session in front of a node without halves of surrogate pairs an order with an
incentive is sent, it goes as the next reply to a lookup says that the steps before it have left; no
other step of a manager looks anybody up. -/
theorem Custody.lookups_fresh {endpoint : Endpoint} {sender : String} {attempts : Int}
    {interval : Amount} {custody : Custody}
    (built : check endpoint (.fit sender) (.fit attempts) (.fit interval) = .ok custody)
    (named : endpoint.lookupMethod.toJson.isSendable (endpoint.room + 1) = true)
    (history : List Step) (step : ManagerStep) (link : Link) (_ : link.node.IsWhole) :
    let before := runSteps custody.perform history link
    ∃ ran, runSteps custody.perform (history ++ [.manager step]) link = before ++ [ran] ∧
      (∀ order, step.order? = some order → order.terms.looksUp = true →
        endpoint.LooksUp order ((link.node.residual before).next endpoint.lookupMethod) ran) ∧
      (step.looksUp = false → ∀ question ∈ ran.trace.questions, question.params ≠ []) := by
  obtain ⟨rfl, held, -⟩ := Custody.of_check built
  refine ⟨_, runSteps_append history [.manager step] link, ?_, ?_⟩
  · intro order sends asking
    rw [← custody.next_linkAfter history link]
    exact perform_looksUp held named sends asking _
  · intro modest question member
    have spoken := custody.manager_speaks step
    exact Custody.params_ne_nil modest (spoken.asked _ question member).1

namespace Custody

def generous : PlainOrder where
  terms := .incentive 1 1 2

theorem lookups_fresh_sample :
    check (.plain "http://n") (.fit "0x1") (.fit 2) (.fit (.whole 1)) = .ok (sample "http://n") ∧
      Node.accepting.IsWhole ∧ ∃ ran, runSteps (sample "http://n").perform
          [.manager (.execute generous.order), .manager (.send generous.order)]
          { node := Node.accepting } =
            runSteps (sample "http://n").perform [.manager (.execute generous.order)]
              { node := Node.accepting } ++ [ran] ∧
        (Endpoint.plain "http://n").LooksUp generous.order
          (Node.enveloped [("result", .text "0x1")]) ran := by
  obtain ⟨ran, ended, looksUp, -⟩ := lookups_fresh (check_sample "http://n") rfl
    [.manager (.execute generous.order)] (.send generous.order) { node := Node.accepting }
    Node.isWhole_accepting
  exact ⟨check_sample "http://n", Node.isWhole_accepting, ran, ended,
    looksUp generous.order rfl rfl⟩

def buried : Node :=
  { replies := fun _ _ => .response 200 none (.text (String.ofList (List.replicate 976 '['))) }

theorem lookup_buried : ∃ fault, ((sample "http://n").manager.perform (.send generous.order)
    { node := buried }).outcome = .error (.fault fault) := by
  have targeted : (Endpoint.plain "http://n").target (Endpoint.plain "http://n").lookupMethod [] =
      .ok Endpoint.sampleAddress :=
    Endpoint.target_of_address Endpoint.address_plain rfl
  have looked :=
    (Provider.incentiveAddress_relays (Endpoint.plain "http://n")).shows targeted buried
  have deep := Http.Body.read_brackets (show 3 ≤ Http.usualDepth by decide)
    (show Http.usualDepth < 976 by decide)
  have strays : (buried.next (Endpoint.plain "http://n").lookupMethod).isStray
      Endpoint.sampleAddress = true :=
    Http.Reply.isStray_of_strays rfl (.inr ⟨rfl, .list, deep⟩)
  obtain ⟨fault, garbled⟩ := (Http.Reply.sorts Endpoint.sampleAddress
    (Endpoint.plain "http://n").lookupMethod.display _).fault_of_isStray strays
  rw [garbled] at looked
  have ended := @perform_of_unlooked (sample "http://n") (.send generous.order) _ rfl rfl _ _ _ _
    looked
  exact ⟨fault, (ended { node := buried } rfl).outcome⟩

/-- A lookup is not always asked for, does not always lead to a submission where its reply names a
recipient, and does not always fail with an error of the node or of the round trip: an address may
be unreadable or say nothing of its host, and a body hold too many open brackets. -/
theorem lookups_not_always_sent :
    ((sample "http://[::1").manager.perform (.send generous.order)
      { node := Node.accepting }).trace.questions = [] ∧
    ((sample "").manager.perform (.send generous.order)
      { node := Node.accepting }).trace.methods = [.fit Endpoint.defaultLookup] ∧
    ∃ fault, ((sample "http://n").manager.perform (.send generous.order)
      { node := buried }).outcome = .error (.fault fault) := by
  obtain ⟨fault, unreadable⟩ := Endpoint.address_plain_bracket
  have looksUp := @perform_looksUp (sample "http://[::1") (.send generous.order) _ _ rfl rfl rfl rfl
    { node := Node.accepting }
  exact ⟨(looksUp.unaddressed fault unreadable).1, rfl, lookup_buried⟩

end Custody

end TxSubmission
