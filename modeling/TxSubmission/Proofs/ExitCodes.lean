import TxSubmission.Proofs.CommandLine
import TxSubmission.Proofs.ErrorReports
import TxSubmission.Proofs.RevertReason

/-!
Exit codes and reported errors. The replies that a run received are the ones that its node gave to
the questions it asked, one after the other. Every operation looks at the error in the reply that it
ends behind, so that a command line whose last reply reports one does not exit with zero. The one
exception is a call: it prints what the error carried and exits with zero, unless the error or the
result tells of a revert.
-/

namespace TxSubmission

namespace Node

def answers (node : Node) : List Question → List Http.Reply
  | [] => []
  | question :: rest => node.next question.method :: (node.advance question.method).answers rest

theorem after_cons (node : Node) (question : Question) (rest : List Question) :
    node.after (question :: rest) = (node.advance question.method).after rest := rfl

theorem after_append (node : Node) (asked later : List Question) :
    node.after (asked ++ later) = (node.after asked).after later :=
  List.foldl_append

theorem answers_append (node : Node) (asked later : List Question) :
    node.answers (asked ++ later) = node.answers asked ++ (node.after asked).answers later := by
  induction asked generalizing node with
  | nil => rfl
  | cons question rest ih =>
    rw [List.cons_append, answers, answers, ih, after_cons, List.cons_append]

end Node

namespace Trace

/-- The last reply that a run received from a node. -/
def lastReply? (trace : Trace) (node : Node) : Option Http.Reply :=
  (node.answers trace.questions).getLast?

theorem lastReply?_of_unasked {trace : Trace} (unasked : trace.questions = []) (node : Node) :
    trace.lastReply? node = none := by
  rw [lastReply?, unasked]
  rfl

theorem lastReply?_append (before later : Trace) (node : Node) :
    lastReply? (before ++ later) node =
      (later.lastReply? (node.after before.questions)).or (before.lastReply? node) := by
  rw [lastReply?, questions_append, Node.answers_append, List.getLast?_append]
  rfl

end Trace

/-- Whether a reply reports an error: it has a status of success and carries an object with an error
that is not null. -/
def Http.Reply.reports : Http.Reply → Bool
  | .broken _ => false
  | .response status _ body =>
    isSuccess status && body.object?.any fun members => !(Members.get "error" members).isNull

theorem Http.Reply.reports_of_object? {address : Address} {reply : Reply} {envelope : Members}
    (heard : reply.object? address = some envelope) :
    reply.reports = !(Members.get "error" envelope).isNull := by
  cases reply with
  | broken text => cases heard
  | response status location body =>
    simp only [object?] at heard
    split at heard
    next shown =>
      rw [reports, (Bool.and_eq_true_iff.mp shown).2, heard]
      rfl
    next => cases heard

theorem Endpoint.reports_of_object? {endpoint : Endpoint} {reply : Http.Reply} {envelope : Members}
    (heard : endpoint.object? reply = some envelope) :
    reply.reports = !(Members.get "error" envelope).isNull := by
  unfold object? at heard
  split at heard
  next => exact Http.Reply.reports_of_object? heard
  next => cases heard

theorem RpcError.isNull_of_ofEnvelope {envelope : Members} (read : ofEnvelope envelope = .ok none) :
    (Members.get "error" envelope).isNull = true := by
  cases present : (Members.get "error" envelope).isNull with
  | true => rfl
  | false =>
    rw [ofEnvelope_of_present present] at read
    obtain ⟨error, -, same⟩ := exists_of_map_eq_ok read
    cases same

theorem Members.isNull_of_outcome {envelope : Members} {found : Json}
    (read : envelope.outcome = .ok found) : (get "error" envelope).isNull = true := by
  unfold outcome at read
  split at read
  next => cases read
  next => cases read
  next unreported => exact RpcError.isNull_of_ofEnvelope unreported

theorem Receipt.isNull_of_ofEnvelope {envelope : Members} {found : Option Receipt}
    (read : ofEnvelope envelope = .ok found) : (Members.get "error" envelope).isNull = true := by
  unfold ofEnvelope at read
  split at read
  next => cases read
  next => cases read
  next unreported => exact RpcError.isNull_of_ofEnvelope unreported

theorem SendReply.isNull_of_ofEnvelope {envelope : Members} {reply : SendReply}
    (read : ofEnvelope envelope = .ok reply) (unreported : reply.error = none) :
    (Members.get "error" envelope).isNull = true := by
  obtain ⟨found, looked, read⟩ := exists_of_bind_eq_ok read
  cases found with
  | none => exact RpcError.isNull_of_ofEnvelope looked
  | some error =>
    cases read
    cases unreported

theorem CodeReply.isNull_of_ofEnvelope {envelope : Members} {reply : CodeReply}
    (read : ofEnvelope envelope = .ok reply) (unreported : reply.error = none) :
    (Members.get "error" envelope).isNull = true := by
  obtain ⟨found, looked, read⟩ := exists_of_bind_eq_ok read
  cases found with
  | none => exact RpcError.isNull_of_ofEnvelope looked
  | some error =>
    cases read
    cases unreported

theorem CallReply.exists_verdict {reply : CallReply} :
    (∃ value, reply.verdict = .ok value) ↔ reply.reverted = false := by
  unfold verdict
  cases reply.reverted with
  | true => simp
  | false =>
    cases reply.value.present? with
    | some value => simp
    | none => cases reply.error <;> simp

namespace Act

variable {α β : Type} {endpoint : Endpoint} {asks : Given String → List Json → Prop}

def Takes (act : Act Link α) : Prop :=
  ∀ link, (act link).state.node = link.node.after (act link).trace.questions

theorem Speaks.takes {act : Act Link α} (spoken : act.Speaks endpoint asks) : act.Takes := by
  refine spoken.keeps (fun link shown left => left.node = link.node.after shown.questions)
    ?_ ?_ ?_
  · intro link shown quiet
    rw [Trace.questions, Trace.postings_of_quiet quiet]
    rfl
  · intro method params _ link
    cases targeted : endpoint.target method params with
    | error failure =>
      have shown := Provider.exchange_shows_nothing targeted link.node link rfl
      rw [shown.left, shown.questions]
      rfl
    | ok address =>
      have shown := Provider.exchange_shows targeted link.node link rfl
      rw [shown.left, shown.questions]
      rfl
  · intro link middle last shown later before behind
    rw [Trace.questions_append, Node.after_append, ← before, behind]

theorem Relays.ends_iff {method : Given String} {params : Except Failure (List Json)}
    {read : Members → Except Failure α} {act : Act Link α}
    (relays : act.Relays endpoint method params read) {link : Link} {reply : Http.Reply}
    (last : (act link).trace.lastReply? link.node = some reply) (a : α) :
    (act link).outcome = .ok a ↔
      ∃ envelope, endpoint.object? reply = some envelope ∧ read envelope = .ok a := by
  cases params with
  | error failure =>
    have failed : act = fail failure := relays
    rw [failed] at last
    cases last
  | ok params =>
    obtain ⟨questions, outcome⟩ := relays.runs link
    rw [Trace.lastReply?, questions] at last
    rw [outcome]
    cases targeted : endpoint.target method params with
    | error failure =>
      rw [(Provider.exchange_shows_nothing targeted link.node link rfl).questions] at last
      cases last
    | ok address =>
      have shown := Provider.exchange_shows targeted link.node link rfl
      rw [shown.questions] at last
      obtain rfl : link.node.next method = reply := Option.some.inj last
      rw [shown.outcome, Endpoint.object?, Endpoint.address_of_target targeted]
      constructor
      · intro ended
        obtain ⟨envelope, heard, ended⟩ := exists_of_bind_eq_ok ended
        exact ⟨envelope, Http.Reply.envelope_eq_ok_iff.mp heard, ended⟩
      · rintro ⟨envelope, heard, ended⟩
        exact bind_eq_ok (Http.Reply.envelope_of_object? heard _) ended

/-- An operation that heeds reported errors: with a good value it ends behind no reply that reports
one. -/
def Heeds (act : Act Link α) (good : α → Prop) : Prop :=
  ∀ link a, (act link).outcome = .ok a → good a →
    ∀ reply, (act link).trace.lastReply? link.node = some reply → reply.reports = false

namespace Heeds

variable {good : α → Prop} {act : Act Link α}

theorem of_unasked (unasked : ∀ link, (act link).trace.questions = []) : act.Heeds good := by
  intro link a _ _ reply last
  rw [Trace.lastReply?_of_unasked (unasked link)] at last
  cases last

theorem narrow {wanted : α → Prop} (heeds : act.Heeds wanted) (fewer : ∀ a, good a → wanted a) :
    act.Heeds good :=
  fun link a ended well => heeds link a ended (fewer a well)

theorem of_relays {method : Given String} {params : Except Failure (List Json)}
    {read : Members → Except Failure α} (relays : act.Relays endpoint method params read)
    (unreported : ∀ envelope a, read envelope = .ok a → good a →
      (Members.get "error" envelope).isNull = true) : act.Heeds good := by
  intro link a ended well reply last
  obtain ⟨envelope, heard, read⟩ := (relays.ends_iff last a).mp ended
  rw [Endpoint.reports_of_object? heard, unreported envelope a read well]
  rfl

/-- A sequence heeds errors if its parts do. The first part has to heed them for the values behind
which the second one ends well. -/
theorem bind {first : Act Link α} {next : α → Act Link β} {wanted : α → Prop} {good : β → Prop}
    (takes : first.Takes) (head : first.Heeds wanted)
    (tail : ∀ a, (next a).Heeds good)
    (needs : ∀ a link b, (next a link).outcome = .ok b → good b → wanted a) :
    (first >>= next).Heeds good := by
  intro link b ended well reply last
  cases begun : (first link).outcome with
  | error failure =>
    rw [bind_apply, begun] at ended
    cases ended
  | ok a =>
    rw [bind_apply, begun] at last ended
    simp only [Ran.after, Trace.lastReply?_append, ← takes link] at last ended
    -- the last reply is the one to the second part, if that asks anything
    cases later : (next a (first link).state).trace.lastReply? (first link).state.node with
    | some heard =>
      rw [later] at last
      cases last
      exact tail a _ b ended well _ later
    | none =>
      rw [later, Option.none_or] at last
      exact head link a begun (needs a _ b ended well) reply last

theorem behind {first : Act Link α} {next : α → Act Link β} {good : β → Prop}
    (takes : first.Takes) (unasked : ∀ link, (first link).trace.questions = [])
    (tail : ∀ a, (next a).Heeds good) : (first >>= next).Heeds good :=
  bind takes (of_unasked unasked) tail fun _ _ _ _ _ => trivial

theorem map (takes : act.Takes) {f : α → β} {good : β → Prop}
    (heeds : act.Heeds fun a => good (f a)) : (act >>= fun a => Pure.pure (f a)).Heeds good := by
  refine bind takes heeds (fun a => of_unasked fun _ => rfl) ?_
  intro a link b ended well
  cases ended
  exact well

end Heeds

end Act

namespace Provider

variable (endpoint : Endpoint)

theorem receipt_heeds (hash : Given String) : (receipt endpoint hash).Heeds fun _ => True :=
  .of_relays (receipt_relays endpoint hash) fun _ _ read _ => Receipt.isNull_of_ofEnvelope read

theorem incentiveAddress_heeds : (incentiveAddress endpoint).Heeds fun _ => True := by
  refine .of_relays (incentiveAddress_relays endpoint) fun envelope recipient read _ => ?_
  obtain ⟨found, read, -⟩ := exists_of_bind_eq_ok read
  exact Members.isNull_of_outcome read

theorem send_heeds (request : Request) :
    (send endpoint request).Heeds fun reply => reply.error = none :=
  .of_relays (send_relays endpoint request) fun _ _ read unreported =>
    SendReply.isNull_of_ofEnvelope (eq_ok_of_mapError read) unreported

theorem code_heeds (address : Given String) (block : BlockParameter) :
    (code endpoint address block).Heeds fun reply => reply.error = none :=
  .of_relays (code_relays endpoint address block) fun _ _ read unreported =>
    CodeReply.isNull_of_ofEnvelope (eq_ok_of_mapError read) unreported

end Provider

namespace Polling

variable (polling : Polling) {query : Given String → Act Link (Option Receipt)}
  {hash : Given String}

theorem poll_heeds (takes : (query hash).Takes) (heeds : (query hash).Heeds fun _ => True)
    (turns remaining : Nat) :
    (polling.poll query hash turns remaining).Heeds fun _ => True := by
  induction remaining with
  | zero =>
    refine .of_unasked fun link => ?_
    obtain ⟨failure, ended⟩ := polling.giveUp_fails turns hash link.node
    exact (ended link rfl).questions
  | succ remaining ih =>
    refine .bind takes heeds (fun found => ?_) fun _ _ _ _ _ => trivial
    cases found with
    | some receipt => exact .of_unasked fun _ => rfl
    | none =>
      refine .behind (fun _ => rfl) (fun _ => rfl) fun _ => ?_
      refine .behind (fun _ => rfl) (fun _ => rfl) fun _ => ?_
      split
      next =>
        have paused (link : Link) : (polling.pause link).state = link ∧
            (polling.pause link).trace.questions = [] := by
          rw [pause]
          cases polling.interval.toBinary64? <;> exact ⟨rfl, rfl⟩
        refine .behind (fun link => ?_) (fun link => (paused link).2) fun _ => ih
        rw [(paused link).1, (paused link).2]
        rfl
      next => exact ih

theorem wait_heeds (takes : (query hash).Takes) (heeds : (query hash).Heeds fun _ => True) :
    (polling.wait query hash).Heeds fun _ => True := by
  unfold wait
  split
  next => exact polling.poll_heeds takes heeds _ _
  next => exact .of_unasked fun _ => rfl

end Polling

namespace Account

variable (account : Account)

theorem recipient_heeds (terms : FeeTerms) : (account.recipient terms).Heeds fun _ => True := by
  cases terms with
  | legacy gasPrice => exact .of_unasked fun _ => rfl
  | market chainId tip cap => exact .of_unasked fun _ => rfl
  | incentive chainId tip cap =>
    have spoken : (Provider.incentiveAddress account.endpoint).Speaks account.endpoint
      fun _ _ => True := Provider.incentiveAddress_speaks trivial
    refine .bind spoken.takes (Provider.incentiveAddress_heeds _) (fun recipient => ?_)
      fun _ _ _ _ _ => trivial
    exact .of_unasked fun _ => rfl

theorem send_heeds (order : Order) :
    (account.send order).Heeds fun reply => reply.error = none := by
  rw [send_eq]
  refine .bind (account.recipient_speaks order).takes (account.recipient_heeds order.terms)
    (fun recipient => ?_) fun _ _ _ _ _ => trivial
  exact .behind (fun _ => rfl) (fun _ => rfl) (Provider.send_heeds account.endpoint)

end Account

theorem Manager.unreported_of_confirm {manager : Manager Link} {reply : SendReply} {link : Link}
    {receipt : Receipt} (confirmed : (manager.confirm reply link).outcome = .ok receipt) :
    reply.error = none := by
  cases reported : reply.error with
  | none => rfl
  | some error =>
    rw [confirm, reported] at confirmed
    cases confirmed

namespace Custody

variable (custody : Custody)

theorem await_heeds (hash : Given String) : (custody.await hash).Heeds fun _ => True := by
  have spoken : (Provider.receipt custody.account.endpoint hash).Speaks custody.account.endpoint
    fun _ _ => True := Provider.receipt_speaks trivial
  exact custody.polling.wait_heeds spoken.takes (Provider.receipt_heeds _ hash)

theorem confirm_heeds (reply : SendReply) :
    (custody.manager.confirm reply).Heeds fun _ => True := by
  unfold Manager.confirm
  cases reply.error with
  | some error => exact .of_unasked fun _ => rfl
  | none =>
    cases reply.hash.filter Given.isTruthy with
    | none => exact .of_unasked fun _ => rfl
    | some hash => exact .behind (fun _ => rfl) (fun _ => rfl) fun _ => custody.await_heeds hash

theorem execute_heeds (order : Order) : (custody.manager.execute order).Heeds fun _ => True :=
  .bind (custody.account.send_speaks order).takes (custody.account.send_heeds order)
    custody.confirm_heeds fun _ _ _ confirmed _ => Manager.unreported_of_confirm confirmed

theorem perform_call_relays (recipient data : Option (Given String)) (block : BlockParameter) :
    (custody.manager.perform (.call recipient data block)).Relays custody.account.endpoint
      (.fit "eth_call") (custody.account.callParams recipient data block)
      fun envelope => ((CallReply.ofEnvelope envelope).mapError .fault >>= CallReply.verdict) >>=
        fun value => .ok (.value value) :=
  (custody.call_relays recipient data block).map Answer.value

theorem call_answers_iff (recipient data : Option (Given String)) (block : BlockParameter)
    {link : Link} {reply : Http.Reply}
    (last : (custody.manager.perform (.call recipient data block) link).trace.lastReply? link.node =
      some reply) :
    (∃ answer, (custody.manager.perform (.call recipient data block) link).outcome = .ok answer ∧
        answer.verdict = .ok 0) ↔
      ∃ envelope answer, custody.account.endpoint.object? reply = some envelope ∧
        CallReply.ofEnvelope envelope = .ok answer ∧ answer.reverted = false := by
  have relays := custody.perform_call_relays recipient data block
  constructor
  · rintro ⟨answer, ended, -⟩
    obtain ⟨envelope, heard, ended⟩ := (relays.ends_iff last answer).mp ended
    obtain ⟨value, ended, -⟩ := exists_of_bind_eq_ok ended
    obtain ⟨found, looked, ended⟩ := exists_of_bind_eq_ok ended
    exact ⟨envelope, found, heard, eq_ok_of_mapError looked,
      CallReply.exists_verdict.mp ⟨value, ended⟩⟩
  · rintro ⟨envelope, found, heard, looked, unreverted⟩
    obtain ⟨value, ended⟩ := CallReply.exists_verdict.mpr unreverted
    refine ⟨.value value, (relays.ends_iff last _).mpr ⟨envelope, heard, ?_⟩, rfl⟩
    rw [looked]
    exact bind_eq_ok ended rfl

theorem perform_heeds (settings : Settings) {task : Cli.Task}
    (other : ∀ address data block, task ≠ .call address data block) :
    (custody.manager.perform (task.step settings)).Heeds fun answer => answer.verdict = .ok 0 := by
  cases task with
  | call address data block => exact absurd rfl (other address data block)
  | code address block =>
    have spoken : (Provider.code custody.account.endpoint (.fit address) block).Speaks
      custody.account.endpoint fun _ _ => True := Provider.code_speaks fun _ _ => trivial
    refine .map spoken.takes ((Provider.code_heeds _ _ _).narrow fun reply well => ?_)
    cases unreported : reply.error with
    | none => rfl
    | some error =>
      rw [Answer.verdict, unreported] at well
      cases well
  | send sending =>
    have heeds := custody.execute_heeds (sending.order (sending.fees settings.chainId))
    exact .map (custody.execute_speaks _).takes (heeds.narrow fun _ _ => trivial)
  | receipt hash =>
    have spoken : (custody.await (.fit hash)).Speaks custody.account.endpoint fun _ _ => True :=
      custody.await_speaks trivial
    exact .map spoken.takes ((custody.await_heeds _).narrow fun _ _ => trivial)

end Custody

namespace Cli

theorem Ends.zero_iff {ended outcome : Except Failure Int} {last : List String}
    (ends : Ends ended outcome last) : outcome = .ok 0 ↔ ended = .ok 0 := by
  cases ends <;> simp

theorem Report.Follows.questions {report : Report} {ran : Ran Link Answer}
    (follows : report.Follows ran) : report.trace.questions = ran.trace.questions := by
  rw [Trace.questions, follows.asked]
  rfl

theorem Report.Follows.lastReply? {report : Report} {ran : Ran Link Answer}
    (follows : report.Follows ran) (node : Node) :
    report.trace.lastReply? node = ran.trace.lastReply? node := by
  rw [Trace.lastReply?, follows.questions]
  rfl

theorem Report.Follows.zero_iff {report : Report} {ran : Ran Link Answer}
    (follows : report.Follows ran) :
    report.outcome = .ok 0 ↔ ∃ answer, ran.outcome = .ok answer ∧ answer.verdict = .ok 0 := by
  obtain ⟨-, -, -, before, last, -, ends⟩ := follows
  rw [ends.zero_iff]
  constructor
  · exact exists_of_bind_eq_ok
  · rintro ⟨answer, ended, well⟩
    exact bind_eq_ok ended well

namespace Invocation

variable (invocation : Invocation) (settings : Settings) (task : Task)

theorem body_cases (link : Link) :
    Narrates (invocation.body settings task) link (invocation.operation settings task link) ∨
      ∃ fault, Narrates (invocation.body settings task) link ⟨.error (.fault fault), link, []⟩ := by
  by_cases sends : task.needsSender = true → invocation.sender.isTruthy = true
  · cases complete : task.lacksFees settings with
    | false => exact .inl (body_narrates sends complete link)
    | true =>
      refine .inr ?_
      unfold body
      cases invocation.custody settings task with
      | error fault => exact ⟨fault, narrates_fail _ link⟩
      | ok custody =>
        obtain ⟨cause, narrates⟩ := task.narrates_of_lacksFees custody settings complete link
        exact ⟨_, narrates⟩
  · obtain ⟨needed, missing⟩ := Classical.not_imp.mp sends
    obtain ⟨cause, narrates⟩ :=
      body_of_refused (.sender needed (Bool.eq_false_iff.mpr missing)) link
    exact .inr ⟨_, narrates⟩

theorem operation_cases :
    (∃ failure, invocation.operation settings task = Act.fail failure) ∨
      ∃ custody : Custody, custody.account.endpoint = invocation.endpoint settings ∧
        invocation.operation settings task = custody.manager.perform (task.step settings) := by
  unfold operation
  cases built : Custody.check (invocation.endpoint settings) invocation.caller invocation.attempts
    invocation.interval with
  | error fault => exact .inl ⟨_, rfl⟩
  | ok custody => exact .inr ⟨custody, (Custody.of_check built).1, rfl⟩

end Invocation

section Exit

variable {settings : Settings} {words : List String} {invocation : Invocation} {task : Task}
  {node : Node} {reply : Http.Reply}

/-- Whether a reply answers a task: the task is a call, and the reply does not tell of a revert. -/
def Task.IsAnswered (task : Task) (endpoint : Endpoint) (reply : Http.Reply) : Prop :=
  (∃ address data block, task = .call address data block) ∧
    ∃ envelope answer, endpoint.object? reply = some envelope ∧
      CallReply.ofEnvelope envelope = .ok answer ∧ answer.reverted = false

theorem follows_of_lastReply? (read : Invocation.read settings words = .ok invocation)
    (asked : invocation.task = some task)
    (last : (run settings node words).trace.lastReply? node = some reply) :
    (run settings node words).Follows (invocation.operation settings task { node }) ∧
      (invocation.operation settings task { node }).trace.lastReply? node = some reply := by
  have follows : (run settings node words).Follows
      (invocation.operation settings task { node }) := by
    cases logged : Log.setup settings (some invocation.logLevel) (some invocation.logFormat) with
    | error fault =>
      have unasked : (run settings node words).trace = [] := by
        simp only [run, read, asked, logged]
      rw [unasked] at last
      cases last
    | ok setup =>
      obtain ⟨ended, traced, printed⟩ := run_of_read read asked logged node
      obtain narrates | ⟨fault, narrates⟩ := invocation.body_cases settings task { node }
      · exact narrates.follows (invocation.lines_operation settings task _) ended traced printed
      · have unasked := (narrates.follows rfl ended traced printed).questions
        rw [Trace.lastReply?_of_unasked unasked] at last
        cases last
  exact ⟨follows, (follows.lastReply? node).symm.trans last⟩

theorem operation_well_iff
    (last : (invocation.operation settings task { node }).trace.lastReply? node = some reply)
    (reported : reply.reports = true) :
    (∃ answer, (invocation.operation settings task { node }).outcome = .ok answer ∧
        answer.verdict = .ok 0) ↔ task.IsAnswered (invocation.endpoint settings) reply := by
  obtain ⟨failure, failed⟩ | ⟨custody, same, performed⟩ := invocation.operation_cases settings task
  · rw [failed] at last
    cases last
  · rw [performed] at last ⊢
    by_cases called : ∃ address data block, task = .call address data block
    · obtain ⟨address, data, block, rfl⟩ := called
      rw [← same]
      exact (custody.call_answers_iff _ _ _ last).trans ⟨fun told => ⟨⟨_, _, _, rfl⟩, told⟩, (·.2)⟩
    · have heeds := custody.perform_heeds settings fun address data block same =>
        called ⟨address, data, block, same⟩
      refine iff_of_false ?_ fun answered => called answered.1
      rintro ⟨answer, ended, well⟩
      rw [heeds _ answer ended well reply last] at reported
      cases reported

/-- Behind a reply that reports an error the program exits with zero only if it was asked for a call
and the reply does not tell of a revert; and then it does, if what the node sends can be printed. -/
theorem exits_zero_iff (read : Invocation.read settings words = .ok invocation)
    (asked : invocation.task = some task)
    (last : (run settings node words).trace.lastReply? node = some reply)
    (reported : reply.reports = true) :
    ((run settings node words).outcome = .ok 0 →
        task.IsAnswered (invocation.endpoint settings) reply) ∧
      (node.IsWhole → task.IsAnswered (invocation.endpoint settings) reply →
        (run settings node words).outcome = .ok 0) := by
  obtain ⟨follows, last⟩ := follows_of_lastReply? read asked last
  rw [follows.zero_iff]
  have well := operation_well_iff last reported
  exact ⟨well.mp, fun _ => well.mpr⟩

end Exit

def calling : Invocation :=
  { Invocation.ofSettings (pausing 1) with task := some (.call "0x2" none .latest) }

theorem read_calling : Invocation.read (pausing 1) ["call", "0x2"] = .ok calling := by
  simp [Invocation.read, Grammar.read, Grammar.items, Grammar.meaning, Grammar.take,
    Grammar.takeOperands, invocationGrammar, callGrammar, readTask, fill, operand,
    Operand.group?, Item.isOption, Item.isDashes, Item.isWord, settle, calling,
    Invocation.ofSettings, pausing, Except.map, bind, Except.bind, pure, Except.pure]

def complaining (code : Int) : Node :=
  { replies := fun _ _ => Node.enveloped (Endpoint.coded (.int code)) }

theorem follows_calling (node : Node) :
    (run (pausing 1) node ["call", "0x2"]).Follows
      ((Custody.sample "http://n").manager.perform (.call (some (.fit "0x2")) none .latest)
        { node }) := by
  obtain ⟨setup, logged⟩ := exists_setup_pausing 1
  exact follows_of_complete read_calling rfl logged (fun _ => rfl) rfl node

theorem last_calling (node : Node) :
    ((Custody.sample "http://n").manager.perform (.call (some (.fit "0x2")) none .latest)
      { node }).trace.lastReply? node = some (node.next (.fit "eth_call")) := by
  let params : List Json := [.object [("from", .text "0x1"), ("to", .text "0x2")], .text "latest"]
  have written : (Custody.sample "http://n").account.callParams (some (.fit "0x2")) none .latest =
      .ok params := rfl
  have relays := (Custody.sample "http://n").perform_call_relays (some (.fit "0x2")) none .latest
  rw [written] at relays
  have targeted : (Endpoint.plain "http://n").target (.fit "eth_call") params =
      .ok Endpoint.sampleAddress := Endpoint.target_of_address Endpoint.address_plain rfl
  have asked := (Provider.exchange_shows targeted node { node } rfl).questions
  rw [Trace.lastReply?, (relays.runs { node }).1]
  exact congrArg (fun questions => (node.answers questions).getLast?) asked

theorem lastReply?_calling (node : Node) :
    (run (pausing 1) node ["call", "0x2"]).trace.lastReply? node =
      some (node.next (.fit "eth_call")) :=
  ((follows_calling node).lastReply? node).trans (last_calling node)

theorem isWhole_complaining (code : Int) : (complaining code).IsWhole :=
  fun _ _ => Http.Body.isWhole_value _

theorem exits_zero_iff_reverting :
    Invocation.read (pausing 1) ["call", "0x2"] = .ok calling ∧
      calling.task = some (.call "0x2" none .latest) ∧
      ((run (pausing 1) (complaining 3) ["call", "0x2"]).trace.lastReply? (complaining 3) =
          some (Node.enveloped (Endpoint.coded (.int 3))) ∧
        (Node.enveloped (Endpoint.coded (.int 3))).reports = true ∧
        (run (pausing 1) (complaining 3) ["call", "0x2"]).outcome ≠ .ok 0) ∧
      (run (pausing 1) (complaining 4) ["call", "0x2"]).trace.lastReply? (complaining 4) =
          some (Node.enveloped (Endpoint.coded (.int 4))) ∧
        (Node.enveloped (Endpoint.coded (.int 4))).reports = true ∧ (complaining 4).IsWhole ∧
        (run (pausing 1) (complaining 4) ["call", "0x2"]).outcome = .ok 0 := by
  refine ⟨read_calling, rfl, ⟨lastReply?_calling _, rfl, fun zero => ?_⟩, lastReply?_calling _, rfl,
    isWhole_complaining 4, ?_⟩
  · obtain ⟨-, envelope, answer, heard, looked, unreverted⟩ :=
      (exits_zero_iff read_calling rfl (lastReply?_calling _) rfl).1 zero
    obtain rfl : Endpoint.coded (.int 3) = envelope :=
      Option.some.inj ((Endpoint.object?_enveloped _).symm.trans heard)
    cases looked
    cases unreverted
  · refine (exits_zero_iff read_calling rfl (lastReply?_calling _) rfl).2 (isWhole_complaining 4) ?_
    exact ⟨⟨_, _, _, rfl⟩, _, _, Endpoint.object?_enveloped (Endpoint.coded (.int 4)), rfl, rfl⟩

/-- An error that does not tell of a revert does not keep a call from exiting with zero. -/
theorem calls_exit_with_zero :
    Invocation.read (pausing 1) ["call", "0x2"] = .ok calling ∧
      calling.task = some (.call "0x2" none .latest) ∧
      let node := complaining (-32000)
      let report := run (pausing 1) node ["call", "0x2"]
      ∃ reply, report.trace.lastReply? node = some reply ∧ reply.reports = true ∧
        report.outcome = .ok 0 := by
  refine ⟨read_calling, rfl, _, lastReply?_calling _, rfl, ?_⟩
  refine (follows_calling _).zero_iff.mpr ?_
  refine (Custody.call_answers_iff _ _ _ _ (last_calling _)).mpr ?_
  exact ⟨_, _, Endpoint.object?_enveloped (Endpoint.coded (.int (-32000))), rfl, rfl⟩

end Cli

end TxSubmission
