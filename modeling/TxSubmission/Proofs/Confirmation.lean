import TxSubmission.Proofs.Submission
import TxSubmission.Proofs.Waiting
import TxSubmission.Session

/-!
Executing an order. The questions of one execution come in three parts: what is looked up, one
submission at most, and the questions for the receipt. The third part is there exactly if the reply
to the submission accepts the transaction, and it asks for the hash of that reply alone; without it
nothing is slept and the execution fails, with the error of the node if the node named one.
-/

namespace TxSubmission

open Number

namespace Manager

theorem confirm_hash (manager : Manager Link) {hash : String} (inhabited : hash ≠ "") :
    manager.confirm { hash := some (.fit hash) } =
      Act.log .info .manager ("Transaction submitted: " ++ hash) >>= fun _ =>
        manager.await (.fit hash) := by
  have kept : (some (Given.fit hash)).filter Given.isTruthy = some (.fit hash) := by
    rw [Option.filter_some, (isTruthy_text hash).mpr inhabited]
    rfl
  unfold confirm
  dsimp only
  rw [kept]
  rfl

theorem confirm_of_hash (manager : Manager Link) {hash : String} (inhabited : hash ≠ "")
    {node : Node} {outcome : Except Failure Receipt} {questions : List Question}
    {sleeps : List Amount} {left : Node}
    (awaited : (manager.await (.fit hash)).Shows node outcome questions sleeps left) :
    (manager.confirm { hash := some (.fit hash) }).Shows node outcome questions sleeps left := by
  rw [manager.confirm_hash inhabited]
  exact Act.Shows.log_bind awaited

theorem confirm_of_error (manager : Manager Link) (error : RpcError) (node : Node) :
    (manager.confirm { error := some error }).Shows node
      (.error (.execution (.rejected error none))) [] [] node :=
  Act.Shows.log_bind (Act.Shows.fail _ node)

end Manager

namespace Custody

variable {endpoint : Endpoint} {sender : Given String} {attempts : Int} {interval : Amount}
  {custody : Custody}

theorem of_check {attempts : Given Int} {interval : Given Amount}
    (built : check endpoint sender attempts interval = .ok custody) :
    custody.account.endpoint = endpoint ∧ custody.account.address = sender ∧
      Polling.check attempts interval = .ok custody.polling := by
  obtain ⟨account, held, built⟩ := exists_of_bind_eq_ok built
  obtain ⟨polling, budgeted, built⟩ := exists_of_bind_eq_ok built
  cases built
  unfold Account.check at held
  split at held
  next =>
    cases held
    exact ⟨rfl, rfl, budgeted⟩
  next => cases held

theorem await_shows (budgeted : Polling.check (.fit attempts) (.fit interval) = .ok custody.polling)
    {address : Http.Address} (read : custody.account.endpoint.address = .ok address)
    (hash : String) (node : Node) :
    ∃ asked outcome sleeps left,
      (custody.await (.fit hash)).Shows node outcome
        (List.replicate asked (.receipt address hash)) sleeps left ∧
      0 < asked ∧ (asked : Int) ≤ attempts := by
  obtain ⟨enough, -, counted, -⟩ := Polling.check_eq_ok_iff.mp budgeted
  obtain ⟨asked, outcome, sleeps, left, goes, bounded, inhabited⟩ :=
    Polling.poll_asks custody.polling read hash attempts.toNat attempts.toNat node
  refine ⟨asked, outcome, sleeps, left, ?_, inhabited (by omega), by omega⟩
  unfold await
  rw [Polling.wait_eq_poll counted]
  exact goes

/-- How an execution goes on behind its lookup: nothing is submitted, or the reply to a submission
does not accept it, or it does and its hash is waited for. -/
inductive Executes (custody : Custody) (attempts : Int) (order : Order) (node : Node) :
    Except Failure Receipt → List Question → List Question → List Amount → Prop
  | unsent {failure : Failure} (sends : custody.account.Sends order node (.error failure) []) :
      Executes custody attempts order node (.error failure) [] [] []
  | settled {submitted : Except Failure SendReply} {submission : Question} {failure : Failure}
      (sends : custody.account.Sends order node submitted [submission])
      (unaccepted : custody.account.endpoint.token?
        (custody.account.endpoint.verdict order.terms node) = none)
      (rejected : ∀ error, custody.account.endpoint.rejection?
        (custody.account.endpoint.verdict order.terms node) = some error →
          failure = .execution (.rejected error none)) :
      Executes custody attempts order node (.error failure) [submission] [] []
  | awaited {submitted : Except Failure SendReply} {submission : Question}
      {address : Http.Address} {hash : String} {asked : Nat} {outcome : Except Failure Receipt}
      {sleeps : List Amount} (sends : custody.account.Sends order node submitted [submission])
      (accepted : custody.account.endpoint.token?
        (custody.account.endpoint.verdict order.terms node) = some hash)
      (inhabited : 0 < asked) (bounded : (asked : Int) ≤ attempts) :
      Executes custody attempts order node outcome [submission]
        (List.replicate asked (.receipt address hash)) sleeps

theorem execute_shows
    (budgeted : Polling.check (.fit attempts) (.fit interval) = .ok custody.polling)
    (order : Order) (node : Node) :
    ∃ outcome submissions receipts sleeps left,
      (custody.manager.execute order).Shows node outcome
        (custody.account.endpoint.lookups order.terms ++ submissions ++ receipts) sleeps left ∧
      custody.Executes attempts order node outcome submissions receipts sleeps := by
  obtain ⟨submitted, submissions, left, sent, how⟩ := custody.account.send_shows order node
  cases how with
  | unsent =>
    have ended := sent.bind_error custody.manager.confirm
    rw [← List.append_nil (_ ++ _)] at ended
    exact ⟨_, [], [], [], left, ended, .unsent .unsent⟩
  | @sent address recipient request entries submitted read named built wired concludes =>
    have sends := Account.Sends.sent read named built wired concludes
    cases concludes with
    | @accepted hash token =>
      obtain ⟨asked, outcome, sleeps, last, awaited, inhabited, bounded⟩ :=
        await_shows budgeted read hash left
      have waited := custody.manager.confirm_of_hash (Endpoint.token?_inhabited token) awaited
      exact ⟨outcome, _, _, sleeps, last, sent.bind waited,
        .awaited sends token inhabited bounded⟩
    | @rejected error named =>
      have refused := custody.manager.confirm_of_error error left
      refine ⟨_, _, [], [], left, sent.bind refused, .settled sends ?_ ?_⟩
      · exact Endpoint.token?_of_rejection named
      · intro other same
        rw [named] at same
        cases same
        rfl
    | failed unaccepted unrejected =>
      have ended := sent.bind_error custody.manager.confirm
      rw [← List.append_nil (_ ++ _)] at ended
      refine ⟨_, _, [], [], left, ended, .settled sends unaccepted ?_⟩
      intro error named
      rw [unrejected] at named
      cases named

/-- The course of an execution: its submissions and its questions for the receipt. -/
structure Confirms (endpoint : Endpoint) (terms : FeeTerms) (attempts : Int) (node : Node)
    (ran : Ran Link Receipt) (submissions receipts : List Question) : Prop where
  asked : ran.trace.questions = endpoint.lookups terms ++ submissions ++ receipts
  once : submissions.length ≤ 1
  submitting : ∀ question ∈ submissions, question.method = .fit Provider.sendMethod
  addressed : ∀ fault, endpoint.address = .error fault → submissions = []
  bounded : (receipts.length : Int) ≤ attempts
  awaited : receipts ≠ [] ↔
    submissions ≠ [] ∧ (endpoint.token? (endpoint.verdict terms node)).isSome = true
  hashed : ∀ question ∈ receipts, question.method = .fit Provider.receiptMethod ∧
    ∃ hash, question.params = [.text hash] ∧
      endpoint.token? (endpoint.verdict terms node) = some hash
  quiet : receipts = [] → ran.trace.sleeps = [] ∧ ∃ failure, ran.outcome = .error failure
  rejected : submissions ≠ [] → ∀ error,
    endpoint.rejection? (endpoint.verdict terms node) = some error →
      ran.outcome = .error (.execution (.rejected error none))

/-- Every execution of every order runs such a course. -/
theorem execute_confirms
    (built : check endpoint sender (.fit attempts) (.fit interval) = .ok custody) (order : Order)
    (link : Link) (_ : link.node.IsWhole) :
    ∃ submissions receipts,
      Confirms endpoint order.terms attempts link.node (custody.manager.execute order link)
        submissions receipts := by
  obtain ⟨rfl, -, budgeted⟩ := of_check built
  obtain ⟨allowed, -⟩ := Polling.check_eq_ok_iff.mp budgeted
  obtain ⟨outcome, submissions, receipts, sleeps, left, course, how⟩ :=
    execute_shows budgeted order link.node
  have shown := course link rfl
  refine ⟨submissions, receipts, ?_⟩
  cases how with
  | unsent =>
    exact
      { asked := shown.questions
        once := Nat.zero_le 1
        submitting := nofun
        addressed := fun _ _ => rfl
        bounded := by
          rw [List.length_nil]
          omega
        awaited := ⟨fun waiting => absurd rfl waiting, fun sent => absurd rfl sent.1⟩
        hashed := nofun
        quiet := fun _ => ⟨shown.sleeps, _, shown.outcome⟩
        rejected := fun sent => absurd rfl sent }
  | settled sends unaccepted rejected =>
    exact
      { asked := shown.questions
        once := Nat.le_refl 1
        submitting := sends.submitting
        addressed := fun _ unreadable => sends.of_unreadable unreadable
        bounded := by
          rw [List.length_nil]
          omega
        awaited := by simp [unaccepted]
        hashed := nofun
        quiet := fun _ => ⟨shown.sleeps, _, shown.outcome⟩
        rejected := fun _ error named => by rw [shown.outcome, rejected error named] }
  | @awaited submitted submission address hash asked outcome sleeps sends accepted inhabited
      bounded =>
    have waiting : List.replicate asked (Question.receipt address hash) ≠ [] := by
      intro unasked
      rw [List.replicate_eq_nil_iff] at unasked
      omega
    have unrejected := Endpoint.rejection?_of_token accepted
    refine
      { asked := shown.questions
        once := Nat.le_refl 1
        submitting := sends.submitting
        addressed := fun _ unreadable => sends.of_unreadable unreadable
        bounded := by rwa [List.length_replicate]
        awaited := by simp [waiting, accepted]
        hashed := ?_
        quiet := fun unasked => absurd unasked waiting
        rejected := fun _ error named => by simp [unrejected] at named }
    intro question member
    rw [List.eq_of_mem_replicate member]
    exact ⟨rfl, hash, rfl, accepted⟩

def sample (url : String) : Custody where
  account := { endpoint := .plain url, address := .fit "0x1", address_given := by decide }
  polling := .brief

theorem check_sample (url : String) :
    check (.plain url) (.fit "0x1") (.fit 2) (.fit (.whole 1)) = .ok (sample url) := rfl

theorem execute_confirms_sample :
    check (.plain "http://n") (.fit "0x1") (.fit 2) (.fit (.whole 1)) = .ok (sample "http://n") ∧
      Node.silent.IsWhole ∧ ∃ submissions receipts,
        Confirms (.plain "http://n") (.legacy (some (.fit 1))) 2 Node.silent
          ((sample "http://n").manager.execute { terms := .legacy (some (.fit 1)) }
            { node := Node.silent }) submissions receipts :=
  ⟨check_sample "http://n", Node.isWhole_silent,
    execute_confirms (check_sample "http://n") { terms := .legacy (some (.fit 1)) }
      { node := Node.silent } Node.isWhole_silent⟩

theorem execute_of_unreadable {fault : Fault}
    (unreadable : custody.account.endpoint.address = .error fault) (order : Order) (link : Link) :
    (custody.manager.execute order link).trace.questions = [] := by
  obtain ⟨outcome, submissions, left, sent, how⟩ := custody.account.send_shows order link.node
  have unasked := Endpoint.lookups_of_unreadable unreadable order.terms
  have unsubmitted := how.of_unreadable unreadable
  subst unsubmitted
  rw [unasked] at sent
  cases how with
  | unsent => exact (sent.bind_error custody.manager.confirm link rfl).questions

/-- A lookup is not always asked for, and a submission that the node accepts not always waited for:
an address may be unreadable, or say nothing of its host. -/
theorem execute_not_always_asks :
    ((sample "http://[::1").manager.execute
      { terms := .incentive (some (.fit 1)) (some (.fit 1)) (some (.fit 1)) }
      { node := Node.accepting }).trace.questions = [] ∧
    Node.accepting.next (.fit Provider.sendMethod) = Node.enveloped [("result", .text "0x1")] ∧
    ((sample "").manager.execute { terms := .legacy (some (.fit 1)) }
      { node := Node.accepting }).trace.methods = [.fit Provider.sendMethod] := by
  obtain ⟨fault, unreadable⟩ := Endpoint.address_plain_bracket
  exact ⟨execute_of_unreadable unreadable _ _, rfl, rfl⟩

end Custody

end TxSubmission
