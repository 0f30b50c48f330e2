import TxSubmission.Custody
import TxSubmission.Proofs.Exchange

/-!
Waiting for a receipt. A reply is pending if it carries an object without an error and with a
result that does not count as true. The first reply ahead that is not pending decides the wait,
which has asked once for that reply and for each one before it and has slept between two questions;
if the replies to all attempts are pending, the wait is in vain. Behind its first pending reply a
wait stalls if it cannot tell the number of attempts or cannot sleep.
-/

namespace TxSubmission

open Number

def Provider.receiptMethod : String := "eth_getTransactionReceipt"

def Question.receipt (address : Http.Address) (hash : String) : Question :=
  ⟨address.text, .fit Provider.receiptMethod, [.text hash]⟩

/-- Whether a reply says that a transaction is pending. -/
def Http.Reply.isPending (address : Http.Address) (reply : Http.Reply) : Bool :=
  (reply.object? address).any fun envelope =>
    (Members.get "error" envelope).isNull && !(Members.get "result" envelope).isTruthy

/-- How a reply to the question for a receipt ends a wait: the exchange failed or its body cannot
be read, the node reported an error, which is raised with a note or cannot be read, or the node has
a result, which is a receipt, cannot be read as one or is no object. -/
inductive Http.Reply.Decides (address : Http.Address) (reply : Http.Reply) :
    Except Failure Receipt → Prop
  | lost {cause : TransportCause}
      (broken : reply.envelope address Provider.receiptMethod =
        .error (.execution (.transport cause))) :
      Decides address reply (.error (.execution (.transport cause)))
  | unread {fault : Fault}
      (misread : reply.envelope address Provider.receiptMethod = .error (.fault fault)) :
      Decides address reply (.error (.fault fault))
  | refused {envelope : Members} {error : RpcError}
      (heard : reply.object? address = some envelope)
      (present : (Members.get "error" envelope).isNull = false)
      (reported : RpcError.ofJson (Members.get "error" envelope) = .ok error) :
      Decides address reply
        (.error (.execution
          (.rpc error (some (.fit ("Error processing request: " ++ error.message.display))))))
  | garbled {envelope : Members} {fault : Fault}
      (heard : reply.object? address = some envelope)
      (present : (Members.get "error" envelope).isNull = false)
      (misread : RpcError.ofJson (Members.get "error" envelope) = .error fault) :
      Decides address reply (.error (.fault fault))
  | found {envelope members : Members} {receipt : Receipt}
      (heard : reply.object? address = some envelope)
      (absent : (Members.get "error" envelope).isNull = true)
      (result : Members.get "result" envelope = .object members)
      (parsed : Receipt.ofMembers members = .ok receipt)
      (kept : receipt.raw = .object members) :
      Decides address reply (.ok receipt)
  | malformed {envelope members : Members} {fault : Fault}
      (heard : reply.object? address = some envelope)
      (absent : (Members.get "error" envelope).isNull = true)
      (result : Members.get "result" envelope = .object members)
      (misread : Receipt.ofMembers members = .error fault) :
      Decides address reply (.error (.fault fault))
  | shapeless {envelope : Members}
      (heard : reply.object? address = some envelope)
      (absent : (Members.get "error" envelope).isNull = true)
      (truthy : (Members.get "result" envelope).isTruthy = true)
      (different : ∀ members, Members.get "result" envelope ≠ .object members) :
      Decides address reply (.error (.fault .notObject))

theorem Http.Reply.Decides.unique {address : Http.Address} {reply : Http.Reply}
    {outcome other : Except Failure Receipt} (decides : reply.Decides address outcome)
    (again : reply.Decides address other) : outcome = other := by
  have silent {failure : Failure}
      (lost : reply.envelope address Provider.receiptMethod = .error failure) :
      reply.object? address = none := by
    rw [Option.eq_none_iff_forall_ne_some]
    intro members heard
    rw [envelope_of_object? heard] at lost
    cases lost
  cases decides <;> cases again <;> grind

theorem Receipt.raw_of_ofMembers {members : Members} {receipt : Receipt}
    (parsed : ofMembers members = .ok receipt) : receipt.raw = .object members := by
  obtain ⟨blockNumber, -, parsed⟩ := exists_of_bind_eq_ok parsed
  obtain ⟨gasUsed, -, parsed⟩ := exists_of_bind_eq_ok parsed
  obtain ⟨status, -, parsed⟩ := exists_of_bind_eq_ok parsed
  cases parsed
  rfl

theorem Json.asObject_of_ne {α : Type} {read : Members → Except Fault α} {value : Json}
    (different : ∀ members, value ≠ .object members) : value.asObject read = .error .notObject := by
  cases value with
  | object members => exact absurd rfl (different members)
  | _ => rfl

namespace Provider

variable {endpoint : Endpoint} {address : Http.Address} {node : Node}

theorem receipt_targeted (read : endpoint.address = .ok address) (hash : String) :
    endpoint.target (.fit receiptMethod) [(Given.fit hash).toJson] = .ok address :=
  Endpoint.target_of_address read rfl

theorem receipt_of_pending (read : endpoint.address = .ok address) (hash : String)
    (pending : (node.ahead receiptMethod 0).isPending address = true) :
    (receipt endpoint (.fit hash)).Shows node (.ok none) [.receipt address hash] []
      (node.advance (.fit receiptMethod)) := by
  obtain ⟨envelope, heard, silent⟩ := (Option.any_eq_true _ _).mp pending
  rw [Bool.and_eq_true, Bool.not_eq_true'] at silent
  unfold receipt
  refine exchange_unreported (receipt_targeted read hash) heard silent.1 ?_
  dsimp only
  rw [if_neg (by rw [silent.2]; decide)]
  exact Act.Shows.pure none _

theorem receipt_of_decisive (read : endpoint.address = .ok address) (hash : String)
    (decisive : (node.ahead receiptMethod 0).isPending address = false) :
    ∃ outcome, (node.ahead receiptMethod 0).Decides address outcome ∧
      (receipt endpoint (.fit hash)).Shows node (outcome.map some) [.receipt address hash] []
        (node.advance (.fit receiptMethod)) := by
  have targeted := receipt_targeted read hash
  unfold receipt
  cases heard : (node.ahead receiptMethod 0).object? address with
  | none =>
    obtain ⟨cause, lost⟩ | ⟨fault, lost⟩ :=
      Http.Reply.envelope_error_of_object? heard receiptMethod
    · exact ⟨_, .lost lost, exchange_lost targeted lost _⟩
    · exact ⟨_, .unread lost, exchange_lost targeted lost _⟩
  | some envelope =>
    cases absent : (Members.get "error" envelope).isNull with
    | false =>
      cases reported : RpcError.ofJson (Members.get "error" envelope) with
      | error fault =>
        exact ⟨_, .garbled heard absent reported, exchange_garbled targeted heard absent reported _⟩
      | ok error =>
        refine ⟨_, .refused heard absent reported,
          exchange_reported targeted heard absent reported ?_⟩
        exact Act.Shows.fail _ _
    | true =>
      have truthy : (Members.get "result" envelope).isTruthy = true := by
        simpa [Http.Reply.isPending, heard, absent] using decisive
      by_cases object : ∃ members, Members.get "result" envelope = .object members
      · obtain ⟨members, result⟩ := object
        cases parsed : Receipt.ofMembers members with
        | error fault =>
          refine ⟨_, .malformed heard absent result parsed,
            exchange_unreported targeted heard absent ?_⟩
          dsimp only
          rw [if_pos truthy, result, Json.asObject, parsed]
          exact Act.Shows.fail _ _
        | ok receipt =>
          have kept := Receipt.raw_of_ofMembers parsed
          refine ⟨_, .found heard absent result parsed kept,
            exchange_unreported targeted heard absent ?_⟩
          dsimp only
          rw [if_pos truthy, result, Json.asObject, parsed]
          exact Act.Shows.pure _ _
      · have different : ∀ members, Members.get "result" envelope ≠ .object members :=
          fun members result => object ⟨members, result⟩
        refine ⟨_, .shapeless heard absent truthy different,
          exchange_unreported targeted heard absent ?_⟩
        dsimp only
        rw [if_pos truthy, Json.asObject_of_ne different]
        exact Act.Shows.fail _ _

end Provider

namespace Polling

variable {endpoint : Endpoint} {address : Http.Address} {polling : Polling}

theorem check_eq_ok_iff {attempts : Int} {interval : Amount} :
    check (.fit attempts) (.fit interval) = .ok polling ↔
      1 ≤ attempts ∧ interval.isBelowZero = false ∧ polling.attempts = .fit attempts ∧
        polling.interval = interval := by
  have few : isTooFew (.fit attempts) = true ↔ attempts < 1 := by
    simp [isTooFew, turns?]
  unfold check
  rw [if_neg (by simp [isNumber, turns?])]
  by_cases small : attempts < 1
  · rw [dif_pos (few.mpr small)]
    constructor
    · intro built
      cases built
    · intro built
      omega
  · rw [dif_neg (fun more => small (few.mp more))]
    simp only [intervalOf, bind, Except.bind]
    by_cases below : interval.isBelowZero = true
    · rw [dif_pos below]
      simp [below]
    · rw [dif_neg below]
      obtain ⟨kept, pause, enough, fits⟩ := polling
      constructor
      · intro built
        cases built
        exact ⟨by omega, Bool.eq_false_iff.mpr below, rfl, rfl⟩
      · rintro ⟨-, -, rfl, rfl⟩
        rfl

theorem attemptsText_of_short {attempts : Int} (counted : polling.attempts = .fit attempts)
    (short : attempts.natAbs < Nat.pow 10 maxDecimalDigits) :
    polling.attemptsText = .ok (decimalText attempts) := by
  rw [attemptsText, counted]
  exact congrArg (Except.mapError _) (shown_of_short short)

/-- Why a wait with attempts left cannot go on behind a pending reply: the number of attempts has
too many digits to be told, or the pause is greater than every binary number. -/
def stall? (attempts : Int) (interval : Amount) : Option Fault :=
  if attempts.natAbs < Nat.pow 10 maxDecimalDigits then
    if interval.toBinary64?.isSome then none else some .outOfRange
  else some (.invalid (.literal .tooLongToShow))

theorem stall?_eq_none_iff {attempts : Int} {interval : Amount} :
    stall? attempts interval = none ↔
      attempts.natAbs < Nat.pow 10 maxDecimalDigits ∧ interval.toBinary64?.isSome = true := by
  unfold stall?
  split
  next short =>
    cases interval.toBinary64? with
    | none => exact ⟨nofun, fun both => nomatch both.2⟩
    | some seconds => exact ⟨fun _ => ⟨short, rfl⟩, fun _ => rfl⟩
  next long => exact ⟨nofun, fun both => absurd both.1 long⟩

theorem steady_of_stall? {turns : Int} (counted : turns? polling.attempts = some turns)
    (unstalled : stall? turns polling.interval = none) :
    (∃ text, polling.attemptsText = .ok text) ∧ polling.interval.toBinary64?.isSome = true := by
  obtain ⟨short, timed⟩ := stall?_eq_none_iff.mp unstalled
  refine ⟨?_, timed⟩
  cases given : polling.attempts with
  | fit attempts =>
    rw [given] at counted
    cases counted
    exact ⟨_, attemptsText_of_short given short⟩
  | odd value =>
    rw [attemptsText, given]
    exact ⟨_, rfl⟩

theorem pause_shows (polling : Polling) (timed : polling.interval.toBinary64?.isSome = true)
    (node : Node) : (polling.pause : Act Link Unit).Shows node (.ok ()) [] [polling.interval]
      node := by
  obtain ⟨seconds, timed⟩ := Option.isSome_iff_exists.mp timed
  rw [pause, timed]
  exact Act.Shows.slept _ node

theorem pause_shows_nothing (polling : Polling) (untimed : polling.interval.toBinary64? = none)
    (node : Node) :
    (polling.pause : Act Link Unit).Shows node (.error (.fault .outOfRange)) [] [] node := by
  rw [pause, untimed]
  exact Act.Shows.fail _ node

def vain (polling : Polling) (turns : Nat) (hash : Given String) : Failure :=
  match (polling.interval.times? turns).bind Amount.toBinary64? with
  | some waited =>
    .execution
      (.timedOut (.fit (timeoutText hash.display waited.duration)) hash polling.attempts)
  | none => .fault .outOfRange

theorem giveUp_shows (polling : Polling) {text : String} (told : polling.attemptsText = .ok text)
    (turns : Nat) (hash : Given String) (node : Node) :
    (polling.giveUp turns hash : Act Link Receipt).Shows node (.error (polling.vain turns hash))
      [] [] node := by
  unfold giveUp vain
  rw [told]
  cases polling.interval.times? turns with
  | none => exact Act.Shows.fail _ _
  | some total =>
    simp only [pure_bind, Option.bind_some, Act.ofFault_ok]
    apply Act.Shows.log_bind
    cases total.toBinary64? with
    | none => exact Act.Shows.fail _ _
    | some waited => exact Act.Shows.fail _ _

theorem giveUp_fails (polling : Polling) (turns : Nat) (hash : Given String) (node : Node) :
    ∃ failure, (polling.giveUp turns hash : Act Link Receipt).Shows node (.error failure) [] []
      node := by
  cases told : polling.attemptsText with
  | ok text => exact ⟨_, polling.giveUp_shows told turns hash node⟩
  | error fault =>
    unfold giveUp
    rw [told]
    cases polling.interval.times? turns with
    | none => exact ⟨_, Act.Shows.fail _ _⟩
    | some total => exact ⟨.fault fault, Act.Shows.fail _ _⟩

theorem poll_of_pending (read : endpoint.address = .ok address) (hash : String) {node : Node}
    (pending : (node.ahead Provider.receiptMethod 0).isPending address = true) {text : String}
    (told : polling.attemptsText = .ok text) {turns remaining : Nat}
    (timed : 0 < remaining → polling.interval.toBinary64?.isSome = true)
    {outcome : Except Failure Receipt} {later : List Question}
    {sleeps : List Amount} {left : Node}
    (goes : (polling.poll (Provider.receipt endpoint) (.fit hash) turns remaining).Shows
      (node.advance (.fit Provider.receiptMethod)) outcome later sleeps left) :
    (polling.poll (Provider.receipt endpoint) (.fit hash) turns (remaining + 1)).Shows node outcome
      (.receipt address hash :: later)
      ((if 0 < remaining then [polling.interval] else []) ++ sleeps) left := by
  refine Act.Shows.bind (Provider.receipt_of_pending read hash pending) ?_
  rw [told, Act.ofFault_ok, pure_bind]
  apply Act.Shows.log_bind
  split
  next more => exact Act.Shows.bind (polling.pause_shows (timed more) _) goes
  next => exact goes

theorem poll_of_untold {fault : Fault} (untold : polling.attemptsText = .error fault)
    (read : endpoint.address = .ok address) (hash : String) {node : Node}
    (pending : (node.ahead Provider.receiptMethod 0).isPending address = true)
    (turns remaining : Nat) :
    (polling.poll (Provider.receipt endpoint) (.fit hash) turns (remaining + 1)).Shows node
      (.error (.fault fault)) [.receipt address hash] []
      (node.advance (.fit Provider.receiptMethod)) := by
  refine Act.Shows.bind (Provider.receipt_of_pending read hash pending) ?_
  rw [untold]
  exact Act.Shows.fail _ _

theorem poll_of_untimed {text : String} (told : polling.attemptsText = .ok text)
    (untimed : polling.interval.toBinary64? = none) (read : endpoint.address = .ok address)
    (hash : String) {node : Node}
    (pending : (node.ahead Provider.receiptMethod 0).isPending address = true)
    (turns : Nat) {remaining : Nat} (more : 0 < remaining) :
    (polling.poll (Provider.receipt endpoint) (.fit hash) turns (remaining + 1)).Shows node
      (.error (.fault .outOfRange)) [.receipt address hash] []
      (node.advance (.fit Provider.receiptMethod)) := by
  refine Act.Shows.bind (Provider.receipt_of_pending read hash pending) ?_
  rw [told, Act.ofFault_ok, pure_bind, if_pos more]
  exact Act.Shows.log_bind ((polling.pause_shows_nothing untimed _).bind_error _)

theorem poll_of_decisive (polling : Polling) (read : endpoint.address = .ok address)
    (hash : String) {node : Node}
    (decisive : (node.ahead Provider.receiptMethod 0).isPending address = false)
    (turns remaining : Nat) :
    ∃ outcome, (node.ahead Provider.receiptMethod 0).Decides address outcome ∧
      (polling.poll (Provider.receipt endpoint) (.fit hash) turns (remaining + 1)).Shows node
        outcome [.receipt address hash] [] (node.advance (.fit Provider.receiptMethod)) := by
  obtain ⟨outcome, decides, asked⟩ := Provider.receipt_of_decisive read hash decisive
  refine ⟨outcome, decides, ?_⟩
  cases outcome with
  | error failure => exact asked.bind_error _
  | ok receipt => exact asked.bind (Act.Shows.log_bind (Act.Shows.pure _ _))

theorem pending_advance {node : Node} {n : Nat}
    (pending : ∀ i < n + 1, (node.ahead Provider.receiptMethod i).isPending address = true) :
    ∀ i < n, ((node.advance (.fit Provider.receiptMethod)).ahead
      Provider.receiptMethod i).isPending address = true := by
  intro i bound
  rw [Node.ahead_advance_same]
  exact pending (i + 1) (by omega)

/-- If the replies ahead are pending up to one that is not, this one decides, and the wait asks
once for each of them. -/
theorem poll_decided {attempts : Int} (counted : turns? polling.attempts = some attempts)
    (read : endpoint.address = .ok address) (hash : String) (turns : Nat) (node : Node) (j : Nat)
    {remaining : Nat} (left : j < remaining)
    (pending : ∀ i < j, (node.ahead Provider.receiptMethod i).isPending address = true)
    (decisive : (node.ahead Provider.receiptMethod j).isPending address = false)
    (steady : 0 < j → stall? attempts polling.interval = none) :
    ∃ outcome, (node.ahead Provider.receiptMethod j).Decides address outcome ∧
      (polling.poll (Provider.receipt endpoint) (.fit hash) turns remaining).Shows node outcome
        (List.replicate (j + 1) (.receipt address hash)) (List.replicate j polling.interval)
        (node.advanceBy Provider.receiptMethod (j + 1)) := by
  induction j generalizing remaining node with
  | zero =>
    obtain ⟨remaining, rfl⟩ : ∃ n, remaining = n + 1 := ⟨remaining - 1, by omega⟩
    rw [← Node.advanceBy_advance, Node.advanceBy_zero]
    exact poll_of_decisive polling read hash decisive turns remaining
  | succ j ih =>
    obtain ⟨remaining, rfl⟩ : ∃ n, remaining = n + 1 := ⟨remaining - 1, by omega⟩
    have unstalled := steady (Nat.succ_pos j)
    obtain ⟨⟨text, told⟩, timed⟩ := steady_of_stall? counted unstalled
    -- the replies ahead of the node are one further on after the first question
    have last : ((node.advance (.fit Provider.receiptMethod)).ahead
        Provider.receiptMethod j).isPending address = false := by
      rw [Node.ahead_advance_same]
      exact decisive
    obtain ⟨outcome, decides, goes⟩ :=
      ih _ (show j < remaining by omega) (pending_advance pending) last fun _ => unstalled
    rw [Node.ahead_advance_same] at decides
    rw [Node.advanceBy_advance] at goes
    have run := poll_of_pending read hash (pending 0 (by omega)) told (fun _ => timed) goes
    have more : 0 < remaining := by omega
    rw [if_pos more] at run
    exact ⟨outcome, decides, run⟩

/-- Whatever the replies are, a wait asks at most once in each turn, and it asks if there is one. -/
theorem poll_asks (polling : Polling) (read : endpoint.address = .ok address) (hash : String)
    (turns remaining : Nat) (node : Node) :
    ∃ asked outcome sleeps left,
      (polling.poll (Provider.receipt endpoint) (.fit hash) turns remaining).Shows node
        outcome (List.replicate asked (.receipt address hash)) sleeps left ∧
      asked ≤ remaining ∧ (0 < remaining → 0 < asked) := by
  induction remaining generalizing node with
  | zero =>
    obtain ⟨failure, ended⟩ := polling.giveUp_fails turns (.fit hash) node
    exact ⟨0, _, _, _, ended, Nat.le_refl 0, id⟩
  | succ remaining ih =>
    -- a turn either ends the wait after its question or hands over to the turns behind it
    have once {outcome : Except Failure Receipt}
        (ends : (polling.poll (Provider.receipt endpoint) (.fit hash) turns (remaining + 1)).Shows
          node outcome [.receipt address hash] [] (node.advance (.fit Provider.receiptMethod))) :
        ∃ asked outcome sleeps left,
          (polling.poll (Provider.receipt endpoint) (.fit hash) turns (remaining + 1)).Shows node
            outcome (List.replicate asked (.receipt address hash)) sleeps left ∧
          asked ≤ remaining + 1 ∧ (0 < remaining + 1 → 0 < asked) :=
      ⟨1, outcome, [], _, ends, by omega, by omega⟩
    cases pending : (node.ahead Provider.receiptMethod 0).isPending address with
    | false =>
      obtain ⟨outcome, -, asked⟩ := poll_of_decisive polling read hash pending turns remaining
      exact once asked
    | true =>
      cases told : polling.attemptsText with
      | error fault => exact once (poll_of_untold told read hash pending turns remaining)
      | ok text =>
        by_cases timed : 0 < remaining → polling.interval.toBinary64?.isSome = true
        · obtain ⟨asked, outcome, sleeps, left, goes, bounded, -⟩ :=
            ih (node.advance (.fit Provider.receiptMethod))
          exact ⟨asked + 1, outcome, _, left, poll_of_pending read hash pending told timed goes,
            by omega, by omega⟩
        · obtain ⟨more, untimed⟩ := Classical.not_imp.mp timed
          rw [Bool.not_eq_true, Option.isSome_eq_false_iff, Option.isNone_iff_eq_none] at untimed
          exact once (poll_of_untimed told untimed read hash pending turns more)

theorem wait_eq_poll {attempts : Int} (counted : polling.attempts = .fit attempts)
    (query : Given String → Act Link (Option Receipt)) (hash : Given String) :
    polling.wait query hash = polling.poll query hash attempts.toNat attempts.toNat := by
  unfold wait
  rw [counted]
  rfl

def brief : Polling where
  attempts := .fit 2
  interval := .whole 1
  attempts_pos := rfl
  interval_nonneg := rfl

end Polling

end TxSubmission
