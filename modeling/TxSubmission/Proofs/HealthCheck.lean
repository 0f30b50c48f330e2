import TxSubmission.Proofs.QuantityText
import TxSubmission.Proofs.SingleExchange

/-!
Health checks. A check never fails: where no address is given it says that it is disabled, and
otherwise it asks the node for its chain and gives either the chain or the text of whatever went
wrong. It finds a chain exactly if the node sends an object without an error whose result is a text
that is read as a hex number.
-/

namespace TxSubmission

open Number

def Provider.chainMethod : String := "eth_chainId"

def Provider.Health.ofOutcome : Except Failure (Option Int) → Health
  | .ok found => .healthy found
  | .error failure => .failing failure.message

def Members.chain (envelope : Members) : Except Failure (Option Int) :=
  outcome envelope >>= fun found => (Quantity.ofJson found).mapError .fault

namespace Members

variable {envelope : Members}

theorem chain_of_absent (absent : (get "error" envelope).isNull = true) :
    chain envelope = (Quantity.ofJson (get "result" envelope)).mapError .fault := by
  rw [chain, outcome_of_absent absent]
  rfl

theorem chain_of_present (present : (get "error" envelope).isNull = false) :
    chain envelope =
      match RpcError.ofJson (get "error" envelope) with
      | .ok error => .error (.execution (.rpc error none))
      | .error fault => .error (.fault fault) := by
  rw [chain, outcome_of_present present]
  cases RpcError.ofJson (get "error" envelope) with
  | ok error => rfl
  | error fault => rfl

end Members

namespace Http.Reply

/-- A reply brings an object of success that has no error and names the chain with a number. -/
def NamesChain (address : Address) (reply : Reply) (n : Int) : Prop :=
  ∃ status location body members text, reply.Brings address status location body ∧
    isSuccess status = true ∧ body.read = .ok (.object members) ∧
    (Members.get "error" members).isNull = true ∧ Members.get "result" members = .text text ∧
    readInt 16 text = .ok n

/-- A reply brings an object that has neither an error nor a result. -/
def IsNameless (address : Address) (reply : Reply) : Prop :=
  ∃ members, reply.object? address = some members ∧
    (Members.get "error" members).isNull = true ∧ (Members.get "result" members).isNull = true

/-- What goes wrong with a reply: there is no object in it, the object has an error, which can be
read or not, or its result is no hex number or not even a text. -/
inductive Ails (address : Address) (reply : Reply) : Failure → Prop
  | lost {failure : Failure}
      (broken : reply.envelope address Provider.chainMethod = .error failure) :
      Ails address reply failure
  | reported {members : Members} {error : RpcError}
      (heard : reply.object? address = some members)
      (present : (Members.get "error" members).isNull = false)
      (read : RpcError.ofJson (Members.get "error" members) = .ok error) :
      Ails address reply (.execution (.rpc error none))
  | garbled {members : Members} {fault : Fault}
      (heard : reply.object? address = some members)
      (present : (Members.get "error" members).isNull = false)
      (misread : RpcError.ofJson (Members.get "error" members) = .error fault) :
      Ails address reply (.fault fault)
  | malformed {members : Members} {text : String} {fault : LiteralFault}
      (heard : reply.object? address = some members)
      (absent : (Members.get "error" members).isNull = true)
      (result : Members.get "result" members = .text text)
      (refused : readInt 16 text = .error fault) :
      Ails address reply (.fault (.invalid (.literal fault)))
  | mistyped {members : Members} (heard : reply.object? address = some members)
      (absent : (Members.get "error" members).isNull = true)
      (different : ∀ text, Members.get "result" members ≠ .text text)
      (set : (Members.get "result" members).isNull = false) :
      Ails address reply (.fault (.wrongType .quantity))

inductive Tells (address : Address) (reply : Reply) : Except Failure (Option Int) → Prop
  | chain {n : Int} (names : reply.NamesChain address n) : Tells address reply (.ok (some n))
  | nothing (nameless : reply.IsNameless address) : Tells address reply (.ok none)
  | failure {failure : Failure} (ails : reply.Ails address failure) :
      Tells address reply (.error failure)

variable {address : Address} {reply : Reply}

theorem tells_of_object {members : Members} (heard : reply.object? address = some members) :
    reply.Tells address (Members.chain members) := by
  cases absent : (Members.get "error" members).isNull with
  | false =>
    rw [Members.chain_of_present absent]
    cases read : RpcError.ofJson (Members.get "error" members) with
    | ok error => exact .failure (.reported heard absent read)
    | error fault => exact .failure (.garbled heard absent read)
  | true =>
    rw [Members.chain_of_absent absent]
    cases result : Members.get "result" members with
    | null => exact .nothing ⟨members, heard, absent, by rw [result]; rfl⟩
    | text text =>
      cases read : readInt 16 text with
      | error fault =>
        rw [Quantity.ofJson, Quantity.decode, read]
        exact .failure (.malformed heard absent result read)
      | ok n =>
        obtain ⟨status, location, body, brings, success, object⟩ := object?_eq_some_iff.mp heard
        rw [Quantity.ofJson, Quantity.decode, read]
        exact .chain ⟨status, location, body, members, text, brings, success, object, absent,
          result, read⟩
    | _ =>
      refine .failure (.mistyped heard absent ?_ (by rw [result]; rfl))
      intro text same
      rw [result] at same
      cases same

namespace Tells

variable {outcome : Except Failure (Option Int)} (tells : reply.Tells address outcome)

include tells

theorem names {n : Int} (healthy : Provider.Health.ofOutcome outcome = .healthy (some n)) :
    reply.NamesChain address n := by
  cases tells with
  | chain names =>
    cases healthy
    exact names
  | nothing nameless => cases healthy
  | failure ails => cases healthy

theorem ails (named : ¬reply.IsNameless address) (unnamed : ∀ n, ¬reply.NamesChain address n) :
    ∃ failure, reply.Ails address failure ∧
      Provider.Health.ofOutcome outcome = .failing failure.message := by
  cases tells with
  | chain names => exact absurd names (unnamed _)
  | nothing nameless => exact absurd nameless named
  | failure ails => exact ⟨_, ails, rfl⟩

end Tells

theorem tells (address : Address) (reply : Reply) :
    reply.Tells address (reply.envelope address Provider.chainMethod >>= Members.chain) := by
  cases read : reply.envelope address Provider.chainMethod with
  | error failure => exact .failure (.lost read)
  | ok members => exact tells_of_object (envelope_eq_ok_iff.mp read)

theorem NamesChain.envelope {n : Int} (names : reply.NamesChain address n) :
    reply.envelope address Provider.chainMethod >>= Members.chain = .ok (some n) := by
  obtain ⟨status, location, body, members, text, brings, success, object, absent, result, read⟩ :=
    names
  have heard := object?_eq_some_iff.mpr ⟨status, location, body, brings, success, object⟩
  rw [envelope_of_object? heard]
  change Members.chain members = _
  rw [Members.chain_of_absent absent, result, Quantity.ofJson, Quantity.decode, read]
  rfl

theorem IsNameless.envelope (nameless : reply.IsNameless address) :
    reply.envelope address Provider.chainMethod >>= Members.chain = .ok none := by
  obtain ⟨members, heard, absent, unset⟩ := nameless
  rw [envelope_of_object? heard]
  change Members.chain members = _
  rw [Members.chain_of_absent absent]
  cases result : Members.get "result" members with
  | null => rfl
  | _ =>
    rw [result] at unset
    cases unset

end Http.Reply

namespace Provider

/-- How a health check goes. A reply that names no chain and shows no failure is left aside. -/
structure Checks (endpoint : Endpoint) (link : Link) (ran : Ran Link Health) : Prop where
  total : ∃ health, ran.outcome = .ok health
  disabled : ready endpoint = false → ran = ⟨.ok .disabled, link, []⟩
  unaddressed : ready endpoint = true → ∀ fault, endpoint.address = .error fault →
    ran.trace.postings = [] ∧ ran.outcome = .ok (.failing fault.message)
  asked : ready endpoint = true → ∀ address, endpoint.address = .ok address →
    ∃ id, ran.trace.postings = [(address.text, ⟨id, .fit chainMethod, []⟩)]
  healthy_iff : ready endpoint = true → ∀ address, endpoint.address = .ok address → ∀ n,
    ran.outcome = .ok (.healthy (some n)) ↔
      (link.node.next (.fit chainMethod)).NamesChain address n
  failing : ready endpoint = true → ∀ address, endpoint.address = .ok address →
    ¬(link.node.next (.fit chainMethod)).IsNameless address →
    (∀ n, ¬(link.node.next (.fit chainMethod)).NamesChain address n) →
    ∃ failure, (link.node.next (.fit chainMethod)).Ails address failure ∧
      ran.outcome = .ok (.failing failure.message)

variable {endpoint : Endpoint} {address : Http.Address} {link : Link}

theorem healthCheck_disabled (unready : ready endpoint = false) :
    healthCheck endpoint link = ⟨.ok .disabled, link, []⟩ := by
  rw [healthCheck, unready]
  rfl

theorem healthCheck_shows (readied : ready endpoint = true) {node left : Node}
    {outcome : Except Failure (Option Int)} {questions : List Question} {sleeps : List Amount}
    (asked : (chainId endpoint).Shows node outcome questions sleeps left) :
    (healthCheck endpoint).Shows node (.ok (Health.ofOutcome outcome)) questions sleeps left := by
  unfold healthCheck
  rw [if_pos readied, ← List.append_nil questions, ← List.append_nil sleeps]
  refine asked.attempt.bind ?_
  cases outcome with
  | ok found => exact .pure _ _
  | error failure => exact .pure _ _

theorem healthCheck_unaddressed (readied : ready endpoint = true) {fault : Fault}
    (unreadable : endpoint.address = .error fault) (node : Node) :
    (healthCheck endpoint).Shows node (.ok (.failing fault.message)) [] [] node := by
  have untargeted : endpoint.target (.fit chainMethod) [] = .error (.fault fault) :=
    Endpoint.target_of_unreadable unreadable rfl
  exact healthCheck_shows readied ((chainId_relays endpoint).shows_nothing untargeted node)

theorem healthCheck_asks (readied : ready endpoint = true) (read : endpoint.address = .ok address)
    (node : Node) :
    (healthCheck endpoint).Shows node
      (.ok (Health.ofOutcome
        ((node.next (.fit chainMethod)).envelope address chainMethod >>= Members.chain)))
      [⟨address.text, .fit chainMethod, []⟩] [] (node.advance (.fit chainMethod)) := by
  have targeted : endpoint.target (.fit chainMethod) [] = .ok address :=
    Endpoint.target_of_address read rfl
  exact healthCheck_shows readied ((chainId_relays endpoint).shows targeted node)

/-- A check is content with an object that has neither an error nor a result, though it names no
chain. -/
theorem healthCheck_nameless (readied : ready endpoint = true)
    (read : endpoint.address = .ok address)
    (nameless : (link.node.next (.fit chainMethod)).IsNameless address) :
    (healthCheck endpoint link).outcome = .ok (.healthy none) := by
  rw [(healthCheck_asks readied read link.node link rfl).outcome, nameless.envelope]
  rfl

/-- A health check never fails. Where no address is given it is disabled and asks nothing; otherwise
it asks the node for its chain, once if the address can be read, and finds a chain exactly if the
reply names it. Any other reply but an object with neither an error nor a result gives the text of
what is wrong with it. -/
theorem healthCheck_truthful (endpoint : Endpoint) (link : Link) :
    Checks endpoint link (healthCheck endpoint link) where
  total := by
    cases readied : ready endpoint with
    | false => exact ⟨_, congrArg Ran.outcome (healthCheck_disabled readied)⟩
    | true =>
      cases read : endpoint.address with
      | error fault => exact ⟨_, (healthCheck_unaddressed readied read link.node link rfl).outcome⟩
      | ok address => exact ⟨_, (healthCheck_asks readied read link.node link rfl).outcome⟩
  disabled := healthCheck_disabled
  unaddressed := by
    intro readied fault unreadable
    have shown := healthCheck_unaddressed readied unreadable link.node link rfl
    exact ⟨List.map_eq_nil_iff.mp shown.questions, shown.outcome⟩
  asked := by
    intro readied address read
    exact Trace.exists_of_questions (healthCheck_asks readied read link.node link rfl).questions
  healthy_iff := by
    intro readied address read n
    rw [(healthCheck_asks readied read link.node link rfl).outcome]
    constructor
    · intro ended
      exact (Http.Reply.tells address _).names (Except.ok.inj ended)
    · intro names
      rw [names.envelope]
      rfl
  failing := by
    intro readied address read named unnamed
    rw [(healthCheck_asks readied read link.node link rfl).outcome]
    obtain ⟨failure, ails, failing⟩ := (Http.Reply.tells address _).ails named unnamed
    exact ⟨failure, ails, congrArg _ failing⟩

theorem ready_plain {url : String} (inhabited : url ≠ "") : ready (.plain url) = true :=
  (isTruthy_text url).mpr inhabited

theorem healthCheck_truthful_polygon :
    (healthCheck (.plain "http://n")
      (Endpoint.always (Node.enveloped [("result", .text "0x89")]))).outcome =
        .ok (.healthy (some 137)) := by
  have checks := healthCheck_truthful (.plain "http://n")
    (Endpoint.always (Node.enveloped [("result", .text "0x89")]))
  have written : readInt 16 "0x89" = .ok 137 := Quantity.readInt_written 137
  refine (checks.healthy_iff (ready_plain (by decide)) _ Endpoint.address_plain 137).mpr ?_
  exact ⟨200, none, _, _, "0x89", ⟨rfl, rfl⟩, rfl, rfl, rfl, rfl, written⟩

/-- A check that is not disabled does not always ask, and a reply that names no chain does not
always make it fail. -/
theorem healthCheck_not_always_truthful :
    ready (.plain "http://[::1") = true ∧
    (healthCheck (.plain "http://[::1")
      (Endpoint.always (Node.enveloped [("result", .text "0x1")]))).trace.postings = [] ∧
    (healthCheck (.plain "http://n") (Endpoint.always (Node.enveloped []))).outcome =
      .ok (.healthy none) := by
  obtain ⟨fault, unreadable⟩ := Endpoint.address_plain_bracket
  have readied : ready (.plain "http://[::1") = true := ready_plain (by decide)
  have unasked := healthCheck_unaddressed readied unreadable
    (Endpoint.always (Node.enveloped [("result", .text "0x1")])).node
  refine ⟨readied, List.map_eq_nil_iff.mp (unasked _ rfl).questions, ?_⟩
  exact healthCheck_nameless (ready_plain (by decide)) Endpoint.address_plain
    ⟨[], rfl, rfl, rfl⟩

end Provider

end TxSubmission
