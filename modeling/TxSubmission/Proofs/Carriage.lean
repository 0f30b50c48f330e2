import TxSubmission.Proofs.Confirmation

/-!
What a submission carries. A plain order names its fees and whatever else it has as numbers and
texts. The object that is submitted for it holds each of them under its own name: texts as they are,
the data with the mark of hex text, numbers as quantities that are read back as the same number, and
beside them the account and the incentive recipient that was looked up, but no nonce and nothing
else. Whether the order means to create a contract makes no difference.
-/

namespace TxSubmission

open Text

inductive PlainTerms where
  | legacy (gasPrice : Int)
  | market (chainId tip cap : Int)
  | incentive (chainId tip cap : Int)

/-- An order of numbers and texts. -/
structure PlainOrder where
  terms : PlainTerms
  gasLimit : Option Int := none
  recipient : Option String := none
  data : Option String := none
  value : Option Int := none
  deploys : Bool := false

namespace PlainTerms

def terms : PlainTerms → FeeTerms
  | .legacy gasPrice => .legacy (some (.fit gasPrice))
  | .market chainId tip cap => .market (some (.fit chainId)) (some (.fit tip)) (some (.fit cap))
  | .incentive chainId tip cap =>
    .incentive (some (.fit chainId)) (some (.fit tip)) (some (.fit cap))

def gasPrice? : PlainTerms → Option Int
  | .legacy gasPrice => some gasPrice
  | .market .. | .incentive .. => none

def chainId? : PlainTerms → Option Int
  | .legacy _ => none
  | .market chainId _ _ | .incentive chainId _ _ => some chainId

def tip? : PlainTerms → Option Int
  | .legacy _ => none
  | .market _ tip _ | .incentive _ tip _ => some tip

def cap? : PlainTerms → Option Int
  | .legacy _ => none
  | .market _ _ cap | .incentive _ _ cap => some cap

def looksUp : PlainTerms → Bool
  | .legacy _ | .market .. => false
  | .incentive .. => true

def fees (looked : String) : PlainTerms → Fees
  | .legacy gasPrice => .legacy (.fit gasPrice)
  | .market chainId tip cap => .market (.fit chainId) (.fit tip) (.fit cap) none
  | .incentive chainId tip cap =>
    .market (.fit chainId) (.fit tip) (.fit cap) (some (.fit looked))

variable (terms : PlainTerms) (looked : String)

theorem gasPrice?_fees : (terms.fees looked).gasPrice? = terms.gasPrice?.map .fit := by
  cases terms <;> rfl

theorem chainId?_fees : (terms.fees looked).chainId? = terms.chainId?.map .fit := by
  cases terms <;> rfl

theorem tip?_fees : (terms.fees looked).tip? = terms.tip?.map .fit := by
  cases terms <;> rfl

theorem cap?_fees : (terms.fees looked).cap? = terms.cap?.map .fit := by
  cases terms <;> rfl

theorem incentive?_fees :
    (terms.fees looked).incentive? = (if terms.looksUp then some looked else none).map .fit := by
  cases terms <;> rfl

end PlainTerms

namespace PlainOrder

def order (plain : PlainOrder) : Order where
  terms := plain.terms.terms
  gasLimit := plain.gasLimit.map .fit
  recipient := plain.recipient.map .fit
  data := plain.data.map .fit
  value := plain.value.map .fit
  deploys := .fit plain.deploys

def step (plain : PlainOrder) (waits : Bool) : ManagerStep :=
  if waits then .execute plain.order else .send plain.order

/-- The object that is submitted for a plain order, given what was looked up for it. -/
structure Carries (plain : PlainOrder) (sender : String) (looked : Option String)
    (entries : Members) : Prop where
  sender : Members.get? "from" entries = some (.text sender)
  recipient : Members.get? "to" entries = plain.recipient.map .text
  data : ∃ marked, Delivers plain.data marked ∧ Members.get? "data" entries = marked.map .text
  gas : Quantity.Delivers plain.gasLimit (Members.get? "gas" entries)
  value : Quantity.Delivers plain.value (Members.get? "value" entries)
  gasPrice : Quantity.Delivers plain.terms.gasPrice? (Members.get? "gasPrice" entries)
  chainId : Quantity.Delivers plain.terms.chainId? (Members.get? "chainId" entries)
  tip : Quantity.Delivers plain.terms.tip? (Members.get? "maxPriorityFeePerGas" entries)
  cap : Quantity.Delivers plain.terms.cap? (Members.get? "maxFeePerGas" entries)
  incentive : if plain.terms.looksUp then
      ∃ recipient, looked = some recipient ∧
        Members.get? "incentiveAddress" entries = some (.text recipient)
    else Members.get? "incentiveAddress" entries = none
  nonce : Members.get? "nonce" entries = none
  names : (entries.map Prod.fst).Sublist Request.wireNames

structure Fits (plain : PlainOrder) (sender looked : String) (request : Request) : Prop where
  sender : request.sender = .fit sender
  recipient : request.recipient = plain.recipient.map .fit
  data : request.data = plain.data.map withHexPrefix
  gas : request.gas = plain.gasLimit.map .fit
  value : request.value = plain.value.map .fit
  nonce : request.nonce = none
  fees : request.fees = plain.terms.fees looked

theorem markedData_plain {data : Option String} {marked : Option String}
    (checked : markedData (data.map .fit) = .ok marked) : marked = data.map withHexPrefix := by
  cases data with
  | none =>
    cases checked
    rfl
  | some data =>
    cases checked
    rfl

variable {plain : PlainOrder} {account : Account} {sender looked : String} {request : Request}

theorem fits_of_check {draft : Draft} (built : draft.check = .ok request)
    (cargo : draft.toCargo = account.cargo plain.order) (held : account.address = .fit sender)
    (fees : Fees.ofFields draft.gasPrice draft.chainId draft.tip draft.cap draft.incentive =
      .ok (plain.terms.fees looked)) : plain.Fits sender looked request := by
  have checked := Draft.checked_of_check built
  have sender := checked.sender
  have data := checked.data
  have modelled := checked.fees
  rw [cargo] at sender data
  rw [fees] at modelled
  exact
    { sender := (Option.some.inj sender).symm.trans held
      recipient := by
        rw [checked.recipient, cargo]
        rfl
      data := markedData_plain data
      gas := by
        rw [checked.gas, cargo]
        rfl
      value := by
        rw [checked.value, cargo]
        rfl
      nonce := by
        rw [checked.nonce, cargo]
        rfl
      fees := (Except.ok.inj modelled).symm }

theorem fits_of_request (held : account.address = .fit sender)
    (built : account.request plain.order looked = .ok request) :
    plain.Fits sender looked request := by
  have terms : plain.order.terms = plain.terms.terms := rfl
  unfold Account.request at built
  rw [terms] at built
  cases model : plain.terms with
  | legacy gasPrice =>
    rw [model] at built
    change Draft.check { account.cargo plain.order with gasPrice := some (.fit gasPrice) } = _
      at built
    apply fits_of_check built rfl held
    rw [model]
    rfl
  | market chainId tip cap =>
    rw [model] at built
    change Draft.check
      { account.cargo plain.order with
        chainId := some (.fit chainId), tip := some (.fit tip), cap := some (.fit cap) } = _
      at built
    apply fits_of_check built rfl held
    rw [model]
    rfl
  | incentive chainId tip cap =>
    rw [model] at built
    simp only [PlainTerms.terms, Request.incentivized] at built
    split at built
    next =>
      change Draft.check
        { account.cargo plain.order with
          chainId := some (.fit chainId), tip := some (.fit tip), cap := some (.fit cap),
          incentive := some (.fit looked) } = _ at built
      apply fits_of_check built rfl held
      rw [model]
      rfl
    next => cases built

theorem toJson?_plain (number : Option Int) : Given.toJson? (number.map .fit) = .ofInt? number := by
  cases number <;> rfl

theorem toJson?_text (text : Option String) : Given.toJson? (text.map .fit) = .ofText? text := by
  cases text <;> rfl

theorem delivers_wire {entries : Members} (wired : request.wire = .ok entries) {name : String}
    {given : Option (Given Int)} {number : Option Int}
    (slot : Members.get? name request.slots = some (Given.toJson? given))
    (same : given = number.map .fit) :
    Quantity.Delivers number (Members.get? name entries) := by
  rw [same, toJson?_plain] at slot
  exact Request.get?_wire_number wired slot

theorem carries_of_fits (fits : plain.Fits sender looked request) {entries : Members}
    (wired : request.wire = .ok entries) {heard : Option String}
    (named : plain.terms.looksUp = true → heard = some looked) :
    plain.Carries sender heard entries where
  sender := by
    have slot : Members.get? "from" request.slots = some (.ofText? (some sender)) := by
      rw [Request.slots, fits.sender]
      rfl
    exact Request.get?_wire_text wired slot
  recipient := by
    apply Request.get?_wire_text wired
    rw [← toJson?_text, ← fits.recipient]
    rfl
  data := by
    have slot : Members.get? "data" request.slots = some (.ofText? request.data) := rfl
    refine ⟨_, delivers_withHexPrefix plain.data, ?_⟩
    rw [Request.get?_wire_text wired slot, fits.data]
  gas := delivers_wire wired rfl fits.gas
  value := delivers_wire wired rfl fits.value
  gasPrice := delivers_wire wired rfl (fits.fees ▸ plain.terms.gasPrice?_fees looked)
  chainId := delivers_wire wired rfl (fits.fees ▸ plain.terms.chainId?_fees looked)
  tip := delivers_wire wired rfl (fits.fees ▸ plain.terms.tip?_fees looked)
  cap := delivers_wire wired rfl (fits.fees ▸ plain.terms.cap?_fees looked)
  incentive := by
    have slot : Members.get? "incentiveAddress" request.slots =
        some (.ofText? (if plain.terms.looksUp then some looked else none)) := by
      rw [← toJson?_text, ← plain.terms.incentive?_fees looked, ← fits.fees]
      rfl
    have written := Request.get?_wire_text wired slot
    cases asks : plain.terms.looksUp with
    | true =>
      rw [asks] at written
      exact ⟨looked, named asks, written⟩
    | false =>
      rw [asks] at written
      exact written
  nonce := by
    apply Request.get?_wire_of_null wired
    rw [Request.slots, fits.nonce]
    rfl
  names := Request.names_wire wired

theorem carries_of_sends (held : account.address = .fit sender) {node : Node}
    {submitted : Except Failure SendReply} {submissions : List Question}
    (sends : account.Sends plain.order node submitted submissions) :
    ∀ question ∈ submissions, ∃ entries, question.params = [.object entries] ∧
      plain.Carries sender
        (account.endpoint.token? (node.next account.endpoint.lookupMethod)) entries := by
  cases sends with
  | unsent => exact nofun
  | @sent address looked request entries submitted read named built wired concludes =>
    intro question member
    rw [List.mem_singleton.mp member]
    refine ⟨entries, rfl, carries_of_fits (fits_of_request held built) wired ?_⟩
    intro asks
    cases model : plain.terms with
    | legacy gasPrice =>
      rw [model] at asks
      cases asks
    | market chainId tip cap =>
      rw [model] at asks
      cases asks
    | incentive chainId tip cap =>
      have terms : plain.order.terms = plain.terms.terms := rfl
      rw [model] at terms
      exact named _ _ _ terms

theorem step_shows {custody : Custody} {attempts : Int} {interval : Number.Amount}
    (budgeted : Polling.check (.fit attempts) (.fit interval) = .ok custody.polling)
    (plain : PlainOrder) (waits : Bool) (node : Node) :
    ∃ outcome submitted submissions receipts sleeps left,
      (custody.manager.perform (plain.step waits)).Shows node outcome
        (custody.account.endpoint.lookups plain.order.terms ++ (submissions ++ receipts)) sleeps
        left ∧
      custody.account.Sends plain.order node submitted submissions ∧
      ∀ question ∈ receipts, question.method = .fit Provider.receiptMethod := by
  cases waits with
  | false =>
    obtain ⟨submitted, submissions, left, sent, sends⟩ :=
      custody.account.send_shows plain.order node
    rw [← List.append_nil submissions] at sent
    exact ⟨_, submitted, submissions, [], [], left, sent.map Answer.sendReply, sends, nofun⟩
  | true =>
    obtain ⟨outcome, submissions, receipts, sleeps, left, executed, how⟩ :=
      Custody.execute_shows budgeted plain.order node
    have answered := executed.map Answer.receipt
    rw [List.append_assoc] at answered
    cases how with
    | unsent sends => exact ⟨_, _, [], [], [], left, answered, sends, nofun⟩
    | settled sends => exact ⟨_, _, _, [], [], left, answered, sends, nofun⟩
    | awaited sends =>
      refine ⟨_, _, _, _, _, left, answered, sends, ?_⟩
      intro question member
      rw [List.eq_of_mem_replicate member]
      rfl

/-- Every submission carries its order and nothing else, whether the step waits for a receipt or
not, and the flag for a contract changes nothing at all. -/
theorem submissions_carry {endpoint : Endpoint} {sender : String} {attempts : Int}
    {interval : Number.Amount} {custody : Custody}
    (built : Custody.check endpoint (.fit sender) (.fit attempts) (.fit interval) = .ok custody)
    (plain : PlainOrder) (waits : Bool) (link : Link) :
    let ran := custody.manager.perform (plain.step waits) link
    (∃ behind, ran.trace.questions = endpoint.lookups plain.order.terms ++ behind ∧
      ∀ question ∈ behind, question.method = .fit "eth_sendTransaction" →
        ∃ entries, question.params = [.object entries] ∧
          plain.Carries sender (endpoint.token? (link.node.next endpoint.lookupMethod)) entries) ∧
    ∀ deploys, custody.manager.perform (({ plain with deploys }).step waits) link = ran := by
  obtain ⟨rfl, held, budgeted⟩ := Custody.of_check built
  obtain ⟨outcome, submitted, submissions, receipts, sleeps, left, course, sends, asking⟩ :=
    step_shows budgeted plain waits link.node
  have shown := course link rfl
  intro ran
  refine ⟨⟨submissions ++ receipts, shown.questions, ?_⟩, ?_⟩
  · intro question member submitting
    rcases List.mem_append.mp member with submission | receipt
    · exact carries_of_sends held sends question submission
    · rw [asking question receipt] at submitting
      simp [Provider.receiptMethod] at submitting
  · intro deploys
    cases waits <;> rfl

def samplePayment : PlainOrder where
  terms := .legacy 7
  gasLimit := some 21000
  recipient := some "0x2"
  value := some 1

def sampleGift : PlainOrder where
  terms := .incentive 1 2 3
  data := some "6869"

def sampleEntries : Members :=
  [("from", .text "0x1"), ("data", .text "0x6869"), ("chainId", .text "0x1"),
   ("maxPriorityFeePerGas", .text "0x2"), ("maxFeePerGas", .text "0x3"),
   ("incentiveAddress", .text "0x1")]

theorem send_sampleGift :
    ∃ outcome left, ((Custody.sample "http://n").manager.perform (sampleGift.step false)).Shows
      Node.accepting outcome
      [⟨Endpoint.sampleAddress.text, .fit Endpoint.defaultLookup, []⟩,
        ⟨Endpoint.sampleAddress.text, .fit "eth_sendTransaction", [.object sampleEntries]⟩] []
      left := by
  have looking : (Endpoint.plain "http://n").target (.fit Endpoint.defaultLookup) [] =
      .ok Endpoint.sampleAddress := Endpoint.target_of_address Endpoint.address_plain rfl
  have heard : (Node.accepting.next (.fit Endpoint.defaultLookup)).object?
      Endpoint.sampleAddress = some [("result", .text "0x1")] := rfl
  have found : (Provider.result (.plain "http://n") (.fit Endpoint.defaultLookup) []).Shows
      Node.accepting (.ok (.text "0x1"))
      [⟨Endpoint.sampleAddress.text, .fit Endpoint.defaultLookup, []⟩] [] _ :=
    Provider.exchange_unreported looking heard rfl (Act.Shows.pure _ _)
  have looked : (Provider.incentiveAddress (.plain "http://n")).Shows Node.accepting (.ok "0x1")
      [⟨Endpoint.sampleAddress.text, .fit Endpoint.defaultLookup, []⟩] [] _ :=
    found.bind (Act.Shows.pure "0x1" _)
  obtain ⟨request, built, wired⟩ : ∃ request,
      (Custody.sample "http://n").account.request sampleGift.order "0x1" = .ok request ∧
        request.wire = .ok sampleEntries := ⟨_, rfl, rfl⟩
  obtain ⟨outcome, posted⟩ := Provider.send_of_sendable Endpoint.address_plain wired rfl _
  have sent := (Custody.sample "http://n").account.send_of_named rfl looked built posted
  exact ⟨_, _, sent.map Answer.sendReply⟩

theorem submissions_carry_payment :
    (Custody.check (.plain "") (.fit "0x1") (.fit 2) (.fit (.whole 1)) =
        .ok (Custody.sample "") ∧
      ∃ looked, samplePayment.Carries "0x1" looked
        [("from", .text "0x1"), ("to", .text "0x2"), ("gas", .text "0x5208"),
         ("gasPrice", .text "0x7"), ("value", .text "0x1")]) ∧
    Custody.check (.plain "http://n") (.fit "0x1") (.fit 2) (.fit (.whole 1)) =
        .ok (Custody.sample "http://n") ∧
      ∃ looked, sampleGift.Carries "0x1" looked sampleEntries := by
  refine ⟨⟨Custody.check_sample "", ?_⟩, Custody.check_sample "http://n", ?_⟩
  · obtain ⟨⟨behind, asked, carries⟩, -⟩ :=
      submissions_carry (Custody.check_sample "") samplePayment true { node := Node.silent }
    have submitted : ((Custody.sample "").manager.perform (samplePayment.step true)
        { node := Node.silent }).trace.questions =
        [⟨"/", .fit "eth_sendTransaction", [.object
          [("from", .text "0x1"), ("to", .text "0x2"), ("gas", .text "0x5208"),
           ("gasPrice", .text "0x7"), ("value", .text "0x1")]]⟩] := by
      rfl
    have alone : (Endpoint.plain "").lookups samplePayment.order.terms ++ behind = behind := rfl
    rw [submitted, alone] at asked
    obtain ⟨entries, params, carried⟩ := carries _ (asked ▸ List.mem_singleton.mpr rfl) rfl
    cases params
    exact ⟨_, carried⟩
  · obtain ⟨⟨behind, asked, carries⟩, -⟩ :=
      submissions_carry (Custody.check_sample "http://n") sampleGift false
        { node := Node.accepting }
    obtain ⟨outcome, left, sent⟩ := send_sampleGift
    have looking : (Endpoint.plain "http://n").target (.fit Endpoint.defaultLookup) [] =
        .ok Endpoint.sampleAddress := Endpoint.target_of_address Endpoint.address_plain rfl
    rw [(sent { node := Node.accepting } rfl).questions,
      Endpoint.lookups_of_looksUp looking rfl] at asked
    obtain rfl := (List.cons.inj asked).2
    obtain ⟨entries, params, carried⟩ := carries _ (List.mem_singleton.mpr rfl) rfl
    cases params
    exact ⟨_, carried⟩

end PlainOrder

end TxSubmission
