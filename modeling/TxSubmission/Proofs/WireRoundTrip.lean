import TxSubmission.Proofs.Carriage
import TxSubmission.Proofs.Validity

/-!
Requests come back from the wire. A request of numbers and texts that holds no number below zero is
written under the names of the fields that are set; what is written can be read as a draft again,
which is checked to the same request, so that no other request is written the same way. The data is
written with the mark that it was given, or with one mark in front. A number below zero is told, and
nothing is written.
-/

namespace TxSubmission

open Text

namespace Json

theorem isNull_ofText? (text : Option String) : (ofText? text).isNull = text.isNone := by
  cases text <;> rfl

theorem isNull_ofInt? (number : Option Int) : (ofInt? number).isNull = number.isNone := by
  cases number <;> rfl

theorem ofText?_ne_int (text : Option String) (n : Int) : ofText? text ≠ .int n := by
  cases text <;> exact nofun

theorem ofInt?_eq_int_iff {number : Option Int} {n : Int} :
    ofInt? number = .int n ↔ number = some n := by
  cases number <;> simp [ofInt?]

theorem isBelowZero_ofInt? (number : Option Int) :
    (ofInt? number).isBelowZero = number.any fun n => n < 0 := by
  cases number <;> rfl

end Json

theorem Request.exists_of_encodeFields_error {fields : Members} {cause : Invalid}
    (refused : encodeFields fields = .error cause) :
    ∃ name n, (name, .int n) ∈ fields ∧ n < 0 ∧ cause = .negativeQuantity n := by
  -- the fault is that of the first field that has one
  induction fields with
  | nil => cases refused
  | cons first rest ih =>
    obtain ⟨name, content⟩ := first
    rw [encodeFields] at refused
    cases head : Quantity.encodeField content with
    | error told =>
      rw [head] at refused
      cases refused
      cases content with
      | int n =>
        cases n with
        | ofNat n => cases head
        | negSucc n =>
          cases head
          exact ⟨name, _, List.mem_cons_self, Int.negSucc_lt_zero n, rfl⟩
      | bool b => cases b <;> cases head
      | _ => cases head
    | ok written =>
      rw [head] at refused
      cases tail : encodeFields rest with
      | ok later =>
        rw [tail] at refused
        cases refused
      | error told =>
        rw [tail] at refused
        cases refused
        obtain ⟨other, n, member, below, same⟩ := ih tail
        exact ⟨other, n, List.mem_cons_of_mem _ member, below, same⟩

namespace Draft

theorem check_of_checked {draft : Draft} {r : Request} (checked : draft.Checked r) :
    draft.check = .ok r := by
  unfold check
  rw [checked.sender]
  simp only [r.sender_given, dif_pos, checked.fees]
  split
  next fault refused =>
    rw [checked.data] at refused
    cases refused
  next data marked =>
    have same : data = r.data := Except.ok.inj (marked.symm.trans checked.data)
    subst same
    rw [← checked.recipient, ← checked.gas, ← checked.value, ← checked.nonce]

theorem readQuantity_of_delivers {number : Option Int} {entries : Members} {name : String}
    (delivers : Quantity.Delivers number (Members.get? name entries)) :
    readQuantity entries name = .ok (number.map .fit) := by
  unfold readQuantity
  cases found : Members.get? name entries with
  | none =>
    rw [found] at delivers
    cases delivers
    rfl
  | some value =>
    rw [found] at delivers
    cases delivers with
    | given read =>
      dsimp only
      rw [read]
      rfl

end Draft

/-- The fields of a request as a caller names them, in numbers and texts. -/
structure PlainDraft where
  sender : String
  recipient : Option String := none
  gas : Option Int := none
  gasPrice : Option Int := none
  value : Option Int := none
  data : Option String := none
  nonce : Option Int := none
  chainId : Option Int := none
  tip : Option Int := none
  cap : Option Int := none
  incentive : Option String := none

namespace PlainDraft

variable (plain : PlainDraft)

def draft : Draft where
  sender := some (.fit plain.sender)
  recipient := plain.recipient.map .fit
  gas := plain.gas.map .fit
  gasPrice := plain.gasPrice.map .fit
  value := plain.value.map .fit
  data := plain.data.map .fit
  nonce := plain.nonce.map .fit
  chainId := plain.chainId.map .fit
  tip := plain.tip.map .fit
  cap := plain.cap.map .fit
  incentive := plain.incentive.map .fit

def marked : PlainDraft := { plain with data := plain.data.map withHexPrefix }

def quantities : List (Option Int) :=
  [plain.gas, plain.gasPrice, plain.value, plain.nonce, plain.chainId, plain.tip, plain.cap]

def presence : List (String × Bool) :=
  [("from", true),
   ("to", plain.recipient.isSome),
   ("gas", plain.gas.isSome),
   ("gasPrice", plain.gasPrice.isSome),
   ("value", plain.value.isSome),
   ("data", plain.data.isSome),
   ("nonce", plain.nonce.isSome),
   ("chainId", plain.chainId.isSome),
   ("maxPriorityFeePerGas", plain.tip.isSome),
   ("maxFeePerGas", plain.cap.isSome),
   ("incentiveAddress", plain.incentive.isSome)]

def setNames : List String := (plain.presence.filter Prod.snd).map Prod.fst

def slots : Members :=
  [("from", .text plain.sender),
   ("to", .ofText? plain.recipient),
   ("gas", .ofInt? plain.gas),
   ("gasPrice", .ofInt? plain.gasPrice),
   ("value", .ofInt? plain.value),
   ("data", .ofText? plain.data),
   ("nonce", .ofInt? plain.nonce),
   ("chainId", .ofInt? plain.chainId),
   ("maxPriorityFeePerGas", .ofInt? plain.tip),
   ("maxFeePerGas", .ofInt? plain.cap),
   ("incentiveAddress", .ofText? plain.incentive)]

theorem presence_marked : plain.marked.presence = plain.presence := by
  simp [presence, marked]

theorem presence_eq :
    plain.presence = plain.slots.map fun field => (field.1, !field.2.isNull) := by
  have named : (Json.text plain.sender).isNull = false := rfl
  simp [presence, slots, named, Json.isNull_ofText?, Json.isNull_ofInt?]

theorem names_set :
    (plain.slots.filter fun field => !field.2.isNull).map Prod.fst = plain.setNames := by
  rw [setNames, presence_eq, List.filter_map, List.map_map]
  rfl

theorem mem_quantities_of_slot {name : String} {n : Int}
    (member : (name, Json.int n) ∈ plain.slots) : some n ∈ plain.quantities := by
  simp only [slots, List.mem_cons, Prod.mk.injEq, List.not_mem_nil, or_false, reduceCtorEq,
    and_false, false_or, (Json.ofText?_ne_int _ n).symm, eq_comm (a := Json.int n),
    Json.ofInt?_eq_int_iff] at member
  simp only [quantities, List.mem_cons, List.not_mem_nil, or_false]
  tauto

theorem isNegative_eq :
    plain.draft.isNegative = plain.quantities.any fun number => number.any fun n => n < 0 := by
  simp only [Draft.isNegative, Draft.slots, draft, PlainOrder.toJson?_plain,
    PlainOrder.toJson?_text, List.any_cons, List.any_nil,
    Json.isBelowZero_ofInt?, Json.isBelowZero_ofText?, quantities]
  simp [Given.toJson?, Given.toJson, Plain.toJson, Json.isBelowZero]

variable {plain} {request : Request} {entries : Members}

theorem marked_of_check (accepted : plain.draft.check = .ok request) :
    request.data = plain.marked.data :=
  PlainOrder.markedData_plain (Draft.checked_of_check accepted).data

theorem slots_of_check (accepted : plain.draft.check = .ok request) :
    request.slots = plain.marked.slots := by
  rw [(Draft.checked_of_check accepted).slots, marked_of_check accepted]
  simp only [Draft.slots, slots, draft, marked, PlainOrder.toJson?_plain, PlainOrder.toJson?_text]
  rfl

theorem names_of_wire (accepted : plain.draft.check = .ok request)
    (wired : request.wire = .ok entries) : entries.map Prod.fst = plain.setNames := by
  have unchanged : plain.marked.setNames = plain.setNames := by
    rw [setNames, presence_marked, setNames]
  rw [Request.names_encodeFields wired, Request.fields, slots_of_check accepted, ← unchanged,
    ← names_set]

theorem ofWire_of_wire (accepted : plain.draft.check = .ok request)
    (wired : request.wire = .ok entries) : Draft.ofWire entries = .ok plain.marked.draft := by
  have slots := slots_of_check accepted
  have text {name : String} {text : Option String}
      (slot : Members.get? name plain.marked.slots = some (.ofText? text)) :
      (Members.get? name entries).map Given.ofJson = text.map .fit := by
    rw [Request.get?_wire_text wired (slots ▸ slot), Option.map_map]
    rfl
  have number {name : String} {number : Option Int}
      (slot : Members.get? name plain.marked.slots = some (.ofInt? number)) :
      Draft.readQuantity entries name = .ok (number.map .fit) :=
    Draft.readQuantity_of_delivers (Request.get?_wire_number wired (slots ▸ slot))
  have sender := @text "from" (some plain.sender) rfl
  have recipient := @text "to" plain.recipient rfl
  have data := @text "data" plain.marked.data rfl
  have incentive := @text "incentiveAddress" plain.incentive rfl
  have gas := @number "gas" plain.gas rfl
  have gasPrice := @number "gasPrice" plain.gasPrice rfl
  have value := @number "value" plain.value rfl
  have nonce := @number "nonce" plain.nonce rfl
  have chainId := @number "chainId" plain.chainId rfl
  have tip := @number "maxPriorityFeePerGas" plain.tip rfl
  have cap := @number "maxFeePerGas" plain.cap rfl
  simp only [Draft.ofWire, gas, gasPrice, value, nonce, chainId, tip, cap, sender, recipient, data,
    incentive, bind, Except.bind]
  rfl

theorem check_marked (accepted : plain.draft.check = .ok request) :
    plain.marked.draft.check = .ok request := by
  have checked := Draft.checked_of_check accepted
  refine Draft.check_of_checked { checked with data := ?_ }
  rw [marked_of_check accepted]
  cases given : plain.data with
  | none => simp [draft, marked, given, markedData]
  | some data =>
    have idem := withHexPrefix_idem data
    simp [draft, marked, given, markedData, Given.toJson, Plain.toJson, Json.withHexPrefix, idem,
      Except.map]

/-- What the wire form of a request tells of it. -/
structure Restores (plain : PlainDraft) (request : Request) (entries : Members) : Prop where
  names : entries.map Prod.fst = plain.setNames
  back : ∃ draft, Draft.ofWire entries = .ok draft ∧ draft.check = .ok request
  alone : ∀ (other : PlainDraft) (r : Request), other.draft.check = .ok r →
    r.wire = .ok entries → r = request
  data : ∀ data, plain.data = some data → ∃ text, request.data = some text ∧
    Members.get? "data" entries = some (.text text) ∧ Marks data text

theorem restores (accepted : plain.draft.check = .ok request)
    (wired : request.wire = .ok entries) : plain.Restores request entries where
  names := names_of_wire accepted wired
  back := ⟨plain.marked.draft, ofWire_of_wire accepted wired, check_marked accepted⟩
  alone := by
    intro other r allowed written
    -- both are what the draft that is read off the wire is checked to
    have same : plain.marked.draft = other.marked.draft :=
      Except.ok.inj ((ofWire_of_wire accepted wired).symm.trans (ofWire_of_wire allowed written))
    have checked := check_marked accepted
    rw [same] at checked
    exact Except.ok.inj ((check_marked allowed).symm.trans checked)
  data := by
    intro data given
    have marked : request.data = some (withHexPrefix data) := by
      rw [marked_of_check accepted, PlainDraft.marked, given, Option.map_some]
    have slot : Members.get? "data" request.slots = some (.ofText? request.data) := rfl
    refine ⟨withHexPrefix data, marked, ?_, marks_withHexPrefix data⟩
    rw [Request.get?_wire_text wired slot, marked, Option.map_some]

/-- A request without a number below zero is written and comes back, and is the only one that is
written so; a number below zero is refused. -/
theorem wire_faithful (accepted : plain.draft.check = .ok request) :
    ((∀ n, some n ∈ plain.quantities → 0 ≤ n) →
      ∃ entries, request.wire = .ok entries ∧ plain.Restores request entries) ∧
    ((∃ n, some n ∈ plain.quantities ∧ n < 0) →
      ∃ n, some n ∈ plain.quantities ∧ n < 0 ∧
        request.wire = .error (.negativeQuantity n)) := by
  have told {cause : Invalid} (refused : request.wire = .error cause) :
      ∃ n, some n ∈ plain.quantities ∧ n < 0 ∧ cause = .negativeQuantity n := by
    obtain ⟨name, n, member, below, same⟩ := Request.exists_of_encodeFields_error refused
    have slot := List.mem_of_mem_filter member
    rw [slots_of_check accepted] at slot
    exact ⟨n, plain.marked.mem_quantities_of_slot slot, below, same⟩
  constructor
  · intro above
    cases written : request.wire with
    | ok entries => exact ⟨entries, rfl, restores accepted written⟩
    | error cause =>
      obtain ⟨n, given, below, -⟩ := told written
      have high := above n given
      omega
  · rintro ⟨n, given, below⟩
    have negative : plain.draft.isNegative = true := by
      rw [isNegative_eq, List.any_eq_true]
      exact ⟨some n, given, decide_eq_true below⟩
    have unwritten := Draft.isOk_payload accepted
    rw [negative, Request.payload, isOk_map] at unwritten
    obtain ⟨cause, refused⟩ := exists_of_isOk_eq_false unwritten
    obtain ⟨m, named, low, rfl⟩ := told refused
    exact ⟨m, named, low, refused⟩

def unpriced (gas : Int) (data : String) : PlainDraft :=
  { sender := "0x1", gas := some gas, data := some data }

theorem exists_check_unpriced (gas : Int) (data : String) :
    ∃ request, (unpriced gas data).draft.check = .ok request :=
  @Draft.exists_check _ _ (.unpriced none) (some data) rfl rfl rfl rfl

theorem wire_faithful_unpriced :
    (∃ request entries, (unpriced 0 "0Xab").draft.check = .ok request ∧
      request.wire = .ok entries ∧ (unpriced 0 "0Xab").Restores request entries ∧
      entries.map Prod.fst = ["from", "gas", "data"]) ∧
    ∃ request, (unpriced (-1) "").draft.check = .ok request ∧
      request.wire = .error (.negativeQuantity (-1)) := by
  obtain ⟨request, accepted⟩ := exists_check_unpriced 0 "0Xab"
  obtain ⟨debt, allowed⟩ := exists_check_unpriced (-1) ""
  obtain ⟨entries, written, restored⟩ :=
    (wire_faithful accepted).1 (by simp [quantities, unpriced])
  obtain ⟨n, given, below, refused⟩ :=
    (wire_faithful allowed).2 ⟨-1, List.mem_cons_self, by decide⟩
  have same : n = -1 := by simpa [quantities, unpriced] using given
  exact ⟨⟨request, entries, accepted, written, restored, restored.names⟩, debt, allowed,
    same ▸ refused⟩

end PlainDraft

end TxSubmission
