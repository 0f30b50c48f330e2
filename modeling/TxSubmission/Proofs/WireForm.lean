import TxSubmission.Proofs.QuantityText
import TxSubmission.Request.Wire

/-!
What stands in the wire form of a request. Every field that is set has one entry under its own
name, texts as they are, data with its mark or with one in front, and numbers as quantities that are
read back as the same number; a field that is not set has none, and there is nothing else.
-/

namespace TxSubmission

open Number

namespace Text

def IsMarked (s : String) : Prop := ['0', 'x'] <+: s.toList ∨ ['0', 'X'] <+: s.toList

/-- A text as it is marked: its own mark is kept, a missing one is added, and nothing else is
changed. -/
structure Marks (data text : String) : Prop where
  kept : IsMarked data → text = data
  added : ¬IsMarked data → text = "0x" ++ data
  bare : withoutHexPrefix text = withoutHexPrefix data
  settled : withHexPrefix text = text

theorem hasHexPrefix_iff {s : String} : hasHexPrefix s = true ↔ IsMarked s := by
  unfold hasHexPrefix IsMarked
  cases s.toList with
  | nil => simp [marked]
  | cons c rest =>
    cases rest with
    | nil => simp [marked]
    | cons x rest =>
      simp only [List.cons_prefix_cons, List.nil_prefix, and_true, ← and_or_left]
      unfold marked
      split <;> simp_all [eq_comm]

theorem withoutHexPrefix_marked (s : String) : withoutHexPrefix ("0x" ++ s) = s := by
  have spelled : ("0x" ++ s).toList = '0' :: 'x' :: s.toList := by simp
  have seen : hasHexPrefix ("0x" ++ s) = true := by
    rw [hasHexPrefix, spelled]
    rfl
  rw [withoutHexPrefix, if_pos seen, spelled]
  exact String.ofList_toList

theorem withHexPrefix_of_marked {s : String} (seen : hasHexPrefix s = true) :
    withHexPrefix s = s := if_pos seen

theorem withHexPrefix_of_unmarked {s : String} (unseen : hasHexPrefix s = false) :
    withHexPrefix s = "0x" ++ s := if_neg (Bool.eq_false_iff.mp unseen)

theorem marks_withHexPrefix (data : String) : Marks data (withHexPrefix data) where
  kept marked := withHexPrefix_of_marked (hasHexPrefix_iff.mpr marked)
  added unmarked := by
    have unseen : hasHexPrefix data = false :=
      Bool.eq_false_iff.mpr fun seen => unmarked (hasHexPrefix_iff.mp seen)
    exact withHexPrefix_of_unmarked unseen
  bare := by
    cases seen : hasHexPrefix data with
    | true => rw [withHexPrefix_of_marked seen]
    | false =>
      rw [withHexPrefix_of_unmarked seen, withoutHexPrefix_marked, withoutHexPrefix, seen]
      rfl
  settled := withHexPrefix_idem data

/-- Data that may be missing, and what it becomes where it is marked. -/
inductive Delivers : Option String → Option String → Prop
  | missing : Delivers none none
  | given {data text : String} (marks : Marks data text) : Delivers (some data) (some text)

theorem delivers_withHexPrefix (data : Option String) :
    Delivers data (data.map withHexPrefix) := by
  cases data with
  | none => exact .missing
  | some data => exact .given (marks_withHexPrefix data)

end Text

namespace Members

theorem get?_eq_none_iff {name : String} {fields : Members} :
    get? name fields = none ↔ name ∉ fields.map Prod.fst := by
  induction fields with
  | nil => simp [get?]
  | cons first rest ih =>
    obtain ⟨other, content⟩ := first
    by_cases same : other = name
    · simp [get?, same]
    · simp [get?, same, ih, Ne.symm same]

theorem get?_filter (passes : Json → Bool) {fields : Members}
    (distinct : (fields.map Prod.fst).Nodup) (name : String) :
    get? name (fields.filter fun (_, content) => passes content) =
      (get? name fields).filter passes := by
  induction fields with
  | nil => rfl
  | cons first rest ih =>
    obtain ⟨other, content⟩ := first
    rw [List.map_cons, List.nodup_cons] at distinct
    have later := ih distinct.2
    by_cases same : other = name
    · subst same
      have absent : get? other rest = none := get?_eq_none_iff.mpr distinct.1
      cases kept : passes content with
      | true => simp [get?, kept, Option.filter]
      | false =>
        rw [List.filter_cons_of_neg (by simp [kept]), later, absent]
        simp [get?, kept, Option.filter]
    · cases kept : passes content with
      | true =>
        rw [List.filter_cons_of_pos (by simp [kept])]
        simp only [get?, if_neg same, later]
      | false =>
        rw [List.filter_cons_of_neg (by simp [kept]), later]
        simp only [get?, if_neg same]

end Members

/-- What stands on the wire for a number that may be missing: nothing, or a text that is read back
as the number. -/
inductive Quantity.Delivers : Option Int → Option Json → Prop
  | missing : Delivers none none
  | given {n : Int} {text : String} (read : Quantity.decode text = .ok n) :
      Delivers (some n) (some (.text text))

namespace Request

theorem encodeFields_cons {name : String} {content : Json} {rest entries : Members}
    (encoded : encodeFields ((name, content) :: rest) = .ok entries) :
    ∃ written later, Quantity.encodeField content = .ok written ∧
      encodeFields rest = .ok later ∧ entries = (name, written) :: later := by
  rw [encodeFields] at encoded
  cases head : Quantity.encodeField content with
  | error cause =>
    rw [head] at encoded
    cases encoded
  | ok written =>
    rw [head] at encoded
    cases tail : encodeFields rest with
    | error cause =>
      rw [tail] at encoded
      cases encoded
    | ok later =>
      rw [tail] at encoded
      cases encoded
      exact ⟨written, later, rfl, rfl, rfl⟩

theorem names_encodeFields {fields entries : Members}
    (encoded : encodeFields fields = .ok entries) :
    entries.map Prod.fst = fields.map Prod.fst := by
  induction fields generalizing entries with
  | nil =>
    cases encoded
    rfl
  | cons first rest ih =>
    obtain ⟨written, later, -, tail, rfl⟩ := encodeFields_cons encoded
    simp only [List.map_cons, ih tail]

theorem get?_encodeFields {fields entries : Members}
    (encoded : encodeFields fields = .ok entries) {name : String} {content : Json}
    (found : Members.get? name fields = some content) :
    ∃ written, Quantity.encodeField content = .ok written ∧
      Members.get? name entries = some written := by
  induction fields generalizing entries with
  | nil => cases found
  | cons first rest ih =>
    obtain ⟨other, value⟩ := first
    obtain ⟨written, later, head, tail, rfl⟩ := encodeFields_cons encoded
    rw [Members.get?] at found ⊢
    by_cases same : other = name
    · rw [if_pos same] at found ⊢
      cases found
      exact ⟨written, head, rfl⟩
    · rw [if_neg same] at found ⊢
      exact ih tail found

def wireNames : List String :=
  ["from", "to", "gas", "gasPrice", "value", "data", "nonce", "chainId", "maxPriorityFeePerGas",
   "maxFeePerGas", "incentiveAddress"]

theorem names_slots (r : Request) : r.slots.map Prod.fst = wireNames := rfl

theorem nodup_wireNames : wireNames.Nodup := by decide

variable {r : Request} {entries : Members} {name : String}

theorem names_wire (wired : r.wire = .ok entries) :
    (entries.map Prod.fst).Sublist wireNames := by
  rw [names_encodeFields wired, ← names_slots r]
  exact List.filter_sublist.map Prod.fst

theorem get?_fields (r : Request) (name : String) :
    Members.get? name r.fields =
      (Members.get? name r.slots).filter fun content => !content.isNull :=
  Members.get?_filter (fun content => !content.isNull) (names_slots r ▸ nodup_wireNames) name

theorem get?_wire_of_null (wired : r.wire = .ok entries)
    (slot : Members.get? name r.slots = some .null) : Members.get? name entries = none := by
  have unset : Members.get? name r.fields = none := by
    rw [get?_fields, slot]
    rfl
  rw [Members.get?_eq_none_iff] at unset ⊢
  rw [names_encodeFields wired]
  exact unset

theorem get?_wire_of_set (wired : r.wire = .ok entries) {content : Json}
    (slot : Members.get? name r.slots = some content) (set : content.isNull = false) :
    ∃ written, Quantity.encodeField content = .ok written ∧
      Members.get? name entries = some written := by
  apply get?_encodeFields wired
  rw [get?_fields, slot]
  simp [Option.filter, set]

theorem payload_of_wire (wired : r.wire = .ok entries) : r.payload = .ok (.object entries) := by
  rw [payload, wired]
  rfl

theorem get?_wire_text (wired : r.wire = .ok entries) {text : Option String}
    (slot : Members.get? name r.slots = some (.ofText? text)) :
    Members.get? name entries = text.map .text := by
  cases text with
  | none => exact get?_wire_of_null wired slot
  | some s =>
    obtain ⟨written, encoded, found⟩ := get?_wire_of_set wired slot rfl
    cases encoded
    exact found

theorem get?_wire_number (wired : r.wire = .ok entries) {number : Option Int}
    (slot : Members.get? name r.slots = some (.ofInt? number)) :
    Quantity.Delivers number (Members.get? name entries) := by
  cases number with
  | none =>
    rw [get?_wire_of_null wired slot]
    exact .missing
  | some n =>
    obtain ⟨written, encoded, found⟩ := get?_wire_of_set wired slot rfl
    rw [found]
    simp only [Json.ofInt?, Quantity.encodeField] at encoded
    cases spelled : Quantity.encode n with
    | error cause =>
      rw [spelled] at encoded
      cases encoded
    | ok text =>
      rw [spelled] at encoded
      cases encoded
      exact .given (Quantity.decode_of_encode spelled)

end Request

/-- A checked draft keeps its cargo, has fees of one model and marked data. -/
structure Draft.Checked (draft : Draft) (r : Request) : Prop where
  sender : draft.sender = some r.sender
  recipient : r.recipient = draft.recipient
  gas : r.gas = draft.gas
  value : r.value = draft.value
  nonce : r.nonce = draft.nonce
  fees : Fees.ofFields draft.gasPrice draft.chainId draft.tip draft.cap draft.incentive = .ok r.fees
  data : markedData draft.data = .ok r.data

theorem Draft.checked_of_check {draft : Draft} {r : Request} (checked : draft.check = .ok r) :
    draft.Checked r := by
  unfold check at checked
  split at checked
  next => cases checked
  next sender given =>
    split at checked
    next truthy =>
      split at checked
      next => cases checked
      next fees modelled =>
        split at checked
        next => cases checked
        next data marked =>
          cases checked
          exact ⟨given, rfl, rfl, rfl, rfl, modelled, marked⟩
    next => cases checked

end TxSubmission
