import TxSubmission.RpcRequest

/-!
Values that can be sent. A request goes out if it can be written into a log line and posted: no
number is infinite or has too many digits, and nothing lies deeper in other values than there is
room for. A whole number in a field of a transaction is posted as text, so that none is too long
for a field.
-/

namespace TxSubmission

namespace Json

variable {room : Nat}

theorem isFinite_list {items : List Json} :
    (list items).isFinite = true ↔ ∀ item ∈ items, item.isFinite = true := by
  rw [isFinite]
  induction items with
  | nil => simp [areFinite]
  | cons first rest ih => simp [areFinite, ih]

theorem isFinite_object {members : Members} :
    (object members).isFinite = true ↔ ∀ member ∈ members, member.2.isFinite = true := by
  rw [isFinite]
  induction members with
  | nil => simp [membersFinite]
  | cons first rest ih => simp [membersFinite, ih]

theorem unshown?_list {items : List Json} :
    (list items).unshown? (room + 1) = none ↔ ∀ item ∈ items, item.unshown? room = none := by
  rw [unshown?]
  induction items with
  | nil => simp [unshownItem?]
  | cons first rest ih => simp [unshownItem?, ih]

theorem unshown?_object {members : Members} :
    (object members).unshown? (room + 2) = none ↔
      ∀ member ∈ members, member.2.unshown? (room + 1) = none := by
  rw [unshown?]
  induction members with
  | nil => simp [unshownMember?]
  | cons first rest ih => simp [unshownMember?, ih]

/-- Whether a value can be written into a log line and posted. -/
def isSendable (room : Nat) (value : Json) : Bool :=
  value.isFinite && (value.unshown? room).isNone

@[simp]
theorem isSendable_null : null.isSendable (room + 1) = true := rfl

@[simp]
theorem isSendable_text (s : String) : (text s).isSendable (room + 1) = true := rfl

@[simp]
theorem isSendable_ofText? (s : Option String) : (ofText? s).isSendable (room + 1) = true := by
  cases s <;> rfl

theorem isSendable_list {items : List Json} :
    (list items).isSendable (room + 1) = true ↔ ∀ item ∈ items, item.isSendable room = true := by
  simp only [isSendable, Bool.and_eq_true, Option.isNone_iff_eq_none, isFinite_list,
    unshown?_list, forall_and]

theorem isSendable_object {members : Members} :
    (object members).isSendable (room + 2) = true ↔
      ∀ member ∈ members, member.2.isSendable (room + 1) = true := by
  simp only [isSendable, Bool.and_eq_true, Option.isNone_iff_eq_none, isFinite_object,
    unshown?_object, forall_and]

/-- Whether a value can be sent in a field of a transaction, where whole numbers are texts. -/
def isSendableField (room : Nat) : Json → Bool
  | .int _ | .bool _ => true
  | value => value.isSendable room

end Json

def RpcRequest.isSendable (room : Nat) (method : Given String) (params : List Json) : Bool :=
  method.toJson.isSendable (room + 1) && (Json.list params).isSendable (room + 3)

namespace RpcRequest

variable {room : Nat} {method : Given String} {params : List Json}

theorem isSendable_fit {method : String}
    (sendable : (Json.list params).isSendable (room + 3) = true) :
    isSendable room (.fit method) params = true :=
  (Bool.and_eq_true_iff).mpr ⟨rfl, sendable⟩

theorem isSendable_iff :
    isSendable room method params = true ↔ unshown? room method params = none ∧
      (method.toJson.isFinite && (Json.list params).isFinite) = true := by
  simp only [isSendable, Json.isSendable, unshown?, Bool.and_eq_true, Option.isNone_iff_eq_none,
    Option.or_eq_none_iff]
  exact ⟨fun ⟨⟨a, b⟩, c, d⟩ => ⟨⟨b, d⟩, a, c⟩, fun ⟨⟨b, d⟩, a, c⟩ => ⟨⟨a, b⟩, c, d⟩⟩

theorem unshown?_of_long {method : String} {n : Int}
    (long : Nat.pow 10 Number.maxDecimalDigits ≤ n.natAbs) :
    unshown? room (.fit method) [.int n] = some (.invalid (.literal .tooLongToShow)) := by
  have named : (Given.fit method).toJson.unshown? (room + 1) = none := rfl
  rw [unshown?, named, Json.unshown?, Json.unshownItem?, Json.unshown?,
    Number.shown_of_long long, Fault.ofText?, Option.some_or, Option.none_or]

theorem isFinite_body {id : Nat} :
    (body ⟨id, method, params⟩).isFinite =
      (method.toJson.isFinite && (Json.list params).isFinite) := by
  simp [body, Json.isFinite, Json.membersFinite]

end RpcRequest

end TxSubmission
