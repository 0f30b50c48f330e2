import TxSubmission.Json.Display

/-!
Values that callers give. Where a value of one type is due, a caller who speaks the data format
may give any other value instead. Such a value is kept as it is: some operations work on it all
the same, others refuse it when they come to it.
-/

namespace TxSubmission

open Number

class Plain (α : Type) where
  toJson : α → Json
  ofJson? : Json → Option α

instance : Plain Int where
  toJson := .int
  ofJson?
    | .int n => some n
    | _ => none

instance : Plain String where
  toJson := .text
  ofJson?
    | .text s => some s
    | _ => none

instance : Plain Bool where
  toJson := .bool
  ofJson?
    | .bool b => some b
    | _ => none

instance : Plain Amount where
  toJson := .ofAmount
  ofJson?
    | .int n => some (.whole n)
    | .real x => some (.real x)
    | _ => none

/-- A value that a caller gives where one of a type is due. -/
inductive Given (α : Type) where
  | fit (value : α)
  | odd (value : Json)

namespace Given

variable {α : Type}

instance : Coe α (Given α) := ⟨.fit⟩

variable [Plain α]

def toJson : Given α → Json
  | .fit a => Plain.toJson a
  | .odd value => value

def ofJson (value : Json) : Given α :=
  match Plain.ofJson? value with
  | some a => .fit a
  | none => .odd value

/-- A value that may be missing, null standing for a missing one. -/
def ofJson? (value : Json) : Option (Given α) := value.present?.map ofJson

def isTruthy (given : Given α) : Bool := given.toJson.isTruthy

def toJson? : Option (Given α) → Json
  | some given => given.toJson
  | none => .null

/-- A value that counts as true, or else another. -/
def orElse (given : Option (Given α)) (other : Given α) : Given α :=
  (given.filter isTruthy).getD other

def display (given : Given α) : String := given.toJson.display

def display? (given : Option (Given α)) : String := (toJson? given).display

end Given

theorem isTruthy_text (s : String) : (Given.fit s).isTruthy = true ↔ s ≠ "" := by
  simp [Given.isTruthy, Given.toJson, Plain.toJson, Json.isTruthy]

end TxSubmission
