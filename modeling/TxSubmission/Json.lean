import TxSubmission.Number.Amount

/-!
Values of the data format that a node speaks. The members of an object keep the order in which
their names were first written, because a log line shows them in that order; a name that is
written again keeps its place and takes the later value. Whole numbers and binary numbers are
different values.
-/

namespace TxSubmission

open Number

inductive Json where
  | null
  | bool (b : Bool)
  | int (n : Int)
  | real (x : Binary64)
  | text (s : String)
  | list (items : List Json)
  | object (members : List (String × Json))
deriving Inhabited

inductive Json.Container where
  | list
  | object
deriving DecidableEq, Repr

abbrev Members := List (String × Json)

namespace Members

def insert (name : String) (value : Json) : Members → Members
  | [] => [(name, value)]
  | (other, old) :: rest =>
    if other = name then (name, value) :: rest else (other, old) :: insert name value rest

def get? (name : String) : Members → Option Json
  | [] => none
  | (other, value) :: rest => if other = name then some value else get? name rest

def get (name : String) (members : Members) : Json :=
  (get? name members).getD .null

end Members

namespace Json

/-- Null, false, zero and everything empty do not count as true. -/
def isTruthy : Json → Bool
  | .null => false
  | .bool b => b
  | .int n => n != 0
  | .real x => !x.isZero
  | .text s => s != ""
  | .list items => !items.isEmpty
  | .object members => !members.isEmpty

def isNull : Json → Bool
  | .null => true
  | _ => false

def ofText? : Option String → Json
  | some s => .text s
  | none => .null

def ofInt? : Option Int → Json
  | some n => .int n
  | none => .null

def ofAmount : Amount → Json
  | .whole n => .int n
  | .real x => .real x

mutual

def isFinite : Json → Bool
  | .real (.infinite _) => false
  | .real .nan => false
  | .list items => areFinite items
  | .object members => membersFinite members
  | _ => true

def areFinite : List Json → Bool
  | [] => true
  | item :: rest => isFinite item && areFinite rest

def membersFinite : List (String × Json) → Bool
  | [] => true
  | (_, value) :: rest => isFinite value && membersFinite rest

end

def present? : Json → Option Json
  | .null => none
  | value => some value

end Json

end TxSubmission
