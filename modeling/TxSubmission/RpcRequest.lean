import TxSubmission.Fault
import TxSubmission.Given

/-!
Requests to a node: a number, a method and its parameters, posted as one object. A request is
logged before it is posted, and one that cannot be written into a log line is not posted.
-/

namespace TxSubmission

open Number

/-- Why the text of a number is missing, if it is. -/
def Fault.ofText? : Except LiteralFault String → Option Fault
  | .ok _ => none
  | .error fault => some (.invalid (.literal fault))

namespace Json

mutual

/-- Why a value cannot be written inside a list or an object, if it cannot: a number has too many
digits, or values lie deeper in each other than there is room for. -/
def unshown? : Json → Nat → Option Fault
  | _, 0 => some (.tooDeep .showing)
  | .int n, _ + 1 => Fault.ofText? (shown n)
  | .list items, room + 1 => unshownItem? items room
  | .object members, room + 1 => unshownMember? members room
  | _, _ + 1 => none

def unshownItem? : List Json → Nat → Option Fault
  | [], _ => none
  | item :: rest, room => (unshown? item room).or (unshownItem? rest room)

def unshownMember? : List (String × Json) → Nat → Option Fault
  | [], _ => none
  | (_, _) :: _, 0 => some (.tooDeep .showing)
  | (_, value) :: rest, room + 1 =>
    (unshown? value (room + 1)).or (unshownMember? rest (room + 1))

end

end Json

structure RpcRequest where
  id : Nat
  method : Given String
  params : List Json

namespace RpcRequest

def body (request : RpcRequest) : Json :=
  .object
    [("jsonrpc", .text "2.0"), ("id", .int request.id), ("method", request.method.toJson),
     ("params", .list request.params)]

/-- Why a request of a method cannot be written into a log line, if it cannot. The room is what is
left for values inside an object among the parameters. -/
def unshown? (room : Nat) (method : Given String) (params : List Json) : Option Fault :=
  (method.toJson.unshown? (room + 1)).or ((Json.list params).unshown? (room + 3))

def text (method : Given String) (params : List Json) : String :=
  "RPC " ++ method.display ++ " " ++ (Json.list params).display

def logText (room : Nat) (method : Given String) (params : List Json) : Except Fault String :=
  match unshown? room method params with
  | some fault => .error fault
  | none => .ok (text method params)

end RpcRequest

end TxSubmission
