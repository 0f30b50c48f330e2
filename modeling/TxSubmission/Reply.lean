import TxSubmission.Quantity
import TxSubmission.Revert
import TxSubmission.RpcError

/-!
What a node answers. The answer to a request is an envelope, an object with a result or an
error; an error that is not null wins over any result. Only the fields that the program works
with are looked at, the rest is passed on as it came.
-/

namespace TxSubmission

structure SendReply where
  hash : Option (Given String) := none
  error : Option RpcError := none

structure CallReply where
  value : Json := .null
  error : Option RpcError := none
  reverted : Bool := false
  reason : Option (Given String) := none

structure CodeReply where
  code : Json := .null
  error : Option RpcError := none

structure Receipt where
  hash : Json
  blockNumber : Option (Given Int) := none
  blockHash : Json := .null
  gasUsed : Option (Given Int) := none
  status : Option (Given Int) := none
  contract : Json := .null
  raw : Json := .object []

def Json.asObject {α : Type} (read : Members → Except Fault α) : Json → Except Fault α
  | .object members => read members
  | _ => .error .notObject

namespace SendReply

/-- An envelope without an error has to hold a hash that is not empty. -/
def ofEnvelope (envelope : Members) : Except Fault SendReply := do
  match ← RpcError.ofEnvelope envelope with
  | some error => pure { error := some error }
  | none =>
    match Members.get "result" envelope with
    | .text hash =>
      if hash = "" then pure { error := some .missingHash } else pure { hash := some (.fit hash) }
    | _ => pure { error := some .missingHash }

end SendReply

namespace CallReply

/-- A call has reverted if the node says so by its code, or else if the result is a revert
payload. -/
def ofEnvelope (envelope : Members) : Except Fault CallReply := do
  let error ← RpcError.ofEnvelope envelope
  let value := Members.get "result" envelope
  match error.filter RpcError.isRevert with
  | some reverting =>
    pure { value, error, reverted := true, reason := some reverting.message }
  | none =>
    let reason ← Revert.ofJson value
    pure { value, error, reverted := reason.isSome, reason := reason.map .fit }

end CallReply

namespace CodeReply

def ofEnvelope (envelope : Members) : Except Fault CodeReply := do
  match ← RpcError.ofEnvelope envelope with
  | some error => pure { error := some error }
  | none => pure { code := Members.get "result" envelope }

end CodeReply

namespace Receipt

def ofMembers (members : Members) : Except Fault Receipt := do
  let blockNumber ← Quantity.ofJson (Members.get "blockNumber" members)
  let gasUsed ← Quantity.ofJson (Members.get "gasUsed" members)
  let status ← Quantity.ofJson (Members.get "status" members)
  pure
    { hash := (Members.get? "transactionHash" members).getD (.text "")
      blockNumber := blockNumber.map .fit
      blockHash := Members.get "blockHash" members
      gasUsed := gasUsed.map .fit
      status := status.map .fit
      contract := Members.get "contractAddress" members
      raw := .object members }

def isSuccess : Given Int → Bool
  | .fit status => status = 1
  | .odd (.bool b) => b
  | .odd (.real x) => x = .ofInt 1
  | .odd _ => false

/-- A receipt without a status comes from a chain that does not tell, and counts as success. -/
def isStatusOk (r : Receipt) : Bool := r.status.all isSuccess

end Receipt

end TxSubmission
