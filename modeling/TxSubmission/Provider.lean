import TxSubmission.Act
import TxSubmission.BlockParameter
import TxSubmission.Node
import TxSubmission.Reply
import TxSubmission.Request.Recipe
import TxSubmission.Request.Wire

/-!
The provider: one node behind an address, spoken to one request at a time. A request is numbered,
posted once through an HTTP client that is created when there is none open, and answered by one
reply; nothing is repeated and no redirect is followed. Operations that return a reply hand an
error of the node back inside it; the others raise it.
-/

namespace TxSubmission

open Number

/-- How deep values may lie in the parameters of a request that is made from an ordinary place. -/
def Endpoint.usualRoom : Nat := 970

/-- Where a node is reached, how long a request may take, the method that looks up the incentive
recipient, and the room for values inside others in the parameters of a request. -/
structure Endpoint where
  url : Given String
  timeout : Option (Given Amount)
  lookupMethod : Given String
  room : Nat := Endpoint.usualRoom

def Endpoint.defaultLookup : String := "eth_getIncentiveAddress"

/-- The address of a node. It is read for every request anew. -/
def Endpoint.address (endpoint : Endpoint) : Except Fault Http.Address :=
  match endpoint.url with
  | .fit url => (Http.Address.read url).mapError .address
  | .odd value => .error (.wrongType (.address value.described))

/-- The HTTP client of a provider. -/
inductive HttpClient where
  | absent
  | live
  | closed
deriving DecidableEq, Repr

structure Link where
  node : Node
  sent : Nat := 0
  client : HttpClient := .absent

namespace Provider

def name : String := "jsonrpc"

def connect (endpoint : Endpoint) : Act Link Unit := do
  let link ← Act.get
  if link.client ≠ .live then
    Act.emit (.opened endpoint.timeout)
    Act.modifyGet fun link => ((), { link with client := .live })

def number : Act Link Nat :=
  Act.modifyGet fun link => (link.sent + 1, { link with sent := link.sent + 1 })

def post (address : Http.Address) (request : RpcRequest) : Act Link Http.Reply := do
  Act.emit (.posted address.text request)
  Act.modifyGet fun link =>
    (link.node.next request.method, { link with node := link.node.advance request.method })

/-- One exchange: the envelope that the node sent, or a failure. A request that cannot be logged is
not sent, and neither is one that holds a number that is not finite. -/
def exchange (endpoint : Endpoint) (method : Given String) (params : List Json) :
    Act Link Members := do
  connect endpoint
  let id ← number
  -- the number is used up from here on, even if nothing is posted
  let text ← Act.ofFault (RpcRequest.logText endpoint.room method params)
  Act.log .debug .provider text
  let address ← Act.ofFault endpoint.address
  let request : RpcRequest := { id, method, params }
  if !request.body.isFinite then Act.raise (.transport (.unreadable method.display))
  else
    let reply ← post address request
    match reply.envelope address method.display with
    | .ok envelope => pure envelope
    | .error failure =>
      if failure.isBroken then Act.log .error .provider failure.message
      Act.fail failure

def result (endpoint : Endpoint) (method : Given String) (params : List Json) :
    Act Link Json := do
  let envelope ← exchange endpoint method params
  match ← Act.ofFault (RpcError.ofEnvelope envelope) with
  | some error => Act.raise (.rpc error none)
  | none => pure (Members.get "result" envelope)

def ready (endpoint : Endpoint) : Bool := endpoint.url.isTruthy

def send (endpoint : Endpoint) (request : Request) : Act Link SendReply := do
  let payload ← Act.ofInvalid request.payload
  let envelope ← exchange endpoint (.fit "eth_sendTransaction") [payload]
  Act.ofFault (SendReply.ofEnvelope envelope)

def call (endpoint : Endpoint) (request : Request) (block : BlockParameter) :
    Act Link CallReply := do
  let payload ← Act.ofInvalid request.payload
  let tag ← Act.ofFault block.encode
  let envelope ← exchange endpoint (.fit "eth_call") [payload, .text tag]
  Act.ofFault (CallReply.ofEnvelope envelope)

def code (endpoint : Endpoint) (address : Given String) (block : BlockParameter) :
    Act Link CodeReply := do
  let tag ← Act.ofFault block.encode
  let envelope ← exchange endpoint (.fit "eth_getCode") [address.toJson, .text tag]
  Act.ofFault (CodeReply.ofEnvelope envelope)

/-- The receipt of a transaction, none while it is pending. A result that does not count as
true means pending, whatever it is. -/
def receipt (endpoint : Endpoint) (hash : Given String) : Act Link (Option Receipt) := do
  let envelope ← exchange endpoint (.fit "eth_getTransactionReceipt") [hash.toJson]
  match ← Act.ofFault (RpcError.ofEnvelope envelope) with
  | some error =>
    let text := "Error processing request: " ++ error.message.display
    Act.raise (.rpc error (some (.fit text)))
  | none =>
    let found := Members.get "result" envelope
    if found.isTruthy then
      let receipt ← Act.ofFault (found.asObject Receipt.ofMembers)
      pure (some receipt)
    else pure none

def incentiveAddress (endpoint : Endpoint) : Act Link String := do
  match ← result endpoint endpoint.lookupMethod [] with
  | .text address =>
    if address = "" then Act.raise (.rpc .invalidIncentive none) else pure address
  | _ => Act.raise (.rpc .invalidIncentive none)

def estimateGas (endpoint : Endpoint) (request : Request) : Act Link (Option Int) := do
  let payload ← Act.ofInvalid request.payload
  let found ← result endpoint (.fit "eth_estimateGas") [payload]
  Act.ofFault (Quantity.ofJson found)

def chainId (endpoint : Endpoint) : Act Link (Option Int) := do
  let found ← result endpoint (.fit "eth_chainId") []
  Act.ofFault (Quantity.ofJson found)

inductive Health where
  | disabled
  | healthy (chainId : Option Int)
  | failing (reason : String)
deriving DecidableEq, Repr

/-- Asks the node for its chain and never fails. -/
def healthCheck (endpoint : Endpoint) : Act Link Health := do
  if ready endpoint then
    match ← Act.attempt (chainId endpoint) with
    | .ok found => pure (.healthy found)
    | .error failure => pure (.failing failure.message)
  else pure .disabled

def close : Act Link Unit :=
  Act.modifyGet fun link =>
    ((), if link.client = .live then { link with client := .closed } else link)

end Provider

end TxSubmission
