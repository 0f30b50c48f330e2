import TxSubmission.Custody

/-!
Sessions: steps that a caller takes one after the other. Every step ends with an answer or a
failure; the next one starts in the state that it left, whatever its end was.
-/

namespace TxSubmission

open Number

inductive Answer where
  | nothing
  | flag (b : Bool)
  | text (s : String)
  | number (n : Option Int)
  | amount (amount : Option (Given Amount))
  | value (value : Json)
  | sendReply (reply : SendReply)
  | callReply (reply : CallReply)
  | codeReply (reply : CodeReply)
  | receipt (receipt : Receipt)
  | noReceipt
  | budget (polling : Polling)
  | health (health : Provider.Health)

inductive ManagerStep where
  | address
  | send (order : Order)
  | execute (order : Order)
  | call (recipient data : Option (Given String)) (block : BlockParameter)
  | code (address : Given String) (block : BlockParameter)
  | await (hash : Given String)

inductive ProviderStep where
  | name
  | url
  | timeout
  | ready
  | health
  | close
  | send (recipe : Recipe)
  | call (recipe : Recipe) (block : BlockParameter)
  | code (address : Given String) (block : BlockParameter)
  | receipt (hash : Given String)
  | incentiveAddress
  | estimateGas (recipe : Recipe)
  | chainId

inductive Step where
  | manager (step : ManagerStep)
  | budget
  | provider (step : ProviderStep)

def Manager.perform {σ : Type} (manager : Manager σ) : ManagerStep → Act σ Answer
  | .address => pure (.value manager.sender.address.toJson)
  | .send order => do pure (.sendReply (← manager.send order))
  | .execute order => do pure (.receipt (← manager.execute order))
  | .call recipient data block => do
    pure (.value (← manager.call recipient data block))
  | .code address block => do pure (.codeReply (← manager.code address block))
  | .await hash => do pure (.receipt (← manager.await hash))

def Endpoint.perform (endpoint : Endpoint) : ProviderStep → Act Link Answer
  | .name => pure (.text Provider.name)
  | .url => pure (.value endpoint.url.toJson)
  | .timeout => pure (.amount endpoint.timeout)
  | .ready => pure (.flag (Provider.ready endpoint))
  | .health => do pure (.health (← Provider.healthCheck endpoint))
  | .close => do
    Provider.close
    pure .nothing
  | .send recipe => do
    let request ← Act.ofFault recipe.build
    pure (.sendReply (← Provider.send endpoint request))
  | .call recipe block => do
    let request ← Act.ofFault recipe.build
    pure (.callReply (← Provider.call endpoint request block))
  | .code address block => do pure (.codeReply (← Provider.code endpoint address block))
  | .receipt hash => do
    match ← Provider.receipt endpoint hash with
    | some receipt => pure (.receipt receipt)
    | none => pure .noReceipt
  | .incentiveAddress => do pure (.text (← Provider.incentiveAddress endpoint))
  | .estimateGas recipe => do
    let request ← Act.ofFault recipe.build
    pure (.number (← Provider.estimateGas endpoint request))
  | .chainId => do pure (.number (← Provider.chainId endpoint))

def Custody.perform (custody : Custody) : Step → Act Link Answer
  | .manager step => custody.manager.perform step
  | .budget => pure (.budget custody.polling)
  | .provider step => custody.account.endpoint.perform step

/-- Runs steps in order; the outcome of each comes with its own events. -/
def runSteps {σ ι : Type} (perform : ι → Act σ Answer) : List ι → σ → List (Ran σ Answer)
  | [], _ => []
  | step :: rest, state =>
    let ran := perform step state
    ran :: runSteps perform rest ran.state

/-- The link at the start of a session; a caller may bring an open client along. -/
def Link.fresh (node : Node) (ownClient : Bool) : Link :=
  { node, client := if ownClient then .live else .absent }

end TxSubmission
