import TxSubmission.Request.Reading
import TxSubmission.Session

/-!
Reading steps: the name of an operation and its arguments by name. An operation whose arguments do
not fit its parameters is a step of its own, which fails, and so is one that does not exist.
-/

namespace TxSubmission

open Number

def BlockParameter.ofMembers (name : String) (arguments : Members) : BlockParameter :=
  match Members.get? name arguments with
  | some value => .ofJson value
  | none => .latest

namespace Order

def needed : List String := ["gas_limit", "to", "data", "value"]

def ofMembers (terms : FeeTerms) (arguments : Members) : Order :=
  { terms
    gasLimit := Given.ofJson? (Members.get "gas_limit" arguments)
    recipient := Given.ofJson? (Members.get "to" arguments)
    data := Given.ofJson? (Members.get "data" arguments)
    value := Given.ofJson? (Members.get "value" arguments)
    deploys := Given.ofJson ((Members.get? "constructor" arguments).getD (.bool false)) }

def readLegacy (arguments : Members) : Except Fault Order := do
  Signature.check ⟨"gas_price" :: needed, ["constructor"]⟩ arguments
  pure (ofMembers (.legacy (Given.ofJson? (Members.get "gas_price" arguments))) arguments)

def readMarket (terms : Option (Given Int) → Option (Given Int) → Option (Given Int) → FeeTerms)
    (arguments : Members) : Except Fault Order := do
  Signature.check
    ⟨["chain_id", "max_priority_fee_per_gas", "max_fee_per_gas"] ++ needed, ["constructor"]⟩
    arguments
  let number (name : String) : Option (Given Int) := Given.ofJson? (Members.get name arguments)
  pure
    (ofMembers
      (terms (number "chain_id") (number "max_priority_fee_per_gas") (number "max_fee_per_gas"))
      arguments)

end Order

def ManagerStep.read (name : String) (arguments : Members) : Except Fault ManagerStep :=
  match name with
  | "from_address" => .ok .address
  | "send_transaction" => (Order.readLegacy arguments).map .send
  | "send_eip1559_transaction" => (Order.readMarket .market arguments).map .send
  | "send_incentive_transaction" => (Order.readMarket .incentive arguments).map .send
  | "execute_transaction" => (Order.readLegacy arguments).map .execute
  | "execute_eip1559_transaction" => (Order.readMarket .market arguments).map .execute
  | "execute_incentive_transaction" => (Order.readMarket .incentive arguments).map .execute
  | "send_call" => do
    Signature.check ⟨["to", "data"], ["block_parameter"]⟩ arguments
    pure
      (.call (Given.ofJson? (Members.get "to" arguments))
        (Given.ofJson? (Members.get "data" arguments)) (.ofMembers "block_parameter" arguments))
  | "get_code" => do
    Signature.check ⟨["address"], ["block_parameter"]⟩ arguments
    pure
      (.code (Given.ofJson (Members.get "address" arguments))
        (.ofMembers "block_parameter" arguments))
  | "wait" => do
    Signature.check ⟨["tx_hash"], []⟩ arguments
    pure (.await (Given.ofJson (Members.get "tx_hash" arguments)))
  | _ => .error .unknownOperation

def ProviderStep.readPlain : String → Except Fault ProviderStep
  | "health_check" => .ok .health
  | "close" => .ok .close
  | "ready" => .ok .ready
  | "get_incentive_address" => .ok .incentiveAddress
  | "chain_id" => .ok .chainId
  | _ => .error .unknownOperation

def ProviderStep.read (name : String) (arguments : Members) : Except Fault ProviderStep :=
  let recipe : Except Fault Recipe := Recipe.ofJson (Members.get "request" arguments)
  match name with
  | "name" => .ok .name
  | "rpc_url" => .ok .url
  | "timeout_s" => .ok .timeout
  | "send_transaction" => do
    Signature.check ⟨["request"], []⟩ arguments
    pure (.send (← recipe))
  | "call" => do
    Signature.check ⟨["request"], ["block"]⟩ arguments
    pure (.call (← recipe) (.ofMembers "block" arguments))
  | "get_code" => do
    Signature.check ⟨["address"], ["block"]⟩ arguments
    pure (.code (Given.ofJson (Members.get "address" arguments)) (.ofMembers "block" arguments))
  | "get_transaction_receipt" => do
    Signature.check ⟨["tx_hash"], []⟩ arguments
    pure (.receipt (Given.ofJson (Members.get "tx_hash" arguments)))
  | "estimate_gas" => do
    Signature.check ⟨["request"], []⟩ arguments
    pure (.estimateGas (← recipe))
  | other => do
    let step ← readPlain other
    Signature.check {} arguments
    pure step

def providerName? (name : String) : Option String :=
  let mark := "provider.".toList
  if mark.isPrefixOf name.toList then some (String.ofList (name.toList.drop mark.length))
  else none

def Step.read (name : String) (arguments : Members) : Except Fault Step :=
  if name = "polling" then .ok .budget
  else
    match providerName? name with
    | some operation => (ProviderStep.read operation arguments).map .provider
    | none => (ManagerStep.read name arguments).map .manager

def performRead {σ ι : Type} (perform : ι → Act σ Answer) : Except Fault ι → Act σ Answer
  | .ok step => perform step
  | .error fault => Act.fail (.fault fault)

def Endpoint.ofMembers (config : Members) : Except Fault Endpoint := do
  Signature.check ⟨["rpc_url"], ["timeout_s", "incentive_address_method"]⟩ config
  pure
    { url := Given.ofJson (Members.get "rpc_url" config)
      timeout := Given.ofJson? ((Members.get? "timeout_s" config).getD (.int 30))
      lookupMethod :=
        match Members.get? "incentive_address_method" config with
        | some method => Given.ofJson method
        | none => .fit defaultLookup }

end TxSubmission
