import TxSubmission.Arguments
import TxSubmission.Request.Recipe

/-!
Reading descriptions of requests: objects with the arguments of one recipe by name, the recipe
itself being named under `form`. Without a form the arguments are the fields of a draft.
-/

namespace TxSubmission.Recipe

def signature? : String → Option Signature
  | "legacy" =>
    some ⟨["from_address", "nonce", "gas_price", "gas_limit", "to"], ["value", "data"]⟩
  | "eip1559" =>
    some
      ⟨["from_address", "nonce", "gas_limit", "to", "value", "data", "chain_id",
        "max_priority_fee_per_gas", "max_fee_per_gas"], ["incentive_address"]⟩
  | "incentive" =>
    some
      ⟨["from_address", "nonce", "gas_limit", "to", "value", "data", "chain_id",
        "max_priority_fee_per_gas", "max_fee_per_gas", "incentive_address"], []⟩
  | "contract_creation" =>
    some ⟨["from_address", "nonce", "gas_price", "init"], ["gas_limit", "value"]⟩
  | "ether_transfer" =>
    some ⟨["from_address", "nonce", "gas_price", "gas_limit", "to", "value"], []⟩
  | "function_call" =>
    some ⟨["from_address", "nonce", "gas_price", "gas_limit", "to", "data"], ["value"]⟩
  | "eth_call" => some ⟨["from_address", "to", "data"], ["value"]⟩
  | "" =>
    some
      ⟨["from_address"],
       ["to", "gas", "gas_price", "value", "data", "nonce", "chain_id",
        "max_priority_fee_per_gas", "max_fee_per_gas", "incentive_address"]⟩
  | _ => none

/-- The fields that arguments give, of which two go by another name in some recipes. -/
def draft (arguments : Members) : Draft :=
  let number (name : String) : Option (Given Int) := Given.ofJson? (Members.get name arguments)
  let text (name : String) : Option (Given String) := Given.ofJson? (Members.get name arguments)
  { sender := text "from_address"
    recipient := text "to"
    gas := (number "gas").or (number "gas_limit")
    value := number "value"
    data := (text "data").or (text "init")
    nonce := number "nonce"
    gasPrice := number "gas_price"
    chainId := number "chain_id"
    tip := number "max_priority_fee_per_gas"
    cap := number "max_fee_per_gas"
    incentive := text "incentive_address" }

def ofDraft (form : String) (d : Draft) : Recipe :=
  match form with
  | "legacy" => .legacy d.toCargo d.gasPrice
  | "eip1559" => .market d.toCargo d.chainId d.tip d.cap d.incentive
  | "incentive" => .incentivized d.toCargo d.chainId d.tip d.cap d.incentive
  | "contract_creation" => .deployment d.toCargo d.gasPrice
  | "ether_transfer" => .transfer d.toCargo d.gasPrice
  | "function_call" => .functionCall d.toCargo d.gasPrice
  | "eth_call" => .readOnly d.toCargo
  | _ => .plain d

def ofMembers (description : Members) : Except Fault Recipe := do
  let form :=
    match Members.get "form" description with
    | .text form => form
    | _ => ""
  let arguments := description.filter fun (name, _) => name != "form"
  match signature? form with
  | some signature => do
    signature.check arguments
    pure (ofDraft form (draft arguments))
  | none => .error .unknownOperation

def ofJson : Json → Except Fault Recipe
  | .object description => ofMembers description
  | _ => .error (.wrongType .arguments)

end TxSubmission.Recipe
