import TxSubmission.Provider
import TxSubmission.Sender

/-!
Accounts that a node holds. Requests are built for the address of the account without a nonce,
which the node assigns, and go out through the provider to be signed by the node.
-/

namespace TxSubmission

structure Account where
  endpoint : Endpoint
  address : Given String
  address_given : address.isTruthy = true

namespace Account

def check (endpoint : Endpoint) (address : Given String) : Except Invalid Account :=
  if h : address.isTruthy = true then .ok { endpoint, address, address_given := h }
  else .error .accountMissing

def cargo (account : Account) (order : Order) : Cargo :=
  { sender := some account.address
    recipient := order.recipient
    gas := order.gasLimit
    value := order.value
    data := order.data }

/-- Sends an order. An incentive recipient is looked up for every order anew, because it may
change between two blocks. -/
def send (account : Account) (order : Order) : Act Link SendReply := do
  let cargo := account.cargo order
  let request ←
    match order.terms with
    | .legacy gasPrice => Act.ofFault (Request.legacy cargo gasPrice)
    | .market chainId tip cap => Act.ofFault (Request.market cargo chainId tip cap none)
    | .incentive chainId tip cap => do
      let recipient ← Provider.incentiveAddress account.endpoint
      Act.log .debug .account ("Using incentive address " ++ recipient)
      Act.ofFault (Request.incentivized cargo chainId tip cap (some (.fit recipient)))
  Provider.send account.endpoint request

def call (account : Account) (recipient data : Option (Given String)) (block : BlockParameter) :
    Act Link CallReply := do
  let request ← Act.ofFault (Request.readOnly { sender := some account.address, recipient, data })
  Provider.call account.endpoint request block

def sender (account : Account) : Sender Link where
  address := account.address
  send := account.send
  call := account.call
  code := Provider.code account.endpoint

end Account

end TxSubmission
