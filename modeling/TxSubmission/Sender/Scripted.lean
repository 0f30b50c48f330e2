import TxSubmission.Manager

/-!
Senders that play back outcomes. Each operation has its own list of outcomes, taken in order, of
which the last stays in force; every call is shown with its arguments. A manager over such parts
can be examined without a node.
-/

namespace TxSubmission

structure Script where
  address : Given String := .fit ""
  legacy : List (Except ExecutionError SendReply) := []
  market : List (Except ExecutionError SendReply) := []
  incentive : List (Except ExecutionError SendReply) := []
  calls : List (Except ExecutionError CallReply) := []
  codes : List (Except ExecutionError CodeReply) := []
  receipts : List (Except ExecutionError Receipt) := []

namespace Script

def take {α : Type} (fallback : α) :
    List (Except ExecutionError α) → Except ExecutionError α × List (Except ExecutionError α)
  | [] => (.ok fallback, [])
  | [last] => (last, [last])
  | outcome :: rest => (outcome, rest)

def play {α : Type} (operation : String) (arguments : List Json)
    (next : Script → Except ExecutionError α × Script) : Act Script α := do
  Act.emit (.called operation arguments)
  let outcome ← Act.modifyGet next
  Act.ofExcept (outcome.mapError .execution)

def operation : FeeTerms → String
  | .legacy _ => "send_transaction"
  | .market .. => "send_eip1559_transaction"
  | .incentive .. => "send_incentive_transaction"

def feeArguments : FeeTerms → List Json
  | .legacy gasPrice => [Given.toJson? gasPrice]
  | .market chainId tip cap => [Given.toJson? chainId, Given.toJson? tip, Given.toJson? cap]
  | .incentive chainId tip cap => [Given.toJson? chainId, Given.toJson? tip, Given.toJson? cap]

def orderArguments (order : Order) : List Json :=
  feeArguments order.terms ++
    [Given.toJson? order.gasLimit, Given.toJson? order.recipient, Given.toJson? order.data,
     Given.toJson? order.value, order.deploys.toJson]

def takeSend (terms : FeeTerms) (script : Script) : Except ExecutionError SendReply × Script :=
  match terms with
  | .legacy _ =>
    let (outcome, rest) := take {} script.legacy
    (outcome, { script with legacy := rest })
  | .market .. =>
    let (outcome, rest) := take {} script.market
    (outcome, { script with market := rest })
  | .incentive .. =>
    let (outcome, rest) := take {} script.incentive
    (outcome, { script with incentive := rest })

def takeCall (script : Script) : Except ExecutionError CallReply × Script :=
  let (outcome, rest) := take {} script.calls
  (outcome, { script with calls := rest })

def takeCode (script : Script) : Except ExecutionError CodeReply × Script :=
  let (outcome, rest) := take {} script.codes
  (outcome, { script with codes := rest })

def takeReceipt (hash : Given String) (script : Script) : Except ExecutionError Receipt × Script :=
  let (outcome, rest) := take { hash := hash.toJson } script.receipts
  (outcome, { script with receipts := rest })

/-- A sender that plays back the outcomes of the script that it runs in. -/
def sender (address : Given String) : Sender Script where
  address
  send order := play (operation order.terms) (orderArguments order) (takeSend order.terms)
  call recipient data block :=
    play "call" [Given.toJson? recipient, Given.toJson? data, block.toJson] takeCall
  code address block := play "get_code" [address.toJson, block.toJson] takeCode

def manager (address : Given String) : Manager Script where
  sender := sender address
  await hash := play "wait_for_transaction_receipt" [hash.toJson] (takeReceipt hash)

end Script

end TxSubmission
