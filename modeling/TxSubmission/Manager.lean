import TxSubmission.Polling
import TxSubmission.Sender

/-!
The manager decides what a reply means. A rejected submission fails at once and no receipt is
asked for; an accepted one is waited for; a reverted call fails with its reason.
-/

namespace TxSubmission

structure Manager (σ : Type) where
  sender : Sender σ
  await : Given String → Act σ Receipt

namespace Manager

variable {σ : Type}

def reject {α : Type} (error : RpcError) : Act σ α := Act.raise (.rejected error none)

def confirm (manager : Manager σ) (reply : SendReply) : Act σ Receipt := do
  match reply.error, reply.hash.filter Given.isTruthy with
  | some error, _ =>
    Act.log .warning .manager ("Transaction rejected by node: " ++ error.text)
    reject error
  | none, none =>
    Act.log .warning .manager "Node accepted the transaction without returning a hash"
    reject .missingHash
  | none, some hash =>
    Act.log .info .manager ("Transaction submitted: " ++ hash.display)
    manager.await hash

def send (manager : Manager σ) (order : Order) : Act σ SendReply := manager.sender.send order

def execute (manager : Manager σ) (order : Order) : Act σ Receipt := do
  let reply ← manager.sender.send order
  manager.confirm reply

/-- Runs a call and returns what it yields: the value, or else what the error carried. -/
def call (manager : Manager σ) (recipient data : Option (Given String)) (block : BlockParameter) :
    Act σ Json := do
  let reply ← manager.sender.call recipient data block
  if reply.reverted then
    Act.log .warning .manager ("Call reverted: " ++ Given.display? reply.reason)
    Act.raise (.reverted reply.reason)
  else
    match reply.value.present?, reply.error with
    | some value, _ => pure value
    | none, some error => pure error.data
    | none, none => pure .null

def code (manager : Manager σ) (address : Given String) (block : BlockParameter) :
    Act σ CodeReply :=
  manager.sender.code address block

end Manager

end TxSubmission
