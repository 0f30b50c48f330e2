import TxSubmission.Manager
import TxSubmission.Sender.Account

/-!
Managers for accounts on a node, whose receipts are polled through the same provider.
-/

namespace TxSubmission

structure Custody where
  account : Account
  polling : Polling

namespace Custody

/-- Checks the account first and then the budget. -/
def check (endpoint : Endpoint) (address : Given String) (attempts : Given Int)
    (interval : Given Number.Amount) : Except Fault Custody := do
  let account ← (Account.check endpoint address).mapError .invalid
  let polling ← Polling.check attempts interval
  pure { account, polling }

def await (custody : Custody) (hash : Given String) : Act Link Receipt :=
  custody.polling.wait (Provider.receipt custody.account.endpoint) hash

def manager (custody : Custody) : Manager Link where
  sender := custody.account.sender
  await := custody.await

end Custody

end TxSubmission
