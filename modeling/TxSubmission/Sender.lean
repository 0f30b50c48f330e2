import TxSubmission.Act
import TxSubmission.BlockParameter
import TxSubmission.Given
import TxSubmission.Reply

/-!
Senders. A sender performs one request for an account and returns the raw reply; it decides
nothing about what the reply means and repeats nothing.
-/

namespace TxSubmission

inductive FeeTerms where
  | legacy (gasPrice : Option (Given Int))
  | market (chainId tip cap : Option (Given Int))
  | incentive (chainId tip cap : Option (Given Int))

/-- A transaction as a caller asks for it. The flag says that the caller means to create a
contract; the recipient alone decides whether one is created. -/
structure Order where
  terms : FeeTerms
  gasLimit : Option (Given Int) := none
  recipient : Option (Given String) := none
  data : Option (Given String) := none
  value : Option (Given Int) := none
  deploys : Given Bool := .fit false

structure Sender (σ : Type) where
  address : Given String
  send : Order → Act σ SendReply
  call : Option (Given String) → Option (Given String) → BlockParameter → Act σ CallReply
  code : Given String → BlockParameter → Act σ CodeReply

end TxSubmission
