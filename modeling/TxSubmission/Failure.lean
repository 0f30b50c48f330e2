import TxSubmission.RpcError

/-!
How an operation fails. Callers tell the execution errors apart by kind: the node rejected the
submission, a call reverted, no receipt came within the polling budget, the round trip itself
failed, or the node answered with an error. All else is a fault of a value.
-/

namespace TxSubmission

open Number

inductive TransportCause where
  | failed (method text : String)
  | unreadable (method : String)
  | notAnObject (method : String)
  | other (message : Given String)

def TransportCause.message : TransportCause → String
  | .failed method text => "RPC " ++ method ++ " failed: " ++ text
  | .unreadable method => "RPC " ++ method ++ " returned invalid JSON"
  | .notAnObject method => "RPC " ++ method ++ " returned a non-object response"
  | .other message => message.display

/-- A failure of the execution layer. An error of the node may come with a note that replaces
its message. -/
inductive ExecutionError where
  | general (message : Given String)
  | rpc (error : RpcError) (note : Option (Given String))
  | rejected (error : RpcError) (note : Option (Given String))
  | reverted (reason : Option (Given String))
  | timedOut (message hash : Given String) (attempts : Given Int)
  | transport (cause : TransportCause)

namespace ExecutionError

inductive Kind where
  | general
  | rpc
  | rejected
  | reverted
  | timedOut
  | transport
deriving DecidableEq, Repr

def Kind.name : Kind → String
  | .general => "ExecutionError"
  | .rpc => "JsonRpcError"
  | .rejected => "TransactionSubmitError"
  | .reverted => "TransactionRevertError"
  | .timedOut => "TransactionTimeoutError"
  | .transport => "TransportError"

/-- A kind and the more general kinds that it belongs to. -/
def Kind.lineage : Kind → List Kind
  | .general => [.general]
  | .rejected => [.rejected, .rpc, .general]
  | kind => [kind, .general]

def kind : ExecutionError → Kind
  | .general _ => .general
  | .rpc .. => .rpc
  | .rejected .. => .rejected
  | .reverted _ => .reverted
  | .timedOut .. => .timedOut
  | .transport _ => .transport

def noted (error : RpcError) (note : Option (Given String)) : String :=
  (Given.orElse note error.message).display

def revertSentence (reason : String) : String :=
  "Contract Call has been reverted by the EVM with the reason: '" ++ reason ++ "'."

def message : ExecutionError → String
  | .general message => message.display
  | .rpc error note => noted error note
  | .rejected error note => noted error note
  | .reverted reason => revertSentence (Given.display? reason)
  | .timedOut message _ _ => message.display
  | .transport cause => cause.message

end ExecutionError

inductive Failure where
  | fault (cause : Fault)
  | execution (error : ExecutionError)

namespace Failure

def message : Failure → String
  | .fault cause => cause.message
  | .execution error => error.message

/-- Whether an exchange failed before its reply could be looked into. -/
def isBroken : Failure → Bool
  | .execution (.transport (.failed ..)) => true
  | _ => false

def isInvalid : Failure → Bool
  | .fault (.invalid _) => true
  | _ => false

end Failure

end TxSubmission
