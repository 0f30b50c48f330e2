import TxSubmission.BlockParameter
import TxSubmission.Failure
import TxSubmission.Number.Amount
import TxSubmission.Revert
import TxSubmission.Text.LongHex

/-!
The constants of the library under the names by which its callers know them.
-/

namespace TxSubmission.Interface

open Number

def defaultGas : Int := 9000

def blockTime : Amount := .real (.ofRatio false 15 1)

def pollingAttempts : Int := 40

def exports : List String :=
  ["CallResponse", "ClientTransactionSender", "DEFAULT_BLOCK_TIME", "DEFAULT_GAS",
   "DEFAULT_POLLING_ATTEMPTS_PER_TX_HASH", "DEFAULT_POLLING_FREQUENCY", "ExecutionError",
   "GetCodeResponse", "JsonRpcError", "PollingTransactionReceiptProcessor", "REVERT_ERR_STR",
   "RpcError", "SendTransactionResponse", "TransactionBuilder", "TransactionManager",
   "TransactionReceipt", "TransactionReceiptProcessor", "TransactionRequest",
   "TransactionRevertError", "TransactionSender", "TransactionSubmitError",
   "TransactionTimeoutError", "TransportError", "create_client_transaction_manager"]

def constants : Members :=
  [("DEFAULT_GAS", .int defaultGas),
   ("EXECUTION_REVERTED_CODE", .int RpcError.revertedCode),
   ("INTERNAL_ERROR_CODE", .int RpcError.internalCode),
   ("REVERT_ERR_STR", .text (ExecutionError.revertSentence "\x7b\x7d")),
   ("REVERT_SELECTOR", .text Revert.selector),
   ("DEFAULT_BLOCK_TIME", .ofAmount blockTime),
   ("DEFAULT_POLLING_ATTEMPTS_PER_TX_HASH", .int pollingAttempts),
   ("DEFAULT_POLLING_FREQUENCY", .ofAmount blockTime),
   ("MAX_HEX_CHARS", .int Text.maxHexChars),
   ("BLOCK_PARAMETER_NAMES", .list (BlockParameter.tags.map .text)),
   ("exports", .list (exports.map .text))]

end TxSubmission.Interface
