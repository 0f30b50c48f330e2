import TxSubmission.Http.Address
import TxSubmission.Json
import TxSubmission.Number.DecimalText
import TxSubmission.Number.Literal

/-!
What can be wrong with a value. A refused value has a cause and a message of its own; a value of
the wrong kind is one that the operation cannot even look at; an overflow is a number outside the
range of another number format. Addresses and values that nodes send have faults of their own.
-/

namespace TxSubmission

open Number

inductive Invalid where
  | negativeQuantity (n : Int)
  | negativeReal (x : Binary64)
  | literal (fault : LiteralFault)
  | notANumber
  | blockFlag
  | unknownBlock (text : String)
  | requestWithoutSender
  | mixedFees
  | unpairedFees
  | feesWithoutChain
  | incentiveWithoutFees
  | legacyWithoutPrice
  | marketWithoutFees
  | marketWithoutChain
  | incentiveMissing
  | accountMissing
  | tooFewAttempts
  | negativeInterval
  | unknownLogFormat (quoted : String)
  | unknownLogLevel (text : String)
  | commandWithoutSender
  | commandWithoutPrice
  | commandWithoutFees
deriving DecidableEq, Repr

def Invalid.message : Invalid → String
  | .negativeQuantity n =>
    match shown n with
    | .ok text => "Quantity must be non-negative, got " ++ text
    | .error fault => fault.message
  | .negativeReal x => "Quantity must be non-negative, got " ++ x.display
  | .literal fault => fault.message
  | .notANumber => "cannot convert float NaN to integer"
  | .blockFlag => "Block parameter must be a tag or a block number"
  | .unknownBlock text => "Unknown block parameter: " ++ text
  | .requestWithoutSender => "Transaction request requires a from address"
  | .mixedFees => "gasPrice cannot be combined with chainId or EIP-1559 fee fields"
  | .unpairedFees => "maxPriorityFeePerGas and maxFeePerGas must be set together"
  | .feesWithoutChain => "EIP-1559 fee fields require a chainId"
  | .incentiveWithoutFees => "incentiveAddress requires EIP-1559 fee fields"
  | .legacyWithoutPrice => "Legacy transactions require a gas price"
  | .marketWithoutFees =>
    "EIP-1559 transactions require maxPriorityFeePerGas and maxFeePerGas"
  | .marketWithoutChain => "EIP-1559 transactions require a chain ID"
  | .incentiveMissing => "Incentive transactions require an incentive address"
  | .accountMissing => "ClientTransactionSender requires a from address"
  | .tooFewAttempts => "Polling attempts must be at least 1"
  | .negativeInterval => "Polling interval must be non-negative"
  | .unknownLogFormat quoted =>
    "Unknown log format " ++ quoted ++ ", expected one of ('json', 'console')"
  | .unknownLogLevel text => "Unknown level: " ++ text
  | .commandWithoutSender => "A sender address is required (--from or FROM_ADDRESS)"
  | .commandWithoutPrice => "--gas-price is required for legacy transactions"
  | .commandWithoutFees =>
    "--chain-id, --max-fee and --max-priority-fee are required for EIP-1559 transactions"

/-- What a value of the wrong kind was meant to be: a number that is read from text, a code for
which there was a list or an object, the level of the log, hex text, a number that is compared or
written, the address of a node, or the arguments of an operation. -/
inductive Unreadable where
  | quantity
  | list
  | object
  | level
  | hexText
  | number
  | address (shown : String)
  | arguments
deriving DecidableEq, Repr

/-- What went deeper into a value than there was room for. -/
inductive Descent where
  | decoding (inner : Json.Container)
  | showing
deriving DecidableEq, Repr

inductive Fault where
  | invalid (cause : Invalid)
  | wrongType (what : Unreadable)
  | notText
  | notObject
  | unknownOperation
  | infiniteCode
  | outOfRange
  | address (fault : Http.AddressFault)
  | tooDeep (descent : Descent)
deriving DecidableEq, Repr

def Descent.message : Descent → String
  | .decoding .list => "decoding a JSON array from a unicode string"
  | .decoding .object => "decoding a JSON object from a unicode string"
  | .showing => "getting the repr of an object"

def Fault.message : Fault → String
  | .invalid cause => cause.message
  | .wrongType .quantity => "int() can't convert non-string with explicit base"
  | .wrongType .list =>
    "int() argument must be a string, a bytes-like object or a real number, not 'list'"
  | .wrongType .object =>
    "int() argument must be a string, a bytes-like object or a real number, not 'dict'"
  | .wrongType .level => "Level not an integer or a valid string"
  | .wrongType .hexText => "the value cannot be cut like a text"
  | .wrongType .number => "the value cannot be used as a number"
  | .wrongType (.address shown) =>
    "Invalid type for url.  Expected str or httpx.URL, got " ++ shown
  | .wrongType .arguments => "the arguments are not those of the operation"
  | .notText => "the value is no text"
  | .notObject => "the value is no object"
  | .unknownOperation => "there is no operation of the name"
  | .infiniteCode => "cannot convert float infinity to integer"
  | .outOfRange => "int too large to convert to float"
  | .address fault => fault.message
  | .tooDeep descent => "maximum recursion depth exceeded while " ++ descent.message

end TxSubmission
