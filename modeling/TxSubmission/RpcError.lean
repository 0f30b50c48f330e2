import TxSubmission.Fault
import TxSubmission.Given

/-!
The error object with which a node answers. Nodes are careless about its form, so reading is
liberal: a missing or empty code is the internal error, any message becomes text, and an error
that is no object at all is taken as the message.
-/

namespace TxSubmission

open Number

structure RpcError where
  code : Given Int
  message : Given String
  data : Json := .null

namespace RpcError

def internalCode : Int := -32603

def revertedCode : Int := 3

/-- Reads a code. Fractions are cut off, texts are read as decimal numbers. -/
def readCode : Json → Except Fault Int
  | .int n => .ok (if n = 0 then internalCode else n)
  | .bool b => .ok (if b then 1 else internalCode)
  | .null => .ok internalCode
  | .real x =>
    match x with
    | .finite negative mantissa e =>
      .ok (if x.isZero then internalCode else Binary64.truncate negative mantissa e)
    | .infinite _ => .error .infiniteCode
    | .nan => .error (.invalid .notANumber)
  | .text s =>
    if s = "" then .ok internalCode
    else (readInt 10 s).mapError fun fault => .invalid (.literal fault)
  | .list items => if items.isEmpty then .ok internalCode else .error (.wrongType .list)
  | .object members => if members.isEmpty then .ok internalCode else .error (.wrongType .object)

def readMessage (value : Json) : String :=
  if value.isTruthy then value.display else ""

def ofJson : Json → Except Fault RpcError
  | .object members =>
    (readCode (Members.get "code" members)).map fun code =>
      { code := .fit code
        message := .fit (readMessage (Members.get "message" members))
        data := Members.get "data" members }
  | value => .ok { code := .fit internalCode, message := .fit value.display }

def ofEnvelope (envelope : Members) : Except Fault (Option RpcError) :=
  match (Members.get "error" envelope).present? with
  | none => .ok none
  | some value => (ofJson value).map some

def text (e : RpcError) : String := e.message.display ++ " (code " ++ e.code.display ++ ")"

def isRevert (e : RpcError) : Bool :=
  match e.code with
  | .fit code => code = revertedCode
  | .odd _ => false

def missingHash : RpcError :=
  { code := .fit internalCode, message := .fit "Missing transaction hash in response" }

def invalidIncentive : RpcError :=
  { code := .fit internalCode, message := .fit "Invalid incentive address response" }

end RpcError

end TxSubmission
