import TxSubmission.Quantity
import TxSubmission.Request

/-!
The wire form of requests: an object with one entry for every field that is set, whole numbers
being written as quantities. Reading a wire form gives back the draft of a request.
-/

namespace TxSubmission.Request

def slots (r : Request) : List (String × Json) :=
  [("from", r.sender.toJson),
   ("to", Given.toJson? r.recipient),
   ("gas", Given.toJson? r.gas),
   ("gasPrice", Given.toJson? r.fees.gasPrice?),
   ("value", Given.toJson? r.value),
   ("data", .ofText? r.data),
   ("nonce", Given.toJson? r.nonce),
   ("chainId", Given.toJson? r.fees.chainId?),
   ("maxPriorityFeePerGas", Given.toJson? r.fees.tip?),
   ("maxFeePerGas", Given.toJson? r.fees.cap?),
   ("incentiveAddress", Given.toJson? r.fees.incentive?)]

def fields (r : Request) : Members := r.slots.filter fun (_, content) => !content.isNull

/-- Writes fields in order; the first number below zero is told. -/
def encodeFields : Members → Except Invalid Members
  | [] => .ok []
  | (name, content) :: rest =>
    match Quantity.encodeField content with
    | .error cause => .error cause
    | .ok written => (encodeFields rest).map ((name, written) :: ·)

def wire (r : Request) : Except Invalid Members := encodeFields r.fields

def payload (r : Request) : Except Invalid Json := r.wire.map .object

end TxSubmission.Request

namespace TxSubmission.Draft

def readQuantity (entries : Members) (name : String) : Except Invalid (Option (Given Int)) :=
  match Members.get? name entries with
  | none => .ok none
  | some (.text text) => (Quantity.decode text).map (some ∘ .fit)
  | some value => .ok (some (.odd value))

/-- The draft that a wire form describes: numbers are read as quantities, texts as they are. -/
def ofWire (entries : Members) : Except Invalid Draft := do
  let gas ← readQuantity entries "gas"
  let gasPrice ← readQuantity entries "gasPrice"
  let value ← readQuantity entries "value"
  let nonce ← readQuantity entries "nonce"
  let chainId ← readQuantity entries "chainId"
  let tip ← readQuantity entries "maxPriorityFeePerGas"
  let cap ← readQuantity entries "maxFeePerGas"
  let text (name : String) := (Members.get? name entries).map Given.ofJson
  pure
    { sender := text "from"
      recipient := text "to"
      gas
      value
      data := text "data"
      nonce
      gasPrice
      chainId
      tip
      cap
      incentive := text "incentiveAddress" }

end TxSubmission.Draft
