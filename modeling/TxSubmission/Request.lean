import TxSubmission.Given
import TxSubmission.Json.HexPrefix

/-!
Transaction requests. A draft is any combination of fields that a caller may give; a request is a
draft that has been checked. A request names its sender, its data carries the mark of hex text,
and its fees follow one model: none at all, a gas price, or a fee market with a chain and both
caps, to which an incentive recipient may be added. Checking looks at which fields are there, not
at what kind of value they hold.
-/

namespace TxSubmission

open Text

structure Cargo where
  sender : Option (Given String) := none
  recipient : Option (Given String) := none
  gas : Option (Given Int) := none
  value : Option (Given Int) := none
  data : Option (Given String) := none
  nonce : Option (Given Int) := none

structure Draft extends Cargo where
  gasPrice : Option (Given Int) := none
  chainId : Option (Given Int) := none
  tip : Option (Given Int) := none
  cap : Option (Given Int) := none
  incentive : Option (Given String) := none

/-- The fees of a request. The tip and the cap are the priority fee and the whole fee per unit
of gas. -/
inductive Fees where
  | unpriced (chainId : Option (Given Int))
  | legacy (gasPrice : Given Int)
  | market (chainId tip cap : Given Int) (incentive : Option (Given String))

namespace Fees

def gasPrice? : Fees → Option (Given Int)
  | .legacy price => some price
  | _ => none

def chainId? : Fees → Option (Given Int)
  | .unpriced chainId => chainId
  | .legacy _ => none
  | .market chainId _ _ _ => some chainId

def tip? : Fees → Option (Given Int)
  | .market _ tip _ _ => some tip
  | _ => none

def cap? : Fees → Option (Given Int)
  | .market _ _ cap _ => some cap
  | _ => none

def incentive? : Fees → Option (Given String)
  | .market _ _ _ incentive => incentive
  | _ => none

/-- The fees that five optional fields describe, unless they mix models or leave one half done.
Of several faults the first in the order mixed, unpaired, no chain, stray incentive is told. -/
def ofFields (gasPrice chainId tip cap : Option (Given Int)) (incentive : Option (Given String)) :
    Except Invalid Fees :=
  if gasPrice.isSome && (chainId.isSome || tip.isSome || cap.isSome) then .error .mixedFees
  else
    match tip, cap with
    | some _, none => .error .unpairedFees
    | none, some _ => .error .unpairedFees
    | some tip, some cap =>
      match chainId with
      | some chainId => .ok (.market chainId tip cap incentive)
      | none => .error .feesWithoutChain
    | none, none =>
      if incentive.isSome then .error .incentiveWithoutFees
      else
        match gasPrice with
        | some price => .ok (.legacy price)
        | none => .ok (.unpriced chainId)

end Fees

structure Request where
  sender : Given String
  recipient : Option (Given String)
  gas : Option (Given Int)
  value : Option (Given Int)
  data : Option String
  nonce : Option (Given Int)
  fees : Fees
  sender_given : sender.isTruthy = true
  data_marked : ∀ d ∈ data, hasHexPrefix d = true

def markedData : Option (Given String) → Except Fault (Option String)
  | none => .ok none
  | some given => given.toJson.withHexPrefix.map some

theorem hasHexPrefix_of_markedData {given : Option (Given String)} {data : Option String}
    (h : markedData given = .ok data) : ∀ d ∈ data, hasHexPrefix d = true := by
  intro d hd
  obtain rfl : data = some d := hd
  cases given with
  | none => cases h
  | some given =>
    cases ht : given.toJson.withHexPrefix with
    | error fault => simp [markedData, ht, Except.map] at h
    | ok text =>
      have same : text = d := by simpa [markedData, ht, Except.map] using h
      exact same ▸ Json.hasHexPrefix_of_withHexPrefix ht

/-- Checks a draft: its sender first, then its fees, then its data. -/
def Draft.check (draft : Draft) : Except Fault Request :=
  match draft.sender with
  | none => .error (.invalid .requestWithoutSender)
  | some sender =>
    if sender_given : sender.isTruthy = true then
      match Fees.ofFields draft.gasPrice draft.chainId draft.tip draft.cap draft.incentive with
      | .error cause => .error (.invalid cause)
      | .ok fees =>
        match marked : markedData draft.data with
        | .error fault => .error fault
        | .ok data =>
          .ok
            { sender
              recipient := draft.recipient
              gas := draft.gas
              value := draft.value
              data
              nonce := draft.nonce
              fees
              sender_given
              data_marked := hasHexPrefix_of_markedData marked }
    else .error (.invalid .requestWithoutSender)

namespace Request

def isLegacy (r : Request) : Bool := r.fees.gasPrice?.isSome

def isMarket (r : Request) : Bool := r.fees.cap?.isSome

def isIncentive (r : Request) : Bool := r.fees.incentive?.isSome

def isCallOnly (r : Request) : Bool := !r.isLegacy && !r.isMarket && r.nonce.isNone

/-- A request without a recipient creates a contract. -/
def isDeployment (r : Request) : Bool := r.recipient.isNone

end Request

end TxSubmission
