import TxSubmission.Act
import TxSubmission.Number.DecimalText
import TxSubmission.Reply

/-!
Waiting for receipts. A budget allows at least one query and sets the pause between two; the first
query that finds a receipt or fails decides, and when all have found nothing the wait times out.
-/

namespace TxSubmission

open Number

namespace Polling

/-- How many queries a number of attempts stands for. A truth value counts as a number; a number
that is not whole stands for none that could be counted. -/
def turns? : Given Int → Option Int
  | .fit n => some n
  | .odd (.bool b) => some (if b then 1 else 0)
  | .odd _ => none

def isTooFew : Given Int → Bool
  | .odd (.real x) => x.isBelowOne
  | attempts => (turns? attempts).any (· < 1)

end Polling

structure Polling where
  attempts : Given Int
  interval : Amount
  attempts_pos : Polling.isTooFew attempts = false
  interval_nonneg : interval.isBelowZero = false

namespace Polling

def isNumber : Given Int → Bool
  | .odd (.real _) => true
  | attempts => (turns? attempts).isSome

def intervalOf : Given Amount → Except Fault Amount
  | .fit amount => .ok amount
  | .odd (.bool b) => .ok (.whole (if b then 1 else 0))
  | .odd _ => .error (.wrongType .number)

/-- Checks a budget. Of two faults the one of the number of attempts is told. -/
def check (attempts : Given Int) (interval : Given Amount) : Except Fault Polling :=
  if !isNumber attempts then .error (.wrongType .number)
  else if attempts_few : isTooFew attempts = true then .error (.invalid .tooFewAttempts)
  else do
    let interval ← intervalOf interval
    if interval_below : interval.isBelowZero = true then .error (.invalid .negativeInterval)
    else
      pure
        { attempts
          interval
          attempts_pos := by simpa using attempts_few
          interval_nonneg := by simpa using interval_below }

def timeoutText (hash waited : String) : String :=
  "Transaction receipt was not generated after " ++ waited ++ " seconds for transaction: " ++ hash

def attemptsText (polling : Polling) : Except Fault String :=
  match polling.attempts with
  | .fit n => (shown n).mapError fun fault => .invalid (.literal fault)
  | attempts => .ok attempts.display

variable {σ : Type}

/-- Sleeps between two queries. A clock cannot be set to a time that no binary number is near. -/
def pause (polling : Polling) : Act σ Unit :=
  match polling.interval.toBinary64? with
  | some _ => Act.emit (.slept polling.interval)
  | none => Act.fail (.fault .outOfRange)

/-- Ends a wait that found nothing in a number of turns. -/
def giveUp {α : Type} (polling : Polling) (turns : Nat) (hash : Given String) : Act σ α := do
  let total ←
    match polling.interval.times? turns with
    | some total => pure total
    | none => Act.fail (.fault .outOfRange)
  let attempts ← Act.ofFault polling.attemptsText
  Act.log .warning .polling
    ("Gave up waiting for receipt of " ++ hash.display ++ " after " ++ attempts ++ " attempts")
  -- a whole total need not be near a binary number, which the text of the fault asks for
  let waited ←
    match total.toBinary64? with
    | some waited => pure waited
    | none => Act.fail (.fault .outOfRange)
  Act.raise
    (.timedOut (.fit (timeoutText hash.display waited.duration)) hash polling.attempts)

def poll (polling : Polling) (query : Given String → Act σ (Option Receipt))
    (hash : Given String) (turns : Nat) : Nat → Act σ Receipt
  | 0 => polling.giveUp turns hash
  | left + 1 => do
    let attempt := decimalText ((turns - left : Nat) : Int)
    match ← query hash with
    | some receipt =>
      Act.log .debug .polling ("Receipt for " ++ hash.display ++ " found on attempt " ++ attempt)
      pure receipt
    | none =>
      let attempts ← Act.ofFault polling.attemptsText
      Act.log .debug .polling
        ("No receipt for " ++ hash.display ++ " yet (attempt " ++ attempt ++ "/" ++ attempts ++ ")")
      if 0 < left then polling.pause
      polling.poll query hash turns left

def wait (polling : Polling) (query : Given String → Act σ (Option Receipt))
    (hash : Given String) : Act σ Receipt :=
  match turns? polling.attempts with
  | some turns => polling.poll query hash turns.toNat turns.toNat
  | none => Act.fail (.fault (.wrongType .number))

end Polling

end TxSubmission
