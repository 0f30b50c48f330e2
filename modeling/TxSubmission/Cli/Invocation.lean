import TxSubmission.Cli.Grammar
import TxSubmission.Cli.Value
import TxSubmission.Number.DecimalReading
import TxSubmission.Settings

/-!
Invocations: what a command line asks for. Options for the whole program come before the name of
a task and fall back on the settings; the options and operands of the task follow its name. An
option that is left without a value holds an empty list.
-/

namespace TxSubmission.Cli

open Number

inductive FeeModel where
  | legacy
  | market
  | incentive
deriving DecidableEq, Repr

namespace FeeModel

def name : FeeModel → String
  | .legacy => "legacy"
  | .market => "eip1559"
  | .incentive => "incentive"

def ofName? : String → Option FeeModel
  | "legacy" => some .legacy
  | "eip1559" => some .market
  | "incentive" => some .incentive
  | _ => none

end FeeModel

instance : Plain FeeModel where
  toJson model := .text model.name
  ofJson?
    | .text s => FeeModel.ofName? s
    | _ => none

structure Sending where
  recipient : Option (Given String) := none
  data : Option (Given String) := none
  value : Option (Given Int) := none
  gasLimit : Option (Given Int) := none
  model : Given FeeModel := .fit .market
  gasPrice : Option (Given Int) := none
  chainId : Option (Given Int) := none
  cap : Option (Given Int) := none
  tip : Option (Given Int) := none

inductive Task where
  | code (address : String) (block : BlockParameter)
  | call (address : String) (data : Option String) (block : BlockParameter)
  | send (sending : Sending)
  | receipt (hash : String)

structure Invocation where
  url : Given String
  sender : Given String
  attempts : Given Int
  interval : Given Amount
  logLevel : Given String
  logFormat : Given String
  task : Option Task := none

structure Query where
  target : String := ""
  data : Option String := none
  block : BlockParameter := .latest

/-- What an option holds that is left without a value. -/
def blankValue : Json := .list []

def readFlag {σ α : Type} (name : String) (read : String → Option α) (set : Given α → σ → σ) :
    Flag σ :=
  { name
    store := fun text value =>
      match text with
      | none => some (set (.odd blankValue) value)
      | some text => (read text).map fun a => set (.fit a) value }

def textFlag {σ : Type} (name : String) (set : Given String → σ → σ) : Flag σ :=
  readFlag name some set

def numberFlag {σ : Type} (name : String) (set : Given Int → σ → σ) : Flag σ :=
  readFlag name (fun text => (readNumber text).toOption) set

def operand {σ : Type} (set : String → σ → σ) : Operand σ :=
  { optional := false, store := fun text value => set (text.getD "") value }

def blockFlag : Flag Query := textFlag "--block" fun given query =>
  match given with
  | .fit text => { query with block := readBlock text }
  | .odd value => { query with block := .other value }

def codeGrammar : Grammar Query where
  flags := [blockFlag]
  operands := [operand fun text query => { query with target := text }]

def callGrammar : Grammar Query where
  flags := [blockFlag]
  operands :=
    [operand fun text query => { query with target := text },
     { optional := true, store := fun data query => { query with data } }]

def sendGrammar : Grammar Sending where
  flags :=
    [textFlag "--to" fun text sending => { sending with recipient := some text },
     textFlag "--data" fun text sending => { sending with data := some text },
     numberFlag "--value" fun value sending => { sending with value := some value },
     numberFlag "--gas-limit" fun limit sending => { sending with gasLimit := some limit },
     readFlag "--fee-model" FeeModel.ofName? fun model sending => { sending with model },
     numberFlag "--gas-price" fun price sending => { sending with gasPrice := some price },
     numberFlag "--chain-id" fun chain sending => { sending with chainId := some chain },
     numberFlag "--max-fee" fun cap sending => { sending with cap := some cap },
     numberFlag "--max-priority-fee" fun tip sending => { sending with tip := some tip }]

def receiptGrammar : Grammar String where
  flags := []
  operands := [operand fun text _ => text]

def readTask (name : String) (words : List String) : Except Stop (Task × Bool) :=
  match name with
  | "code" =>
    (codeGrammar.read {} words).map fun (query, left) => (.code query.target query.block, left)
  | "call" =>
    (callGrammar.read {} words).map fun (query, left) =>
      (.call query.target query.data query.block, left)
  | "send" => (sendGrammar.read {} words).map fun (sending, left) => (.send sending, left)
  | "receipt" => (receiptGrammar.read "" words).map fun (hash, left) => (.receipt hash, left)
  | _ => .error .fault

def readAttempts (text : String) : Option Int := (readInt 10 text).toOption

def readInterval (text : String) : Option Amount := (Binary64.readLax? text).map .real

def invocationGrammar : Grammar Invocation where
  flags :=
    [textFlag "--rpc-url" fun url invocation => { invocation with url },
     textFlag "--from" fun sender invocation => { invocation with sender },
     readFlag "--attempts" readAttempts fun attempts invocation => { invocation with attempts },
     readFlag "--interval" readInterval fun interval invocation => { invocation with interval },
     textFlag "--log-level" fun logLevel invocation => { invocation with logLevel },
     readFlag "--log-format" (some · |>.filter fun text => text = "json" ∨ text = "console")
       fun logFormat invocation => { invocation with logFormat }]
  branch := some fun name words invocation =>
    (readTask name words).map fun (task, left) => ({ invocation with task := some task }, left)

def Invocation.ofSettings (settings : Settings) : Invocation :=
  { url := settings.rpcUrl
    sender := settings.sender
    attempts := settings.pollingAttempts
    interval := settings.blockTime
    logLevel := settings.logLevel
    logFormat := settings.logFormat }

def settle {α : Type} (read : String → Option α) : Given α → Except Stop (Given α)
  | .odd (.text text) =>
    match read text with
    | some value => .ok (.fit value)
    | none => .error .fault
  | given => .ok given

/-- Reads a command line. A number that the settings give as text is read as if the command line
gave it. -/
def Invocation.read (settings : Settings) (words : List String) : Except Stop Invocation := do
  let (invocation, left) ← invocationGrammar.read (.ofSettings settings) words
  let attempts ← settle readAttempts invocation.attempts
  let interval ← settle readInterval invocation.interval
  if left then .error .fault else pure { invocation with attempts, interval }

end TxSubmission.Cli
