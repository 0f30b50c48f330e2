import TxSubmission.Cli.Invocation
import TxSubmission.Log.Line

/-!
Running a command line. A task is carried out by a manager on a fresh link; what it prints and how
it exits follow from how the manager's operation ends. The exit code is zero for success, one for
an execution error and two for a refused value or a command line that cannot be read; any other
failure escapes.
-/

namespace TxSubmission.Cli

open Number

structure Report where
  outcome : Except Failure Int
  output : String := ""
  lines : List Members := []
  trace : Trace := []

def zeroAddress : String := "0x0000000000000000000000000000000000000000"

def usage : String :=
  "usage: txmanager [-h] [--rpc-url URL] [--from ADDRESS] [--attempts COUNT]\n" ++
  "                 [--interval SECONDS] [--log-level LEVEL]\n" ++
  "                 [--log-format (json,console)]\n" ++
  "                 (code,call,send,receipt) ...\n"

def print (text : String) : Act Link Unit := Act.emit (.printed text)

def receiptNumber (label : String) : Option (Given Int) → Except Invalid String
  | some (.fit n) => (shown n).map (label ++ ·) |>.mapError .literal
  | given => .ok (label ++ Given.display? given)

def receiptLines (receipt : Receipt) : List (Except Invalid String) :=
  [.ok "",
   .ok ((if receipt.isStatusOk then "✅" else "⚠️ reverted") ++ " Transaction mined"),
   .ok (String.ofList (List.replicate 50 '=')),
   .ok ("Hash:     " ++ receipt.hash.display),
   receiptNumber "Block:    " receipt.blockNumber,
   receiptNumber "Gas Used: " receipt.gasUsed] ++
  if receipt.contract.isTruthy then [.ok ("Contract: " ++ receipt.contract.display)] else []

def printReceipt (receipt : Receipt) : Act Link Unit :=
  (receiptLines receipt).forM fun line => do print (← Act.ofInvalid line)

/-- The fee terms that a transaction is sent with: a gas price, or a chain, which the settings may
give, and both caps. -/
def Sending.terms (sending : Sending) (chainId : Option (Given Int)) :
    Except Invalid FeeTerms :=
  let chainId := sending.chainId.or chainId
  let hasFees := chainId.isSome && sending.cap.isSome && sending.tip.isSome
  match sending.model with
  | .fit .legacy =>
    if sending.gasPrice.isNone then .error .commandWithoutPrice
    else .ok (.legacy sending.gasPrice)
  | .fit .incentive =>
    if hasFees then .ok (.incentive chainId sending.tip sending.cap)
    else .error .commandWithoutFees
  | _ =>
    if hasFees then .ok (.market chainId sending.tip sending.cap)
    else .error .commandWithoutFees

def Sending.order (sending : Sending) (terms : FeeTerms) : Order :=
  { terms
    gasLimit := sending.gasLimit
    recipient := sending.recipient
    data := sending.data
    value := sending.value }

def Task.perform (settings : Settings) (manager : Manager Link) : Task → Act Link Int
  | .code address block => do
    let reply ← manager.code (.fit address) block
    match reply.error with
    | some error =>
      print ("❌ " ++ error.text)
      pure 1
    | none =>
      print reply.code.display
      pure 0
  | .call address data block => do
    let value ← manager.call (some (.fit address)) (data.map .fit) block
    print (if value.isNull then "(no data)" else value.display)
    pure 0
  | .send sending => do
    print
      ("📤 Sending " ++ sending.model.display ++ " transaction from " ++
        manager.sender.address.display ++ "...")
    let terms ← Act.ofInvalid (sending.terms settings.chainId)
    let receipt ← manager.execute (sending.order terms)
    printReceipt receipt
    pure 0
  | .receipt hash => do
    print ("⏳ Waiting for receipt of " ++ hash ++ "...")
    let receipt ← manager.await (.fit hash)
    printReceipt receipt
    pure 0

def Task.needsSender : Task → Bool
  | .send _ => true
  | _ => false

def Invocation.endpoint (invocation : Invocation) (settings : Settings) : Endpoint :=
  { settings.endpoint with url := invocation.url }

/-- The account and budget of an invocation. Only a task that sends needs a sender of its own. -/
def Invocation.custody (invocation : Invocation) (settings : Settings) (task : Task) :
    Except Fault Custody :=
  if task.needsSender ∧ !invocation.sender.isTruthy then
    .error (.invalid .commandWithoutSender)
  else
    settings.custody (invocation.endpoint settings)
      (some (Given.orElse (some invocation.sender) (.fit zeroAddress)))
      (some invocation.attempts) (some invocation.interval)

/-- Turns how a task ends into an exit code, printing the reason of a failure. -/
def conclude (act : Act Link Int) : Act Link Int := do
  match ← act.attempt with
  | .ok code => pure code
  | .error (.execution error) =>
    print ("❌ " ++ error.kind.name ++ ": " ++ error.message)
    pure 1
  | .error (.fault (.invalid cause)) =>
    print ("❌ " ++ cause.message)
    pure 2
  | .error failure => Act.fail failure

def Invocation.perform (invocation : Invocation) (settings : Settings) (task : Task) :
    Act Link Int := do
  let outcome ← (conclude do
    let custody ← Act.ofFault (invocation.custody settings task)
    task.perform settings custody.manager).attempt
  -- however the task has ended
  Provider.close
  Act.ofExcept outcome

def emissions (trace : Trace) : List Log.Emission :=
  trace.records.map fun (severity, component, text) =>
    .message component.logger severity text []

/-- The log lines of a run. Only lines in the data format are rendered. -/
def logLines (setup : Log.Setup) (trace : Trace) : List Members :=
  match setup.format with
  | .json => Log.lines setup [] (emissions trace)
  | .console => []

def outputText (trace : Trace) : String :=
  String.join (trace.lines.map (· ++ "\n"))

def run (settings : Settings) (node : Node) (words : List String) : Report :=
  match Invocation.read settings words with
  | .error .help => { outcome := .ok 0, output := usage }
  | .error .fault => { outcome := .ok 2 }
  | .ok invocation =>
    match invocation.task with
    | none => { outcome := .ok 0, output := usage }
    | some task =>
      match Log.setup settings (some invocation.logLevel) (some invocation.logFormat) with
      | .error fault => { outcome := .error (.fault fault) }
      | .ok setup =>
        let ran := invocation.perform settings task { node }
        { outcome := ran.outcome
          output := outputText ran.trace
          lines := logLines setup ran.trace
          trace := ran.trace }

end TxSubmission.Cli
