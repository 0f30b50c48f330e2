import TxSubmission.Log.Severity
import TxSubmission.RpcRequest

/-!
What an observer sees of a run: log records, HTTP clients being created, requests, sleeps, calls
of parts that a caller supplied, and printed lines.
-/

namespace TxSubmission

open Number

inductive Component where
  | provider
  | account
  | manager
  | polling
deriving DecidableEq, Repr

def Component.logger : Component → String
  | .provider => "txmanager.providers.rpc"
  | .account => "txmanager.core.execution.client_manager"
  | .manager => "txmanager.core.execution.manager"
  | .polling => "txmanager.core.execution.receipt_processor"

inductive Event where
  | logged (severity : Log.Severity) (component : Component) (text : String)
  | opened (timeout : Option (Given Amount))
  | posted (url : String) (request : RpcRequest)
  | slept (duration : Amount)
  | called (operation : String) (arguments : List Json)
  | printed (text : String)

namespace Event

def posting? : Event → Option (String × RpcRequest)
  | .posted url request => some (url, request)
  | _ => none

def sleep? : Event → Option Amount
  | .slept duration => some duration
  | _ => none

def opening? : Event → Option (Option (Given Amount))
  | .opened timeout => some timeout
  | _ => none

def call? : Event → Option (String × List Json)
  | .called operation arguments => some (operation, arguments)
  | _ => none

def record? : Event → Option (Log.Severity × Component × String)
  | .logged severity component text => some (severity, component, text)
  | _ => none

def line? : Event → Option String
  | .printed text => some text
  | _ => none

end Event

abbrev Trace := List Event

namespace Trace

def postings (trace : Trace) : List (String × RpcRequest) := trace.filterMap Event.posting?

def methods (trace : Trace) : List (Given String) := trace.postings.map (·.2.method)

def sleeps (trace : Trace) : List Amount := trace.filterMap Event.sleep?

def openings (trace : Trace) : List (Option (Given Amount)) := trace.filterMap Event.opening?

def calls (trace : Trace) : List (String × List Json) := trace.filterMap Event.call?

def records (trace : Trace) : List (Log.Severity × Component × String) :=
  trace.filterMap Event.record?

def lines (trace : Trace) : List String := trace.filterMap Event.line?

end Trace

end TxSubmission
