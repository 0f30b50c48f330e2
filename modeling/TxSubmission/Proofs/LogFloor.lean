import TxSubmission.Log.Line
import TxSubmission.Proofs.Sequencing
import TxSubmission.Proofs.WireForm

/-!
The level of a log. A configured level is that of every logger but the HTTP libraries and those
below them, which have the level of a warning whatever is configured. What is rendered is one line
for each event that reaches the level of its logger, in the order of the events; only a message
that does not fit its arguments is left out.
-/

namespace TxSubmission

namespace Members

end Members

namespace Log

/-! Loggers -/

section Loggers

variable {made : List String} {name : List Char} {above : String}

def isLibrary (made : List String) (logger : String) : Bool :=
  (logger :: ancestors made logger).any libraryLoggers.contains

end Loggers

/-! Levels -/

section Levels

/-- The severity from which on a logger is heard. -/
def levelOf (chosen : Severity) (made : List String) (logger : String) : Severity :=
  if isLibrary made logger then .warning else chosen

end Levels

/-! Lines -/

section Lines

variable {made : List String} {context event : Members} {logger : String} {severity : Severity}

/-- Whether an emission is to be rendered: it reaches the level of its logger, and a message fits
its arguments. -/
def Emission.isHeard (chosen : Severity) (made : List String) : Emission → Bool
  | .message logger severity template arguments =>
    (levelOf chosen made logger).rank ≤ severity.rank &&
      (Template.message? template arguments).isSome
  | .record logger severity _ _ => (levelOf chosen made logger).rank ≤ severity.rank
  | .bind _ => false

def heard (chosen : Severity) : List String → List Emission → List Emission
  | _, [] => []
  | made, emission :: rest =>
    let later := heard chosen (emission.madeAfter made) rest
    if emission.isHeard chosen made then emission :: later else later

variable {setup : Setup} {chosen : Severity}

end Lines

end Log

end TxSubmission
