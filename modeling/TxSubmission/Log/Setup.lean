import TxSubmission.Json.Display
import TxSubmission.Log.Hierarchy
import TxSubmission.Log.Severity
import TxSubmission.Settings

/-!
Setting up the log. A level is chosen by name in any letter case, an unknown name meaning the
level of information; a format has to be one of two. What is not chosen comes from the settings.
The HTTP libraries below the provider write an event for every request, so they and everything
beneath them have a level of their own.
-/

namespace TxSubmission.Log

inductive Format where
  | json
  | console
deriving DecidableEq, Repr

structure Setup where
  threshold : Nat
  format : Format
deriving DecidableEq, Repr

def quietRank : Nat := 30

/-- The capitals of a character in level names. Beside the ASCII letters there are a dotless i, a
long s and two joined letters whose capitals are the plain ones. -/
def capitals (c : Char) : List Char :=
  match c with
  | 'ı' => ['I']
  | 'ſ' => ['S']
  | 'ﬅ' => ['S', 'T']
  | 'ﬆ' => ['S', 'T']
  | _ => [c.toUpper]

/-- The rank that a level name stands for. One name stands for a text and one for a table, which
are no levels. -/
def rankOfName (name : String) : Except Fault Nat :=
  match String.ofList (name.toList.flatMap capitals) with
  | "NOTSET" => .ok 0
  | "DEBUG" => .ok 10
  | "INFO" => .ok 20
  | "WARN" => .ok 30
  | "WARNING" => .ok 30
  | "ERROR" => .ok 40
  | "CRITICAL" => .ok 50
  | "FATAL" => .ok 50
  | "BASIC_FORMAT" =>
    .error (.invalid (.unknownLogLevel "'%(levelname)s:%(name)s:%(message)s'"))
  | "_STYLES" => .error (.wrongType .level)
  | _ => .ok 20

def formatOf : Given String → Except Fault Format
  | .fit "json" => .ok .json
  | .fit "console" => .ok .console
  | given => .error (.invalid (.unknownLogFormat given.toJson.nested))

/-- Sets up the log. A level has to be a text; beyond that, of two faults the one of the format is
told. -/
def setup (settings : Settings) (level format : Option (Given String)) : Except Fault Setup :=
  match Given.orElse level settings.logLevel with
  | .odd _ => .error .notText
  | .fit name => do
    let format ← formatOf (Given.orElse format settings.logFormat)
    let threshold ← rankOfName name
    pure { threshold, format }

def ownRank? (logger : String) : Option Nat :=
  if libraryLoggers.contains logger then some quietRank else none

/-- The least rank that a logger renders when some loggers have been asked for: that of the nearest
one, from itself upwards, which has a rank of its own. -/
def Setup.floorAmong (setup : Setup) (made : List String) (logger : String) : Nat :=
  ((logger :: ancestors made logger).findSome? ownRank?).getD setup.threshold

def Setup.floor (setup : Setup) (logger : String) : Nat := setup.floorAmong [] logger

end TxSubmission.Log
