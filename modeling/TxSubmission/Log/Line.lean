import TxSubmission.Log.Payload
import TxSubmission.Log.Setup
import TxSubmission.Log.Template

/-!
Log lines. An event is a message with arguments or a record with fields; variables that were bound
before it are added unless it has fields of their names. Its level and its logger are put in last,
and all its texts have their long hex runs shortened. Events below the floor of their logger, and
messages that do not fit their arguments, leave no line. The fields of a record are looked at
before its floor is, so a record that cannot be accepted ends the run whatever its severity.
-/

namespace TxSubmission.Log

/-- What a program does with the log. -/
inductive Emission where
  | message (logger : String) (severity : Severity) (template : String) (arguments : List Json)
  | record (logger : String) (severity : Severity) (event : Json) (fields : Members)
  | bind (fields : Members)

def loggerName (logger : String) : String := if logger = "" then "root" else logger

def originName : String := "_record"

def reservedNames : List String :=
  ["timestamp", "exc_info", "stack_info", originName, "_from_structlog"]

/-- The names that a record cannot give to its fields, because they stand for its other parts. -/
def takenNames : List String := ["self", "event", "method_name"]

def withContext (context event : Members) : Members :=
  event ++ context.filter fun (name, _) => (Members.get? name event).isNone

def completed (context : Members) (logger : String) (severity : Severity) (event : Members) :
    Members :=
  let full := withContext context event
  shortenPayloads
    (Members.insert "logger" (.text (loggerName logger))
      (Members.insert "level" (.text severity.label) full))

def visible (event : Members) : Members :=
  event.filter fun (name, _) => !reservedNames.contains name

/-- The member that holds the event of a record; an event that is null has none. -/
def eventMember (event : Json) : Members :=
  (event.present?.map (("event", ·))).toList

/-- The fault of a record: a field with the name of another part, or an origin that is none. -/
def recordFault? (context fields : Members) : Option Fault :=
  if fields.any fun (name, _) => takenNames.contains name then some (.wrongType .arguments)
  else if (Members.get originName (withContext context fields)).isNull then none
  else some .notText

def Emission.fault? (context : Members) : Emission → Option Fault
  | .record _ _ _ fields => recordFault? context fields
  | _ => none

def Emission.madeAfter (made : List String) : Emission → List String
  | .message logger .. | .record logger .. => logger :: made
  | .bind _ => made

def Emission.event? (setup : Setup) (made : List String) (context : Members) :
    Emission → Option Members
  | .message logger severity template arguments =>
    if setup.floorAmong made logger ≤ severity.rank then
      (Template.message? template arguments).map fun text =>
        completed context logger severity [("event", .text text)]
    else none
  | .record logger severity event fields =>
    if setup.floorAmong made logger ≤ severity.rank then
      some (completed context logger severity (fields ++ eventMember event))
    else none
  | .bind _ => none

def Emission.contextAfter (context : Members) : Emission → Members
  | .bind fields =>
    fields.foldl (fun bound (name, value) => Members.insert name value bound) context
  | _ => context

def events (setup : Setup) : List String → Members → List Emission → List Members
  | _, _, [] => []
  | made, context, emission :: rest =>
    (emission.event? setup made context).toList ++
      events setup (emission.madeAfter made) (emission.contextAfter context) rest

def firstFault? : Members → List Emission → Option Fault
  | _, [] => none
  | context, emission :: rest =>
    (emission.fault? context).or (firstFault? (emission.contextAfter context) rest)

def lines (setup : Setup) (context : Members) (emissions : List Emission) : List Members :=
  (events setup [] context emissions).map visible

/-- Emits a sequence of emissions, unless one of them is not accepted, and shows every event that
is rendered. -/
def emit {α : Type} (render : Members → α) (setup : Setup) (emissions : List Emission) :
    Except Fault (List α) :=
  match firstFault? [] emissions with
  | some fault => .error fault
  | none => .ok ((events setup [] [] emissions).map render)

end TxSubmission.Log
