import TxSubmission.Log.Line

/-!
The size of events on a console. An event takes one line, and another one for every line break in
a text that is shown as it is: the event itself, the name of its logger, the names of its fields,
and the values among them that need no quotes. A stack and an exception stand below the event, with
a rule between them. A value in quotes breaks no line.
-/

namespace TxSubmission.Log

def endsLine (c : Char) : Bool :=
  c ∈ ['\n', '\x0b', '\x0c', '\r', '\x1c', '\x1d', '\x1e', '\u0085', '\u2028', '\u2029']

/-- The number of line breaks in a text; a carriage return and the line feed behind it are one. -/
def breaks : List Char → Nat
  | [] => 0
  | '\r' :: '\n' :: rest => breaks rest + 1
  | c :: rest => (if endsLine c then 1 else 0) + breaks rest

def placedNames : List String :=
  reservedNames ++ ["level", "event", "logger", "logger_name", "stack", "exception"]

def needsQuotes (s : String) : Bool := s.toList.any fun c => " \t=\r\n\"'".contains c

def fieldBreaks : String × Json → Nat
  | (name, .text s) => breaks name.toList + (if needsQuotes s then 0 else breaks s.toList)
  | (name, _) => breaks name.toList

/-- The line breaks of a block below an event, which has to be a text if it is there, and of the
line feed that goes with it. -/
def blockBreaks? : Json → Option Nat
  | .null => some 0
  | .text s => some (breaks (s.toList ++ ['\n']))
  | _ => none

def ruleBreaks (event : Members) : Nat :=
  let hasStack := !(Members.get "stack" event).isNull
  let hasException :=
    !(Members.get "exception" event).isNull || (Members.get "exc_info" event).isTruthy
  if hasStack && hasException then 3 else 0

/-- The number of lines that an event takes; none if it cannot be shown. -/
def consoleLines (event : Members) : Nat :=
  let shown (name : String) : Nat :=
    match Members.get? name event with
    | some value => breaks value.display.toList
    | none => 0
  let fields := (event.filter fun (name, _) => !placedNames.contains name).map fieldBreaks
  match blockBreaks? (Members.get "stack" event), blockBreaks? (Members.get "exception" event) with
  | some stack, some exception =>
    1 + shown "event" + shown "logger" + shown "logger_name" + fields.foldl (· + ·) 0 + stack +
      exception + ruleBreaks event
  | _, _ => 0

end TxSubmission.Log
