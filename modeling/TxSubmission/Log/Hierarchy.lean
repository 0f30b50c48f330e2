/-!
The tree of loggers. The name of a logger is cut at its dots, from the last one on, and the parts
in front are the names that a logger above it can have; where two dots stand side by side, the
first of them is passed over. Only loggers that exist stand above another one. Loggers come to be
when they are first asked for, those of the HTTP libraries when the log is set up.
-/

namespace TxSubmission.Log

def libraryLoggers : List String := ["httpcore", "httpx"]

/-- Whether a logger exists, given the ones that have been asked for. -/
def isMade (made : List String) (logger : String) : Bool :=
  libraryLoggers.contains logger || made.contains logger

/-- The loggers above one whose name is given backwards, the nearest first. The search goes on from
each of them, so a dot that was passed over before can be a place to cut then. -/
def ancestorsFrom (made : List String) : List Char → List String
  | [] => []
  | '.' :: c :: rest =>
    let above := String.ofList (c :: rest).reverse
    if isMade made above then above :: ancestorsFrom made (c :: rest)
    else ancestorsFrom made rest
  | _ :: rest => ancestorsFrom made rest

def ancestors (made : List String) (logger : String) : List String :=
  ancestorsFrom made logger.toList.reverse

example : ancestors ["a"] "httpx.b.a" = ["httpx"] := by decide

example : ancestors [] "httpx..a" = [] ∧ ancestors ["httpx."] "httpx..a" = ["httpx.", "httpx"] := by
  decide

end TxSubmission.Log
