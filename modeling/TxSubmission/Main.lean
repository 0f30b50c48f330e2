import TxSubmission.Cli.Run
import TxSubmission.Json.Writer
import TxSubmission.Settings.Reading

/-!
The program. Settings come from the environment; the node is described by one line of standard
input, an object that gives each method the list of its replies. What the run prints goes to
standard output, its log lines to standard error.
-/

namespace TxSubmission.Cli

def settingVariables : IO (List (String × String)) := do
  let mut found := []
  for name in Settings.names do
    for spelling in [name, name.map Char.toUpper] do
      if let some value ← IO.getEnv spelling then
        found := found ++ [(spelling, value)]
  pure found

/-- The node that a line describes; one without a description knows no method. -/
def nodeOfLine (line : String) : Node :=
  match Json.read? line.toList with
  | some (.object members) => Node.ofMembers members
  | _ => Node.ofMembers []

/-- The exit code of a run. A failure that escaped counts as one. -/
def exitCode (report : Report) : UInt32 :=
  match report.outcome with
  | .ok code => UInt32.ofNat code.toNat
  | .error _ => 1

def present (report : Report) : IO UInt32 := do
  IO.print report.output
  for line in report.lines do
    IO.eprintln (Json.write (.object line))
  if let .error failure := report.outcome then
    IO.eprintln failure.message
  pure (exitCode report)

end TxSubmission.Cli

open TxSubmission in
def main (words : List String) : IO UInt32 := do
  match Settings.read (← Cli.settingVariables) none with
  | .error faults =>
    for (name, fault) in faults do
      IO.eprintln (name ++ ": " ++ fault.code)
    pure 1
  | .ok settings =>
    let line ← (← IO.getStdin).getLine
    Cli.present (Cli.run settings (Cli.nodeOfLine line) words)
