import Roster.Command.Run
import Std.Time.DateTime.Timestamp

/-!
# The program

Hands arguments, variables and the file of settings to the library, prints what comes back, and ends
with its exit code. What a command finds on the machine besides is empty: there is no database yet and
no cache server. No socket is opened either: `serve` goes through its start and its stop and answers
no request.
-/

namespace Roster.Main

/-- The variables of the program that are set. -/
def givenVariables : IO (List (Text × Text)) := do
  let mut found := []
  for name in Command.descriptionsVariable :: Settings.variableNames do
    if let some shown := Text.toString? name then
      if let some value ← IO.getEnv shown then
        found := (name, utf8 value) :: found
  return found

/-- A file with its content, if it can be read. -/
def file (path : Text) : IO (List (Text × Text)) := do
  match Text.toString? path with
  | none => return []
  | some shown =>
    try
      return [(path, (← IO.FS.readBinFile shown).toList)]
    catch _ =>
      return []

/-- The current moment. -/
def now : IO Instant := do
  let t ← Std.Time.Timestamp.now
  return (Timestamp.ofUnix 0).instant + t.toNanosecondsSinceUnixEpoch.toInt

end Roster.Main

open Roster in
/-- Runs the program. -/
def main (arguments : List String) : IO UInt32 := do
  let arguments := arguments.map utf8
  let files ←
    match Command.configFile? arguments with
    | some path => Roster.Main.file path
    | none => pure []
  let (outcome, _) :=
    Command.run { files }
      { arguments, environment := ← Roster.Main.givenVariables, start := ← Roster.Main.now, timed := true }
  (← IO.getStdout).write ⟨outcome.console.output.toArray⟩
  (← IO.getStderr).write ⟨outcome.console.errors.toArray⟩
  return outcome.exit.toUInt32
