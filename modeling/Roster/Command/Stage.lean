import Roster.Command.Machine
import Roster.Log.Line

/-!
# A command at work

A command runs on a machine, in a world of its own, and prints on two streams. Log entries go to both:
as pairs to the output and as JSON to the error stream, from a threshold on. A command ends early with
the first fault that it does not handle.
-/

namespace Roster

/-- The two streams of a command. -/
structure Console where
  output : Text := []
  errors : Text := []
deriving Repr, DecidableEq

/-- Where a command is at work. -/
structure Stage where
  machine : Machine
  world : World
  console : Console := {}
  /-- The level from which on entries are logged. -/
  threshold : Int := 0
  /-- Whether log lines start with the time. -/
  timed : Bool := false
  /-- The name of the database in use. -/
  database : Option Text := none

namespace Stage

/-- Prints to the output. -/
def print (s : Stage) (t : Text) : Stage :=
  { s with console := { s.console with output := s.console.output ++ t } }

/-- Prints to the error stream. -/
def complain (s : Stage) (t : Text) : Stage :=
  { s with console := { s.console with errors := s.console.errors ++ t } }

/-- Writes a log entry to both streams. -/
def log (s : Stage) (e : Log.Entry) : Stage :=
  if e.level.value < s.threshold then s
  else
    let moment := if s.timed then some s.world.now else none
    (s.print (e.pairLine moment)).complain (e.jsonLine moment)

/-- Answers a call of the services: entries and pieces of text are printed, the world does the rest. -/
def answer : (c : Call) → Stage → c.Answer × Stage
  | .log e, s => ((), s.log e)
  | .write piece, s => (.ok (), s.print piece)
  | c, s =>
    let (a, world) := s.world.answer c
    (a, { s with world })

/-- Logs the entries that have piled up in the world. -/
def flush (s : Stage) : Stage :=
  s.world.entries.reverse.foldl log { s with world := { s.world with entries := [] } }

/-- The machine as the command leaves it: a database is kept, whatever else has happened. -/
def left (s : Stage) : Machine :=
  match s.database, s.world.storage with
  | some name, .database db => s.machine.keepDatabase name db
  | _, _ => s.machine

end Stage

/-- A part of a command's work. -/
abbrev Work := ExceptT Fault (StateM Stage)

namespace Work

/-- Logs an entry. -/
def log (level : Log.Level) (message : Text) (fields : List (Text × Log.Value)) : Work Unit :=
  modify fun s => s.log { level, message, fields }

/-- Runs a computation of the services. -/
def perform {α : Type} (t : Task α) : Work α := ExceptT.mk fun s => Program.run Stage.answer t.run s

/-- Names what was being done when a part of the work failed. -/
def during {α : Type} (activity : Text) (w : Work α) : Work α := ExceptT.adapt (Fault.during activity) w

/-- A result that is known already. -/
def ofExcept {α : Type} (r : Except Fault α) : Work α := ExceptT.mk (pure r)

end Work

end Roster
