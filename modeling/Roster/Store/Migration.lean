import Roster.Store.Sql

/-!
# Setting up the tables

Migrations are files of statements. They are applied in order of name, each in a transaction that also
records it. A migration that is recorded is not applied again.
-/

namespace Roster.Migration

/-- The files that come with the program. -/
def all : List Text := ["001_create_users.sql"]

/-- The last part of a path. -/
def base (path : Text) : Text :=
  if path.isEmpty then "."
  else (((Text.split (Text.byte '/') path).filter fun part => !part.isEmpty).getLast?).getD "/"

/-- The files that are not done yet, in order of name. A file is looked up by the last part of its path. -/
def pending (done : Text → Bool) (files : List Text := all) : List Text :=
  (Text.sorted files).filter fun name => !done (base name)

/-- Wraps a fault in what was being done. -/
def attempt {α : Type} (activity : Text) (s : Sql.Script α) : Sql.Script α :=
  ExceptT.adapt (Fault.during activity) s

/-- Reads a migration's name from a row. -/
def readName (columns : List Text) (row : List Sql.Datum) : Except Fault Text := do
  Sql.expectColumns columns 1
  Sql.inColumn columns 0 (Sql.readText (row.getD 0 .null))

/-- The recorded names. -/
def recorded : Sql.Script (List Text) := do
  let r ← ExceptT.mk (Sql.ask (.query .migrations))
  ExceptT.mk (pure (Sql.readRows (readName r.columns) id id r.broken 0 r.rows))

/-- Runs a command inside a transaction; when it fails, the transaction is rolled back. -/
def inTransaction (activity : Text) (c : Sql.Command) : Sql.Script Unit := do
  match ← ExceptT.lift (Sql.ask (.exec c)) with
  | .ok _ => pure ()
  | .error f => do
    let _ ← ExceptT.lift (Sql.ask .rollback)
    throw (.during activity f)

/-- Applies and records one migration. -/
def apply (name : Text) : Sql.Script Unit := do
  attempt "begin transaction" (ExceptT.mk (Sql.ask .begin))
  inTransaction "execute sql" (.migrate name)
  inTransaction "record migration" (.recordMigration name)
  ExceptT.mk (Sql.ask .commit)

/-- Notes which migrations are skipped. -/
def noteDone (done : List Text) : List Text → Sql.Script Unit
  | [] => pure ()
  | name :: rest => do
    if done.contains (base name) then
      Sql.ask (.log { level := .debug, message := "migration already applied", fields := [("file", .text name)] })
    noteDone done rest

/-- Applies migrations one after the other. -/
def applyAll : List Text → Sql.Script Unit
  | [] => pure ()
  | name :: rest => do
    attempt (utf8 "apply migration " ++ name) (apply name)
    Sql.ask (.log { level := .info, message := "migration applied", fields := [("file", .text name)] })
    applyAll rest

/-- Applies every migration that is not recorded. -/
def run (files : List Text := all) : Sql.Script Unit := do
  let _ ← attempt "ensure migrations table" (ExceptT.mk (Sql.ask (.exec .trackMigrations)))
  let done ← attempt "get applied migrations" recorded
  noteDone done (Text.sorted files)
  applyAll (pending done.contains files)

end Roster.Migration
