import Roster.Batch
import Roster.Cache.Local
import Roster.Counter
import Roster.Users

/-!
# The demonstration

A walk through the library: users grouped by role, a cache, counting side by side, and a batch of
fetches from a stand-in.
-/

namespace Roster.Demo

/-- Prints a line. -/
def line (t : Text) : Task Unit := do
  let _ ← Act.ask (.write (t ++ utf8 "\n"))

/-- The users of the demonstration: the starters, the last of them inactive. -/
def users : List User :=
  User.starters.map fun u => if u.role == Role.viewer.name then u.deactivate else u

/-- Saves users one after the other. -/
def saveAll : List User → Task Unit
  | [] => pure ()
  | u :: rest => do
    let _ ← Task.attempt (utf8 "save " ++ u.name) (Users.save true u)
    saveAll rest

/-- Tells how many active users each role has. -/
def showRoles : Task Unit := do
  let groups ← Task.attempt "group users" (Users.groupByRole true)
  for role in Role.all do
    match groups.get? role.name with
    | some group =>
      line (utf8 "Role " ++ role.name ++ utf8 ": " ++ Text.decimal group.length ++ utf8 " users")
    | none => pure ()

/-- Fills a cache and tells what it holds. -/
def showCache : Task Unit := do
  let empty : Cache.Local Text := {}
  let cache := (empty.set "key1" "value1").set "key2" "value2"
  match cache.get? "key1" with
  | some value => line (utf8 "Found in cache: " ++ value)
  | none => pure ()
  line (utf8 "Cache holds " ++ Text.decimal cache.size ++ utf8 " entries: "
    ++ Text.join (utf8 ", ") cache.keys)

/-- A span to the nearest millisecond. -/
def roundedSpan (d : Span) : Span := (d + 500 * Span.microsecond) / Span.millisecond * Span.millisecond

/-- Counts with four workers and tells how long it took. -/
def showCounter (delay : Span) : Task Unit := do
  let start ← Act.ask .now
  let count ← Counter.count 4 100 delay fun _ => pure ()
  let stop ← Act.ask .now
  line (utf8 "Final count: " ++ Text.decimal count ++ utf8 " ("
    ++ Span.render (roundedSpan (stop.instant - start.instant)) ++ utf8 ")")

/-- Fetches a batch and lists it. -/
def showBatch (delay : Span) : Task Unit := do
  let fetched ← Task.attempt "batch fetch" (Batch.run (.simulated delay) [1, 2, 3, 4])
  line (utf8 "Fetched " ++ Text.decimal fetched.length ++ utf8 " users")
  for u in fetched do
    line (utf8 "  " ++ User.key u.id ++ utf8 " " ++ u.name ++ utf8 " <" ++ u.email ++ utf8 ">")

/-- The whole walk. -/
def run (fetchDelay counterDelay : Span) : Task Unit := do
  saveAll users
  showRoles
  for u in users do
    line u.nameAndEmail
  showCache
  showCounter counterDelay
  for u in users do
    line u.description
  showBatch fetchDelay

end Roster.Demo
