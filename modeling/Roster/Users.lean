import Roster.Call
import Roster.Grouping

/-!
# The roster's users

Reading, saving, deactivating and removing users, with a cache in front of single look-ups. The
store decides; the cache is filled after the store has answered, is asked only by `get`, and its
faults are logged and otherwise ignored. Cached users carry no password hash.

Every operation takes a flag that says whether there is a cache.
-/

namespace Roster.Users

/-- Logs a fault of the cache. -/
def complain (activity : Text) (id : UInt64) (f : Fault) : Act Unit :=
  Act.log .warn (utf8 "user cache " ++ activity) [("id", .number id.toNat), ("error", .fault f)]

/-- Caches a user without its password hash. -/
def remember (cached : Bool) (u : User) : Act Unit := do
  if cached then
    match ← Act.ask (.cacheSet (User.key u.id) u.withoutHash) with
    | .ok _ => pure ()
    | .error f => complain "set" u.id f

/-- Drops a user from the cache. -/
def forget (cached : Bool) (id : UInt64) : Act Unit := do
  if cached then
    match ← Act.ask (.cacheRemove (User.key id)) with
    | .ok _ => pure ()
    | .error f => complain "remove" id f

/-- The cached user with an id, if the cache works and has one. -/
def lookUp (cached : Bool) (id : UInt64) : Act (Option User) := do
  if cached then
    match ← Act.ask (.cacheGet (User.key id)) with
    | .ok u => pure u
    | .error f => do
      complain "get" id f
      pure none
  else pure none

/-- The user with an id, from the cache or else from the store. -/
def get (cached : Bool) (id : UInt64) : Task User := do
  match ← lookUp cached id with
  | some u => pure u
  | none =>
    let u ← Task.require id (← Task.attempt "find user" (Task.findById id))
    remember cached u
    pure u

/-- Every user by id. -/
def list : Task (List User) := do
  let users ← Task.attempt "list users" Task.findAll
  pure (users.mergeSort fun a b => a.id ≤ b.id)

/-- The rules a user has to meet before it is stored. -/
def check (u : User) : Except Fault Unit :=
  if u.id == 0 || User.maxId < u.id then .error .idOutOfRange
  else if u.name.isEmpty || u.email.isEmpty then .error .detailsMissing
  else (Role.parse u.role).map fun _ => ()

/-- The user to be stored: one that comes without a password hash keeps the stored one. -/
def keepHash (u : User) : Task User := do
  if u.passwordHash.isEmpty then
    match ← Task.attempt "find user" (Task.findById u.id) with
    | some old => pure { u with passwordHash := old.passwordHash }
    | none => pure u
  else pure u

/-- Validates and stores a user, in place of any with the same id. -/
def save (cached : Bool) (u : User) : Task User := do
  Task.ofExcept (check u)
  let u ← keepHash u
  let u ← Task.attempt "save user" (Task.save u)
  remember cached u
  pure u

/-- Removes a user. -/
def delete (cached : Bool) (id : UInt64) : Task Unit := do
  Task.delete id
  forget cached id

/-- Marks a user inactive, which may be the case already. -/
def deactivate (cached : Bool) (id : UInt64) : Task User := do
  let u ← Task.require id (← Task.attempt "find user" (Task.findById id))
  let u ← Task.attempt "save user" (Task.save u.deactivate)
  remember cached u
  pure u

/-- Every user by role, by id within a role. -/
def groupByRole (activeOnly : Bool) : Task Groups := do
  Task.ofExcept (groupUsers (← list) activeOnly)

/-- Saves users one after the other, up to the first that fails. -/
def saveAll (cached : Bool) : List User → Task Unit
  | [] => pure ()
  | u :: rest => do
    let _ ← Task.attempt (utf8 "seed user " ++ User.key u.id) (save cached u)
    saveAll cached rest

/-- Saves the given users when the store is empty; the answer is whether it was. -/
def seed (cached : Bool) (users : List User) : Task Bool := do
  let stored ← Task.attempt "list users" Task.findAll
  if stored.isEmpty then
    saveAll cached users
    pure true
  else pure false

end Roster.Users
