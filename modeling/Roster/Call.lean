import Roster.Program
import Roster.Log

/-!
# What the services ask of their surroundings

Every effect of the services and of the HTTP layer is one of the calls below. Each is atomic: two
services running side by side interleave call by call, never inside one.
-/

namespace Roster

/-- A call to the surroundings. -/
inductive Call where
  /-- The stored user with an id. -/
  | findById (id : UInt64)
  /-- The stored user with an email up to case, the one with the least id if there are several. -/
  | findByEmail (email : Text)
  /-- Stores a user under its id, with the times of creation and change. -/
  | save (user : User)
  /-- Removes the user with an id. -/
  | delete (id : UInt64)
  /-- Every stored user, in no particular order. -/
  | findAll
  /-- The cached user under a key. -/
  | cacheGet (key : Text)
  /-- Caches a user under a key. -/
  | cacheSet (key : Text) (user : User)
  /-- Removes the cached user under a key. -/
  | cacheRemove (key : Text)
  /-- Writes a log entry. -/
  | log (entry : Log.Entry)
  /-- The current moment. -/
  | now
  /-- Fresh random bytes for a password hash. -/
  | salt
  /-- A fresh request id. -/
  | requestId
  /-- Waits, unless the caller's patience ends first. -/
  | wait (d : Span)
  /-- Lets time pass, whatever the caller's patience. -/
  | pause (d : Span)
  /-- Whether the caller has given up or run out of time. -/
  | patience
  /-- Whether a client may try to sign in once more. -/
  | mayTry (client : Text)
  /-- Writes a piece of the response body. -/
  | write (piece : Text)

/-- The type of the answer to a call. -/
@[reducible]
def Call.Answer : Call → Type
  | .findById _ | .findByEmail _ => Except Fault (Option User)
  | .save _ => Except Fault User
  | .delete _ => Except Fault Unit
  | .findAll => Except Fault (List User)
  | .cacheGet _ | .cacheRemove _ => Except Fault (Option User)
  | .cacheSet _ _ => Except Fault Unit
  | .log _ => Unit
  | .now => Timestamp
  | .salt => Text
  | .requestId => Text
  | .wait _ => Except Fault Unit
  | .pause _ => Unit
  | .patience => Except Fault Unit
  | .mayTry _ => Bool
  | .write _ => Except Fault Unit

/-- The calls of the services. -/
@[reducible]
def Surroundings : Interface := ⟨Call, Call.Answer⟩

/-- A computation of the services that does not fail. -/
abbrev Act := Program Surroundings

/-- A computation of the services that may fail. -/
abbrev Task := ExceptT Fault Act

namespace Act

/-- A single call. -/
def ask (c : Call) : Act c.Answer := Program.ask (I := Surroundings) c

/-- Writes a log entry. -/
def log (level : Log.Level) (message : Text) (fields : List (Text × Log.Value)) : Act Unit :=
  ask (.log { level, message, fields })

end Act

namespace Task

/-- Runs a call that may fail, saying what it was made for. -/
def attempt {α : Type} (activity : Text) (t : Task α) : Task α :=
  ExceptT.adapt (Fault.during activity) t

/-- The stored user with an id. -/
def findById (id : UInt64) : Task (Option User) := ExceptT.mk (Act.ask (.findById id))

/-- The stored user with an email up to case. -/
def findByEmail (email : Text) : Task (Option User) := ExceptT.mk (Act.ask (.findByEmail email))

/-- Stores a user; the answer carries the times that were stored. -/
def save (user : User) : Task User := ExceptT.mk (Act.ask (.save user))

/-- Removes the user with an id. -/
def delete (id : UInt64) : Task Unit := ExceptT.mk (Act.ask (.delete id))

/-- Every stored user. -/
def findAll : Task (List User) := ExceptT.mk (Act.ask .findAll)

/-- A value, or a fault. -/
def ofExcept {α : Type} (r : Except Fault α) : Task α := ExceptT.mk (pure r)

/-- The user with an id, or the fault that there is none. -/
def require (id : UInt64) (u : Option User) : Task User :=
  match u with
  | some u => pure u
  | none => throw (.userAbsent id)

end Task

end Roster
