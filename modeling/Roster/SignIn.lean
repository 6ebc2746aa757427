import Roster.Secret.Password
import Roster.Secret.Token
import Roster.Users
import Roster.Word

/-!
# Signing in

Passwords, sign-in and the checking of tokens. All decisions rest on the store; the cache is only told
to forget a user whose record has changed. An unknown email, a wrong password, a user without a
password and an inactive user are answered alike.
-/

namespace Roster

/-- What signing in depends on: the secret for tokens, the scheme for passwords, and whether there is
a cache to clear. -/
structure SignIn where
  secret : Text
  passwords : PasswordScheme
  cached : Bool

namespace SignIn

/-- Who a token stands for. -/
structure Identity where
  id : UInt64
  role : Role
deriving DecidableEq, Repr

/-- Stores the hash of a new password for a user. -/
def setPassword (s : SignIn) (id : UInt64) (password : Text) : Task Unit := do
  if password.length < Fault.minPasswordLength then throw .passwordShort
  let u ← Task.require id (← Task.attempt "find user" (Task.findById id))
  let salt ← Act.ask .salt
  let hash ← Task.attempt "hash password" (Task.ofExcept (s.passwords.hash salt password))
  let _ ← Task.attempt "save user" (Task.save { u with passwordHash := hash })
  Users.forget s.cached id

/-- Whether a stored user may sign in with a password. -/
def admits (s : SignIn) (u : User) (password : Text) : Bool :=
  !u.passwordHash.isEmpty && u.active && s.passwords.accepts u.passwordHash password

/-- A token for the user with an email and a password. -/
def login (s : SignIn) (email password : Text) : Task Text := do
  match ← Task.attempt "get user" (Task.findByEmail email) with
  | none => throw .unauthorized
  | some u =>
    if s.admits u password then
      let now ← Act.ask .now
      pure (Token.issue s.secret now u.role (User.key u.id))
    else throw .unauthorized

/-- The unsigned 64-bit number that digits denote. -/
def readId? (t : Text) : Option UInt64 :=
  match Text.toNat? t with
  | some n => if n < Word.count then some n.toUInt64 else none
  | none => none

/-- Who a token stands for at a moment. -/
def identity? (s : SignIn) (now : Timestamp) (token : Text) : Option Identity := do
  let c ← Token.verify? s.secret now token
  let id ← readId? c.subject
  let role ← Role.parse? c.role
  pure { id, role }

/-- Who a token stands for, now. -/
def validate (s : SignIn) (token : Text) : Task Identity := do
  let now ← Act.ask .now
  match s.identity? now token with
  | some i => pure i
  | none => throw .unauthorized

/-- The active user a token stands for, as stored now. -/
def authenticate (s : SignIn) (token : Text) : Task User := do
  let i ← s.validate token
  match ← Task.attempt "find user" (Task.findById i.id) with
  | some u => if u.active then pure u else throw .unauthorized
  | none => throw .unauthorized

end SignIn

end Roster
