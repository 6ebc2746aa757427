import Roster.Role
import Roster.Time.Timestamp

/-!
# Users

A user record as the stores keep it. Nothing is validated here: a role is any text, and ids use the
whole unsigned 64-bit range although the stores reached by SQL hold signed ones only.
-/

namespace Roster

/-- A member of the roster. -/
structure User where
  id : UInt64
  name : Text
  email : Text
  role : Text
  active : Bool := true
  passwordHash : Text := []
  createdAt : Timestamp := .zero
  updatedAt : Timestamp := .zero
deriving DecidableEq, Repr, Inhabited

namespace User

/-- The largest id a store holds. -/
def maxId : UInt64 := 9223372036854775807

/-- The record with every field empty; its holder is not active. -/
def blank : User := { id := 0, name := [], email := [], role := [], active := false }

/-- The user, no longer active. -/
def deactivate (u : User) : User := { u with active := false }

/-- Whether the user holds the admin role. -/
def isAdmin (u : User) : Bool := u.role == Role.admin.name

/-- The user without the password hash, as caches keep it. -/
def withoutHash (u : User) : User := { u with passwordHash := [] }

/-- An id as decimal text: the key of the user in a cache and the subject of a token. -/
def key (id : UInt64) : Text := Text.decimal id.toNat

/-- Name and email on one line. -/
def nameAndEmail (u : User) : Text := u.name ++ utf8 ": " ++ u.email

/-- A sentence on what the user may do. -/
def description (u : User) : Text := u.name ++ utf8 " is a " ++ Role.describeText u.role

/-- The users that a fresh store is given. -/
def starters : List User :=
  [{ id := 1, name := "Alice", email := "alice@example.com", role := Role.admin.name },
   { id := 2, name := "Bob", email := "bob@example.com", role := Role.editor.name },
   { id := 3, name := "Charlie", email := "charlie@example.com", role := Role.viewer.name }]

end User

end Roster
