import Roster.Fault
import Roster.Text.Fold

/-!
# The store in memory

Users by id. The entries of a store have different ids; their order carries no meaning.
-/

namespace Roster.Store

/-- Users under their ids. -/
structure Memory where
  users : List User := []
deriving Repr, Inhabited

namespace Memory

/-- The user with an id. -/
def find? (m : Memory) (id : UInt64) : Option User := m.users.find? fun u => u.id == id

/-- The better of two matches of an email: the one with the lesser id. -/
def lesser (best : Option User) (u : User) : Option User :=
  match best with
  | some b => if u.id < b.id then some u else some b
  | none => some u

/-- The user with an email up to case; of several, the one with the least id. -/
def findEmail? (m : Memory) (email : Text) : Option User :=
  (m.users.filter fun u => Text.equalFold u.email email).foldl lesser none

/-- Stores a user under its id at a moment. An earlier user with that id leaves its time of
creation behind. -/
def save (m : Memory) (now : Timestamp) (u : User) : User × Memory :=
  let created := ((m.find? u.id).map User.createdAt).getD now
  let u := { u with createdAt := created, updatedAt := now }
  (u, ⟨u :: m.users.filter fun v => v.id != u.id⟩)

/-- Removes the user with an id. -/
def delete (m : Memory) (id : UInt64) : Except Fault Unit × Memory :=
  match m.find? id with
  | some _ => (.ok (), ⟨m.users.filter fun v => v.id != id⟩)
  | none => (.error (.userAbsent id), m)

end Memory

end Roster.Store
