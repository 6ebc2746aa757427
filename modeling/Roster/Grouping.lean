import Roster.Fault

/-!
# Grouping users by role

Users are partitioned by the text of their role. Within a group they keep their order, and only
roles that somebody holds have a group.
-/

namespace Roster

/-- Users by role text, one entry for each role that occurs. -/
abbrev Groups := List (Text × List User)

namespace Groups

/-- The users under a role. -/
def get? (g : Groups) (role : Text) : Option (List User) := g.lookup role

/-- Appends a user to the group of its role, opening the group if need be. -/
def add (g : Groups) (u : User) : Groups :=
  match g with
  | [] => [(u.role, [u])]
  | (role, users) :: rest =>
    if role == u.role then (role, users ++ [u]) :: rest else (role, users) :: add rest u

/-- The groups by role text in bytewise order. -/
def sorted (g : Groups) : Groups := g.mergeSort fun a b => Text.le a.1 b.1

end Groups

/-- Groups users by role. An empty list is refused before any filtering. -/
def groupUsers (users : List User) (activeOnly : Bool) : Except Fault Groups :=
  if users.isEmpty then .error .usersEmpty
  else .ok ((users.filter fun u => u.active || !activeOnly).foldl Groups.add [])

end Roster
