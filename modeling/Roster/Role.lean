import Roster.Text.Basic

/-!
# Roles

The roster knows three roles. A stored user carries the text of a role, which need not be one of
them; `Role.parse?` tells.
-/

namespace Roster

/-- A user's permission level. -/
inductive Role where
  | admin
  | editor
  | viewer
deriving DecidableEq, Repr, Inhabited

namespace Role

/-- Every role, in the order in which they are shown. -/
def all : List Role := [.admin, .editor, .viewer]

/-- The text of a role. -/
def name : Role → Text
  | .admin => "admin"
  | .editor => "editor"
  | .viewer => "viewer"

/-- The role with the given text. Case and blanks matter. -/
def parse? (t : Text) : Option Role := all.find? fun r => r.name == t

/-- What holders of a role may do. -/
def describe : Role → Text
  | .admin => "Administrator with full access"
  | .editor => "Editor with content management access"
  | .viewer => "Viewer with read-only access"

/-- The description of any text as a role. -/
def describeText (t : Text) : Text :=
  match parse? t with
  | some r => r.describe
  | none => "Unknown role"

end Role

end Roster
