import Roster.Text.Basic

/-!
# The cache in the process

Values of one type under text keys. Nothing expires and nothing fails.
-/

namespace Roster.Cache

/-- Values under keys; each key occurs once. -/
structure Local (α : Type) where
  entries : List (Text × α) := []
deriving Repr, Inhabited

namespace Local

variable {α : Type}

/-- The value under a key. -/
def get? (c : Local α) (key : Text) : Option α := c.entries.lookup key

/-- Drops a key. -/
def erase (c : Local α) (key : Text) : Local α := ⟨c.entries.filter fun e => e.1 != key⟩

/-- Puts a value under a key, in place of any other. -/
def set (c : Local α) (key : Text) (value : α) : Local α := ⟨(key, value) :: (c.erase key).entries⟩

/-- Drops a key and answers with the value it held. -/
def remove (c : Local α) (key : Text) : Option α × Local α := (c.get? key, c.erase key)

/-- The number of keys. -/
def size (c : Local α) : Nat := c.entries.length

/-- The keys in bytewise order. -/
def keys (c : Local α) : List Text := Text.sorted (c.entries.map Prod.fst)

end Local

end Roster.Cache
