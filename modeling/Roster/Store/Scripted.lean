import Roster.Store.Sql

/-!
# A driver that follows a script

Each entry of the script answers one call of its sort. A call that the next entry does not answer
fails, and the entry stays.
-/

namespace Roster.Sql

/-- The answer to one call. -/
inductive Scripted where
  | query (answer : Except Fault ResultSet)
  | exec (answer : Except Fault (Except Fault Int))
  | begin (answer : Except Fault Unit)
  | commit (answer : Except Fault Unit)
  | rollback (answer : Except Fault Unit)

/-- The fault of a call that the script does not foresee. -/
def unforeseen : Fault := .reported "call was not expected"

/-- Answers a call from the front of the script; the clock stands still. -/
def follow (now : Timestamp) : (c : Call) → List Scripted → c.Answer × List Scripted
  | .query _, .query a :: rest => (a, rest)
  | .query _, script => (.error unforeseen, script)
  | .exec _, .exec a :: rest => (a, rest)
  | .exec _, script => (.error unforeseen, script)
  | .begin, .begin a :: rest => (a, rest)
  | .begin, script => (.error unforeseen, script)
  | .commit, .commit a :: rest => (a, rest)
  | .commit, script => (.error unforeseen, script)
  | .rollback, .rollback a :: rest => (a, rest)
  | .rollback, script => (.error unforeseen, script)
  | .now, script => (now, script)
  | .log _, script => ((), script)

end Roster.Sql
