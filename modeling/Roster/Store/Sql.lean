import Roster.Decimal.Shortest
import Roster.Log
import Roster.Program
import Roster.Text.Numeral
import Roster.Word

/-!
# The store behind a driver

Users kept in a table that is reached by statements. Each operation is a program over the calls a
driver answers, so that it can be run against a driver that follows a script as well as against a
table. A fault of the driver is reported as a fault of the store, and never taken for an answer.
-/

namespace Roster.Sql

/-- A value in a row. -/
inductive Datum where
  | null
  | int (n : Int)
  | real (x : Float)
  | bool (b : Bool)
  | text (t : Text)
  | time (t : Timestamp)
deriving Repr, Inhabited

/-- The answer to a query: named columns and rows. Fetching the row at `broken` fails. -/
structure ResultSet where
  columns : List Text
  rows : List (List Datum)
  broken : Option (Nat × Fault) := none

/-- Statements that ask. -/
inductive Query where
  | userById (id : UInt64)
  | userByEmail (email : Text)
  | allUsers
  | createdAt (id : UInt64)
  | migrations

/-- Statements that change something. -/
inductive Command where
  | upsertUser (user : User) (now : Timestamp)
  | deleteUser (id : UInt64)
  | trackMigrations
  | migrate (name : Text)
  | recordMigration (name : Text)

/-- What a driver is asked to do. -/
inductive Call where
  | query (q : Query)
  | exec (c : Command)
  | begin
  | commit
  | rollback
  | now
  | log (entry : Log.Entry)

/-- The type of a driver's answer. The answer to a command is the number of rows it affected, which
may itself be unknown. -/
@[reducible]
def Call.Answer : Call → Type
  | .query _ => Except Fault ResultSet
  | .exec _ => Except Fault (Except Fault Int)
  | .begin | .commit | .rollback => Except Fault Unit
  | .now => Timestamp
  | .log _ => Unit

/-- The calls a driver answers. -/
@[reducible]
def Driver : Interface := ⟨Call, Call.Answer⟩

/-- A computation against a driver that may fail. -/
abbrev Script := ExceptT Fault (Program Driver)

/-- A single call. -/
def ask (c : Call) : Program Driver c.Answer := Program.ask (I := Driver) c

/-! ## Reading rows -/

/-- The name of a value's type in messages. -/
def Datum.typeName : Datum → Text
  | .null => "<nil>"
  | .int _ => "int64"
  | .real _ => "float64"
  | .bool _ => "bool"
  | .text _ => "string"
  | .time _ => "time.Time"

/-- The text of a value. -/
def Datum.render : Datum → Text
  | .null => "<nil>"
  | .int n => Text.decimalInt n
  | .real x => Decimal.write .compact x
  | .bool b => if b then "true" else "false"
  | .text t => t
  | .time t => t.renderWordy

/-- Reads an id. -/
def readId (d : Datum) : Except Fault UInt64 :=
  let refuse := fun (flaw : Numeral.Flaw) =>
    Except.error (Fault.reported (utf8 "converting driver.Value type " ++ d.typeName ++ utf8 " ("
      ++ Text.quoted d.render ++ utf8 ") to a uint64: " ++ flaw.describe))
  match d with
  | .null => .error (.reported "converting NULL to uint64 is unsupported")
  | d =>
    match Numeral.natural d.render with
    | .ok n => .ok n.toUInt64
    | .error flaw => refuse flaw

/-- Reads a text. -/
def readText : Datum → Except Fault Text
  | .null => .error (.reported "converting NULL to string is unsupported")
  | .time t => .ok t.renderFull
  | d => .ok d.render

/-- Reads a truth value. -/
def readBool (d : Datum) : Except Fault Bool :=
  let refuse := fun (shown : Text) =>
    Except.error (Fault.reported (utf8 "sql/driver: couldn't convert " ++ shown ++ utf8 " into type bool"))
  match d with
  | .bool b => .ok b
  | .text t =>
    match Numeral.truth? t with
    | some b => .ok b
    | none => refuse (Text.quoted t)
  | .int n => if n == 1 then .ok true else if n == 0 then .ok false else refuse (Text.decimalInt n)
  | d => refuse (d.render ++ utf8 " (" ++ d.typeName ++ utf8 ")")

/-- Reads a moment. -/
def readTime : Datum → Except Fault Timestamp
  | .time t => .ok t
  | d => .error (.reported (utf8 "unsupported Scan, storing driver.Value type " ++ d.typeName
      ++ utf8 " into type *time.Time"))

/-- Says in which column a value was refused. -/
def inColumn {α : Type} (columns : List Text) (i : Nat) : Except Fault α → Except Fault α
  | .ok a => .ok a
  | .error f => .error (.during (utf8 "sql: Scan error on column index " ++ Text.decimal i ++ utf8 ", name "
      ++ Text.quoted (columns.getD i [])) f)

/-- Refuses a row that does not have the expected number of columns. -/
def expectColumns (columns : List Text) (n : Nat) : Except Fault Unit :=
  if columns.length == n then .ok ()
  else .error (.reported (utf8 "sql: expected " ++ Text.decimal columns.length
    ++ utf8 " destination arguments in Scan, not " ++ Text.decimal n))

/-- The columns of a user, in the order in which rows hold them. -/
def userColumns : List Text :=
  ["id", "name", "email", "role", "active", "password_hash", "created_at", "updated_at"]

/-- Reads a user from a row. -/
def readUser (columns : List Text) (row : List Datum) : Except Fault User := do
  expectColumns columns 8
  let get := fun i => row.getD i .null
  let id ← inColumn columns 0 (readId (get 0))
  let name ← inColumn columns 1 (readText (get 1))
  let email ← inColumn columns 2 (readText (get 2))
  let role ← inColumn columns 3 (readText (get 3))
  let active ← inColumn columns 4 (readBool (get 4))
  let passwordHash ← inColumn columns 5 (readText (get 5))
  let createdAt ← inColumn columns 6 (readTime (get 6))
  let updatedAt ← inColumn columns 7 (readTime (get 7))
  pure { id, name, email, role, active, passwordHash, createdAt, updatedAt }

/-- The fault of fetching the row at a place, if fetching it fails. -/
def brokenAt (broken : Option (Nat × Fault)) (i : Nat) : Option Fault :=
  match broken with
  | some (n, f) => if n == i then some f else none
  | none => none

/-- Fetches the rows from place `i` on and reads each; why it stopped early, if it did, says whether a
row could not be read or could not be fetched. -/
def readRows {α : Type} (read : List Datum → Except Fault α) (unread unfetched : Fault → Fault)
    (broken : Option (Nat × Fault)) : Nat → List (List Datum) → Except Fault (List α)
  | i, [] =>
    match brokenAt broken i with
    | some f => .error (unfetched f)
    | none => .ok []
  | i, row :: rest =>
    match brokenAt broken i with
    | some f => .error (unfetched f)
    | none =>
      match read row with
      | .error f => .error (unread f)
      | .ok a => (readRows read unread unfetched broken (i + 1) rest).map (a :: ·)

/-- Reads the first row, if there is one. -/
def readFirst {α : Type} (read : List Text → List Datum → Except Fault α) (r : ResultSet) :
    Except Fault (Option α) :=
  match brokenAt r.broken 0, r.rows with
  | some f, _ => .error f
  | none, [] => .ok none
  | none, row :: _ => (read r.columns row).map some

/-! ## The store's operations -/

/-- A fault of the driver, met while doing something. -/
def failure (activity : Text) (f : Fault) : Fault := .store (.during activity f)

/-- Asks; a fault is a fault of the store. -/
def query (activity : Text) (q : Query) : Script ResultSet :=
  ExceptT.adapt (failure activity) (ExceptT.mk (ask (.query q)))

/-- Changes something; a fault is a fault of the store. -/
def exec (activity : Text) (c : Command) : Script (Except Fault Int) :=
  ExceptT.adapt (failure activity) (ExceptT.mk (ask (.exec c)))

/-- A value read from rows; a fault is a fault of the store. -/
def reading {α : Type} (activity : Text) (r : Except Fault α) : Script α :=
  ExceptT.adapt (failure activity) (ExceptT.mk (pure r))

/-- Asks for at most one user. -/
def findOne (activity : Text) (q : Query) : Script (Option User) := do
  let r ← query activity q
  reading activity (readFirst readUser r)

/-- The user with an id. Ids beyond the table's range are not in it. -/
def findById (id : UInt64) : Script (Option User) := do
  if User.maxId < id then pure none else findOne "query user by id" (.userById id)

/-- The user with an email up to ASCII case; of several, the one with the least id. -/
def findByEmail (email : Text) : Script (Option User) :=
  findOne "query user by email" (.userByEmail email)

/-- Reads a single moment from a row. -/
def readCreated (columns : List Text) (row : List Datum) : Except Fault Timestamp := do
  expectColumns columns 1
  inColumn columns 0 (readTime (row.getD 0 .null))

/-- A value that has to be there. -/
def present {α : Type} : Option α → Except Fault α
  | some a => .ok a
  | none => .error (.reported "sql: no rows in result set")

/-- Stores a user and reads the time of creation back. -/
def save (u : User) : Script User := do
  if User.maxId < u.id then throw (.idTooLarge u.id)
  let now ← ask .now
  let _ ← exec "upsert user" (.upsertUser u now)
  let r ← query "read back user" (.createdAt u.id)
  let created ← reading "read back user" ((readFirst readCreated r).bind present)
  pure { u with createdAt := created, updatedAt := now }

/-- Removes the user with an id. -/
def delete (id : UInt64) : Script Unit := do
  if User.maxId < id then throw (.userAbsent id)
  let affected ← exec "delete user" (.deleteUser id)
  let n ← reading "rows affected" affected
  if n == 0 then throw (.userAbsent id)

/-- Every user. -/
def findAll : Script (List User) := do
  let r ← query "list users" .allUsers
  ExceptT.mk (pure (readRows (readUser r.columns) (failure "scan user") (failure "iterate users")
    r.broken 0 r.rows))

end Roster.Sql
