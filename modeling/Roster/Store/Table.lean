import Roster.Decimal.Paired
import Roster.Store.Column
import Roster.Store.Moment
import Roster.Store.Sql
import Roster.Text.Fold

/-!
# The tables

What the statements of the store do to its two tables: the users, and the names of the migrations that
have been applied. Columns have affinities: a text put into a numeric column becomes a number if it
looks like one, and a text found in a date column is read as a moment if it looks like one.
-/

namespace Roster.Sql

/-- A row of the table of users. -/
structure Row where
  id : Int
  name : Text
  email : Text
  role : Text
  active : Datum
  passwordHash : Text
  createdAt : Datum
  updatedAt : Datum
deriving Repr

/-- The two tables, each of which may not exist, and the state to go back to when a transaction is
rolled back. -/
structure Database where
  users : Option (List Row) := none
  migrations : Option (List Text) := none
  saved : Option (Option (List Row) × Option (List Text)) := none
  closed : Bool := false

/-! ## Values -/

/-- A value of a date column as it is read. -/
def asMoment : Datum → Datum
  | .text t =>
    match momentOf? t with
    | some ts => .time ts
    | none => .text t
  | d => d

/-- The integer that a real number is, if it is one within 64 bits. -/
def integral? (x : Float) : Option Int :=
  if x == x.floor && -9223372036854775808.0 < x && x < 9223372036854775807.0 then some x.toInt64.toInt
  else none

/-- A text put into a numeric column. -/
def numeric (t : Text) : Datum :=
  let body := Text.trimWhile Text.isSpace t
  match Numeral.integer body with
  | .ok n => .int n
  | .error _ =>
    match Decimal.numeral? body with
    | some n =>
      let x := n.toFloatPaired
      match integral? x with
      | some i => .int i
      | none => .real x
    | none => .text t

/-! ## Statements -/

/-- A table is missing. -/
def noTable (name : Text) : Fault := statementFault (utf8 "no such table: " ++ name)

/-- A role breaks the table's rule. -/
def roleRefused : Fault :=
  databaseFault "constraint failed" "CHECK constraint failed: role IN ('admin', 'editor', 'viewer')" 275

/-- The handle has been closed. -/
def handleClosed : Fault := .reported "sql: database is closed"

/-- The values of a row, as a query for users shows them. -/
def Row.values (r : Row) : List Datum :=
  [.int r.id, .text r.name, .text r.email, .text r.role, r.active, .text r.passwordHash,
   asMoment r.createdAt, asMoment r.updatedAt]

/-- The id of a user as the table holds it. -/
def rowId (id : UInt64) : Int := id.toNat

/-- The row of a user stored at a moment. -/
def Row.ofUser (u : User) (now : Timestamp) : Row :=
  { id := rowId u.id
    name := u.name
    email := u.email
    role := u.role
    active := .int (if u.active then 1 else 0)
    passwordHash := u.passwordHash
    createdAt := .time now
    updatedAt := .time now }

/-- Puts a row among rows that are ordered by id, in place of any with its id. -/
def insertRow (r : Row) : List Row → List Row
  | [] => [r]
  | s :: rest =>
    if r.id < s.id then r :: s :: rest
    else if r.id == s.id then r :: rest
    else s :: insertRow r rest

namespace Database

/-- The table of users, or the fault that it is missing. -/
def table (db : Database) : Except Fault (List Row) :=
  match db.users with
  | some rows => .ok rows
  | none => .error (noTable "users")

/-- The table of migrations, or the fault that it is missing. -/
def tracking (db : Database) : Except Fault (List Text) :=
  match db.migrations with
  | some names => .ok names
  | none => .error (noTable "schema_migrations")

/-- Answers a query. -/
def query (db : Database) : Query → Except Fault ResultSet
  | .userById id => db.table.map fun rows =>
    { columns := userColumns, rows := (rows.filter fun r => r.id == rowId id).map Row.values }
  | .userByEmail email => db.table.map fun rows =>
    { columns := userColumns
      rows := ((rows.filter fun r => Text.equalNoCase r.email email).take 1).map Row.values }
  | .allUsers => db.table.map fun rows => { columns := userColumns, rows := rows.map Row.values }
  | .createdAt id => db.table.map fun rows =>
    { columns := ["created_at"]
      rows := (rows.filter fun r => r.id == rowId id).map fun r => [asMoment r.createdAt] }
  | .migrations => db.tracking.map fun names =>
    { columns := ["filename"], rows := names.map fun n => [.text n] }

/-- Carries out a command; the answer is the number of rows it affected. -/
def exec (db : Database) : Command → Except Fault Int × Database
  | .upsertUser u now =>
    match db.table with
    | .error f => (.error f, db)
    | .ok rows =>
      if (Role.parse? u.role).isNone then (.error roleRefused, db)
      else
        let fresh := Row.ofUser u now
        let row :=
          match rows.find? fun r => r.id == fresh.id with
          | some old => { fresh with createdAt := old.createdAt }
          | none => fresh
        (.ok 1, { db with users := some (insertRow row rows) })
  | .deleteUser id =>
    match db.table with
    | .error f => (.error f, db)
    | .ok rows =>
      let kept := rows.filter fun r => r.id != rowId id
      (.ok (rows.length - kept.length), { db with users := some kept })
  | .trackMigrations => (.ok 0, { db with migrations := some (db.migrations.getD []) })
  | .migrate _ => (.ok 0, { db with users := some (db.users.getD []) })
  | .recordMigration name =>
    match db.tracking with
    | .error f => (.error f, db)
    | .ok names =>
      if names.contains name then
        (.error (databaseFault "constraint failed"
          "UNIQUE constraint failed: schema_migrations.filename" 1555), db)
      else (.ok 1, { db with migrations := some (names ++ [name]) })

/-- Starts a transaction. -/
def begin (db : Database) : Database := { db with saved := some (db.users, db.migrations) }

/-- Makes the changes of a transaction lasting. -/
def commit (db : Database) : Database := { db with saved := none }

/-- Undoes the changes of a transaction. -/
def rollback (db : Database) : Database :=
  match db.saved with
  | some (users, migrations) => { db with users, migrations, saved := none }
  | none => db

/-- Changes one column of a row to a text; the column is one of the table's. -/
def setColumn (rows : List Row) (r : Row) (column value : Text) : Except Fault Row :=
  if column == utf8 "id" then
    match numeric value with
    | .int n =>
      if n != r.id && rows.any fun s => s.id == n then
        .error (databaseFault "constraint failed" "UNIQUE constraint failed: users.id" 1555)
      else .ok { r with id := n }
    | _ => .error (.reported "datatype mismatch (20)")
  else if column == utf8 "name" then .ok { r with name := value }
  else if column == utf8 "email" then .ok { r with email := value }
  else if column == utf8 "role" then
    if (Role.parse? value).isNone then .error roleRefused else .ok { r with role := value }
  else if column == utf8 "active" then .ok { r with active := numeric value }
  else if column == utf8 "password_hash" then .ok { r with passwordHash := value }
  else if column == utf8 "created_at" then .ok { r with createdAt := numeric value }
  else .ok { r with updatedAt := numeric value }

/-- The column of users that a name means; three further names mean the id. -/
def column? (name : Text) : Option Text :=
  let name := Text.lower name
  if name == utf8 "rowid" || name == utf8 "_rowid_" || name == utf8 "oid" then some "id"
  else if userColumns.contains name then some name
  else none

/-- Changes one column of the user with an id to a text. -/
def overwrite (db : Database) (id : UInt64) (column value : Text) : Except Fault Unit × Database :=
  match columnName column, db.table with
  | .error f, _ | _, .error f => (.error f, db)
  | .ok name, .ok rows =>
    match column? name, rows.find? fun r => r.id == rowId id with
    | none, _ => (.error (statementFault (utf8 "no such column: " ++ name)), db)
    | some _, none => (.ok (), db)
    | some column, some r =>
      match setColumn rows r column value with
      | .error f => (.error f, db)
      | .ok row => (.ok (), { db with users := some (insertRow row (rows.filter fun s => s.id != r.id)) })

end Database

end Roster.Sql
