import Roster.Cache.Address
import Roster.World

/-!
# The machine that commands run on

Files in the working directory, database files among them, and cache servers that can be reached. A
database stays behind when the command that made it has ended.
-/

namespace Roster

/-- What commands find and leave behind. -/
structure Machine where
  /-- Files by their paths. -/
  files : List (Text × Text) := []
  /-- Databases by the paths of their files. -/
  databases : List (Text × Sql.Database) := []
  /-- Cache servers by their addresses. -/
  servers : List (Text × Cache.Server) := []

namespace Machine

/-- A path without steps that lead nowhere. -/
def cleaned (path : Text) : Text :=
  let parts := (Text.split (Text.byte '/') path).filter fun p => !p.isEmpty && p != utf8 "."
  (if Text.startsWith path "/" then utf8 "/" else []) ++ Text.join (utf8 "/") parts

/-- The directory of a path. -/
def directory (path : Text) : Text := ((Text.cutLast? (Text.byte '/') path).map Prod.fst).getD []

/-- Whether there is a directory: the working directory, or one that holds a file. -/
def hasDirectory (m : Machine) (path : Text) : Bool :=
  path.isEmpty || m.files.any fun f => Text.startsWith (cleaned f.1) (path ++ utf8 "/")

/-- The content of a file. -/
def content? (m : Machine) (path : Text) : Option Text :=
  (m.files.map fun (p, t) => (cleaned p, t)).lookup (cleaned path)

/-! ## Databases -/

/-- The path of the file that a database name stands for; none if the database lives in memory. -/
def databaseFile? (name : Text) : Option Text :=
  let path := ((Text.cut? (Text.byte '?') name).map Prod.fst).getD name
  let path := (Text.strip? "file:" path).getD path
  if path.isEmpty || path == utf8 ":memory:" then none else some (cleaned path)

/-- The fault of a file that cannot be opened. -/
def cannotOpen : Fault := .reported "unable to open database file: out of memory (14)"

/-- The fault of a file that holds something else. -/
def noDatabase : Fault := .reported "file is not a database (26)"

/-- Opens a database, a new one if there is none. -/
def openDatabase (m : Machine) (name : Text) : Except Fault Sql.Database :=
  match databaseFile? name with
  | none => .ok {}
  | some path =>
    match m.databases.lookup path with
    | some db => .ok db
    | none =>
      if !m.hasDirectory (directory path) || m.hasDirectory path then
        .error (.during "enable WAL mode" cannotOpen)
      else
        match m.content? path with
        | none | some [] => .ok {}
        | some _ => .error (.during "enable WAL mode" noDatabase)

/-- Keeps a database in its file. -/
def keepDatabase (m : Machine) (name : Text) (db : Sql.Database) : Machine :=
  match databaseFile? name with
  | none => m
  | some path => { m with databases := (path, db) :: m.databases.filter fun e => e.1 != path }

/-- The users in a database, by id. -/
def usersIn (m : Machine) (name : Text) : Except Fault (List User) := do
  let db ← m.openDatabase name
  let users ← (World.attempt { clock := 0, storage := .database db } Task.findAll).1
  pure (users.mergeSort fun a b => a.id ≤ b.id)

/-! ## Cache servers -/

/-- The fault of a server that cannot be reached. -/
def unreachable (o : Cache.Options) : Fault :=
  let reason := if o.network == utf8 "unix" then utf8 "no such file or directory" else utf8 "connection refused"
  .during (utf8 "dial " ++ o.network ++ utf8 " " ++ o.addr) (.during "connect" (.reported reason))

/-- Why a server without users and passwords refuses those that it is given. -/
def refusal (o : Cache.Options) : Fault :=
  .reported (if o.username.isEmpty then
      utf8 "ERR AUTH <password> called without any password configured for the default user. "
        ++ utf8 "Are you sure your configuration is correct?"
    else utf8 "WRONGPASS invalid username-password pair")

/-- The server that options lead to. -/
def reach (m : Machine) (o : Cache.Options) : Except Fault Cache.Server :=
  match m.servers.lookup o.addr with
  | none => .error (unreachable o)
  | some s => if o.password.isEmpty then .ok s else .error (refusal o)

end Machine

end Roster
