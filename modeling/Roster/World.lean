import Roster.Call
import Roster.Limiter
import Roster.Store.Memory
import Roster.Store.Migration
import Roster.Store.Table
import Roster.Cache.Local
import Roster.Cache.Remote

/-!
# A world to run the services in

The services only describe the calls they make; a world answers them. It holds a store, perhaps a cache
and a limiter, a clock that moves when somebody waits, and what the services have left behind: log
entries and the pieces of a response body. Any operation of store and cache can be made to fail.
-/

namespace Roster

/-- Where users are kept. -/
inductive Storage where
  | memory (m : Store.Memory)
  | database (db : Sql.Database)

/-- Where users are cached. -/
inductive Caching where
  | absent
  | inProcess (c : Cache.Local User)
  | onServer (r : Cache.Remote User) (s : Cache.Server)

/-- The operations that can be made to fail. -/
inductive Point where
  | findById
  | findByEmail
  | save
  | delete
  | findAll
  | cacheGet
  | cacheSet
  | cacheRemove
deriving DecidableEq, Repr

/-- Everything the services can reach. -/
structure World where
  clock : Instant
  storage : Storage := .memory {}
  caching : Caching := .inProcess {}
  limiter : Option (Limiter Float) := none
  /-- The operations that fail, with the texts they fail with. -/
  failing : List (Point × Text) := []
  /-- Whether the caller has given up. -/
  canceled : Bool := false
  /-- When the caller's time is over. -/
  deadline : Option Instant := none
  /-- Log entries, the latest first. -/
  entries : List Log.Entry := []
  /-- How many salts have been handed out. -/
  salts : Nat := 0
  /-- The next fresh request id. -/
  freshId : Text := []
  /-- How many more pieces of a body can be written, if that is limited. -/
  writesLeft : Option Nat := none
  /-- The written pieces of the body, the latest first. -/
  pieces : List Text := []

namespace World

/-- The current moment. -/
def now (w : World) : Timestamp := { instant := w.clock }

/-- Moves the clock; sweeps of the limiter that fall due are run. -/
def advance (w : World) (d : Span) : World :=
  let clock := w.clock + d
  { w with clock, limiter := w.limiter.map fun l => l.sweep clock }

/-- Whether the caller is still waiting. -/
def patience (w : World) : Except Fault Unit :=
  if w.canceled then .error .canceled
  else
    match w.deadline with
    | some t => if t ≤ w.clock then .error .deadlineExceeded else .ok ()
    | none => .ok ()

/-- Waits for a span or until the caller's patience ends. -/
def wait (w : World) (d : Span) : Except Fault Unit × World :=
  match w.patience with
  | .error f => (.error f, w)
  | .ok () =>
    let d := max d 0
    match w.deadline with
    | some t => if t < w.clock + d then (.error .deadlineExceeded, w.advance (t - w.clock)) else (.ok (), w.advance d)
    | none => (.ok (), w.advance d)

/-- Sixteen bytes that differ from those handed out before. -/
def salt (n : Nat) : Text := (List.range 16).map fun i => (n / Nat.pow 256 (i % 8) + 17 * i).toUInt8

/-- Writes a piece of the body. -/
def write (w : World) (piece : Text) : Except Fault Unit × World :=
  match w.writesLeft with
  | some 0 => (.error (.reported "connection reset"), w)
  | left => (.ok (), { w with writesLeft := left.map (· - 1), pieces := piece :: w.pieces })

/-- The body written so far. -/
def body (w : World) : Text := w.pieces.reverse.flatten

/-! ## The database -/

/-- Whether a database takes a call: its handle is open and the caller is still waiting. -/
def accepts (w : World) (db : Sql.Database) : Except Fault Unit :=
  if db.closed then .error Sql.handleClosed else w.patience

/-- Answers a call to the driver; the state is the database and the log. -/
def driverAnswer (w : World) :
    (c : Sql.Call) → Sql.Database × List Log.Entry → c.Answer × (Sql.Database × List Log.Entry)
  | .query q, (db, log) => ((w.accepts db).bind fun _ => db.query q, (db, log))
  | .exec c, (db, log) =>
    match w.accepts db with
    | .error f => (.error f, (db, log))
    | .ok () =>
      let (r, db) := db.exec c
      (r.map .ok, (db, log))
  | .begin, (db, log) =>
    match w.accepts db with
    | .error f => (.error f, (db, log))
    | .ok () => (.ok (), (db.begin, log))
  | .commit, (db, log) => (.ok (), (db.commit, log))
  | .rollback, (db, log) => (.ok (), (db.rollback, log))
  | .now, s => (w.now, s)
  | .log e, (db, log) => ((), (db, e :: log))

/-- Runs a script against a database. -/
def script {α : Type} (w : World) (db : Sql.Database) (s : Sql.Script α) : Except Fault α × World :=
  let (r, db, entries) := Program.run w.driverAnswer s.run (db, w.entries)
  (r, { w with storage := .database db, entries })

/-- Sets up the tables, where users are kept in tables. -/
def migrate (w : World) : Except Fault Unit × World :=
  match w.storage with
  | .memory _ => (.ok (), w)
  | .database db => w.script db Migration.run

/-! ## Calls -/

/-- The text that an operation has been made to fail with. -/
def failure? (w : World) (p : Point) : Option Text := w.failing.lookup p

/-- Makes an operation fail with a text from now on, or work again. -/
def setFailure (w : World) (p : Point) (text : Option Text) : World :=
  let rest := w.failing.filter fun e => e.1 != p
  { w with failing := (text.map fun t => (p, t)).toList ++ rest }

/-- An operation of the store, unless it has been made to fail. -/
def onStore {α : Type} (w : World) (p : Point) (run : Storage → Except Fault α × World) :
    Except Fault α × World :=
  match w.failure? p with
  | some t => (.error (.store (.reported t)), w)
  | none => run w.storage

/-- An operation of the cache, unless it has been made to fail. -/
def onCache {α : Type} (w : World) (p : Point) (run : Caching → Except Fault α × Caching) :
    Except Fault α × World :=
  match w.failure? p with
  | some t => (.error (.reported t), w)
  | none =>
    let (r, caching) := run w.caching
    (r, { w with caching })

/-- Answers a call of the services. -/
def answer : (c : Call) → World → c.Answer × World
  | .findById id, w => w.onStore .findById fun
    | .memory m => (.ok (m.find? id), w)
    | .database db => w.script db (Sql.findById id)
  | .findByEmail email, w => w.onStore .findByEmail fun
    | .memory m => (.ok (m.findEmail? email), w)
    | .database db => w.script db (Sql.findByEmail email)
  | .save u, w => w.onStore .save fun
    | .memory m =>
      let (u, m) := m.save w.now u
      (.ok u, { w with storage := .memory m })
    | .database db => w.script db (Sql.save u)
  | .delete id, w => w.onStore .delete fun
    | .memory m =>
      let (r, m) := m.delete id
      (r, { w with storage := .memory m })
    | .database db => w.script db (Sql.delete id)
  | .findAll, w => w.onStore .findAll fun
    | .memory m => (.ok m.users, w)
    | .database db => w.script db Sql.findAll
  | .cacheGet key, w => w.onCache .cacheGet fun
    | .absent => (.ok none, .absent)
    | .inProcess c => (.ok (c.get? key), .inProcess c)
    | .onServer r s => (r.get s key w.patience, .onServer r s)
  | .cacheSet key u, w => w.onCache .cacheSet fun
    | .absent => (.ok (), .absent)
    | .inProcess c => (.ok (), .inProcess (c.set key u))
    | .onServer r s =>
      let (x, s) := r.set s key u w.patience
      (x, .onServer r s)
  | .cacheRemove key, w => w.onCache .cacheRemove fun
    | .absent => (.ok none, .absent)
    | .inProcess c =>
      let (x, c) := c.remove key
      (.ok x, .inProcess c)
    | .onServer r s =>
      let (x, s) := r.remove s key w.patience
      (x, .onServer r s)
  | .log e, w => ((), { w with entries := e :: w.entries })
  | .now, w => (w.now, w)
  | .salt, w => (salt w.salts, { w with salts := w.salts + 1 })
  | .requestId, w => (w.freshId, w)
  | .wait d, w => w.wait d
  | .pause d, w => ((), w.advance d)
  | .patience, w => (w.patience, w)
  | .mayTry client, w =>
    match w.limiter with
    | none => (true, w)
    | some l =>
      let (admitted, l) := l.allow w.clock client
      (admitted, { w with limiter := some l })
  | .write piece, w => w.write piece

/-- Runs a computation of the services. -/
def run {α : Type} (w : World) (a : Act α) : α × World := Program.run answer a w

/-- Runs a computation of the services that may fail. -/
def attempt {α : Type} (w : World) (t : Task α) : Except Fault α × World := w.run t.run

end World

end Roster
