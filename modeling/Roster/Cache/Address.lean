import Roster.Fault
import Roster.Http.Target
import Roster.Net.HostPort
import Roster.Net.Url
import Roster.Text.Numeral
import Roster.Word

/-!
# Where the cache's server is

The options of a client, read from an address: the host or socket, the database, who signs in, and
timeouts and limits from the query. A client takes over most of these options, and fills in what was
left open.
-/

namespace Roster.Cache

/-- The options of a client. Zero and empty mean "not given". -/
structure Options where
  /-- The kind of network: `tcp`, or `unix` for a socket of the file system. -/
  network : Text := []
  addr : Text := []
  /-- Whether the connection is encrypted. -/
  secure : Bool := false
  db : Int := 0
  username : Text := []
  password : Text := []
  maxRetries : Int := 0
  dialTimeout : Span := 0
  readTimeout : Span := 0
  writeTimeout : Span := 0
  poolSize : Int := 0
  minIdle : Int := 0
deriving Repr, DecidableEq

namespace Options

/-- The parameters of a query that have not been used yet, the last value of each, and the first thing
found wrong with one. -/
structure Params where
  left : List (Text × Text)
  flaw : Option Text := none

/-- The parameters of a query. -/
def Params.ofQuery (query : Text) : Params :=
  let t : Http.Target := { path := [], escapedPath := [], query }
  { left := t.pairs.reverse }

/-- A computation that uses up parameters. -/
abbrev Reading := StateM Params

/-- Takes a parameter; empty if it is not given. -/
def take (name : Text) : Reading Text := fun p =>
  ((p.left.lookup name).getD [], { p with left := p.left.filter fun e => e.1 != name })

/-- Notes what is wrong with a parameter, unless something was wrong before. -/
def note (flaw : Text) : Reading Unit := modify fun p => { p with flaw := p.flaw.or (some flaw) }

/-- The message of a refused integer. -/
def notInteger (t : Text) (f : Numeral.Flaw) : Text := Numeral.refusal "Atoi" t f

/-- Takes an integer. -/
def takeInt (name : Text) : Reading Int := do
  let t ← take name
  if t.isEmpty then pure 0
  else
    match Numeral.integer t with
    | .ok n => pure n
    | .error f => do
      note (utf8 "redis: invalid " ++ name ++ utf8 " number: " ++ notInteger t f)
      pure 0

/-- Takes a span: a number of seconds, or a number with a unit. A number that is not positive switches
the timeout off. -/
def takeSpan (name : Text) : Reading Span := do
  let t ← take name
  if t.isEmpty then pure 0
  else
    match Numeral.integer t with
    | .ok n => pure (if n ≤ 0 then -1 else (n * Span.second).bmod Word.count)
    | .error _ =>
      match Span.parse t with
      | .ok d => pure d
      | .error e => do
        note (utf8 "redis: invalid " ++ name ++ utf8 " duration: " ++ e.message)
        pure 0

/-- Takes a truth value. -/
def takeBool (name : Text) : Reading Bool := do
  let t ← take name
  if t == utf8 "true" || t == utf8 "1" then pure true
  else if t.isEmpty || t == utf8 "false" || t == utf8 "0" then pure false
  else do
    note (utf8 "redis: invalid " ++ name
      ++ utf8 " boolean: expected true/false/1/0 or an empty string, got " ++ Text.quoted t)
    pure false

/-- Takes every parameter but the database; most have no bearing on a client. -/
def takeAll (o : Options) : Reading Options := do
  let maxRetries ← takeInt "max_retries"
  let _ ← takeSpan "min_retry_backoff"
  let _ ← takeSpan "max_retry_backoff"
  let dialTimeout ← takeSpan "dial_timeout"
  let readTimeout ← takeSpan "read_timeout"
  let writeTimeout ← takeSpan "write_timeout"
  let _ ← takeBool "pool_fifo"
  let poolSize ← takeInt "pool_size"
  let minIdle ← takeInt "min_idle_conns"
  let _ ← takeSpan "max_conn_age"
  let _ ← takeSpan "pool_timeout"
  let _ ← takeSpan "idle_timeout"
  let _ ← takeSpan "idle_check_frequency"
  pure { o with maxRetries, dialTimeout, readTimeout, writeTimeout, poolSize, minIdle }

/-- Completes options with the parameters of a query. -/
def withQuery (o : Options) (query : Text) : Except Text Options := do
  let (db, params) := (take "db").run (.ofQuery query)
  let o ←
    if db.isEmpty then pure o
    else
      match Numeral.integer db with
      | .ok n => pure { o with db := n }
      | .error f => .error (utf8 "redis: invalid database number: " ++ notInteger db f)
  let (o, params) := o.takeAll.run params
  match params.flaw, params.left with
  | some flaw, _ => .error flaw
  | none, [] => pure o
  | none, left =>
    .error (utf8 "redis: unexpected option: "
      ++ Text.join (utf8 ", ") (Text.sorted (left.map Prod.fst).eraseDups))

/-- Options with the user of an address. -/
def withUser (o : Options) (u : Net.Url) : Options :=
  match u.user with
  | some (username, password) => { o with username, password := password.getD [] }
  | none => o

/-- Options for a host. Its only path segment is the database. -/
def ofHost (u : Net.Url) (secure : Bool) : Except Text Options := do
  let (host, port) := (Net.splitHostPort? u.host).getD (u.host, [])
  let host := if host.isEmpty then utf8 "localhost" else host
  let port := if port.isEmpty then utf8 "6379" else port
  let db ←
    match (Text.split (Text.byte '/') u.path).filter fun s => !s.isEmpty with
    | [] => pure 0
    | [s] =>
      match Numeral.integer s with
      | .ok n => pure n
      | .error _ => .error (utf8 "redis: invalid database number: " ++ Text.quoted s)
    | _ => .error (utf8 "redis: invalid URL path: " ++ u.path)
  let o : Options := { network := "tcp", addr := Net.joinHostPort host port, db, secure }
  (o.withUser u).withQuery u.query

/-- Options for a socket. -/
def ofSocket (u : Net.Url) : Except Text Options :=
  if u.path.all Text.isSpace then .error "redis: empty unix socket path"
  else
    let o : Options := { network := "unix", addr := u.path }
    (o.withUser u).withQuery u.query

/-- The options that an address gives. -/
def parse (t : Text) : Except Text Options :=
  match Net.Url.parse t with
  | .error e => .error e.message
  | .ok u =>
    if u.scheme == utf8 "redis" then ofHost u false
    else if u.scheme == utf8 "rediss" then ofHost u true
    else if u.scheme == utf8 "unix" then ofSocket u
    else .error (utf8 "redis: invalid URL scheme: " ++ u.scheme)

/-- A timeout as it is used: `-1` switches it off. -/
def timeout (d default : Span) : Span := if d == -1 then 0 else if d == 0 then default else d

/-- The network that an address is on: one that starts with a slash is a socket. -/
def networkOf (addr : Text) : Text := if Text.startsWith addr "/" then "unix" else "tcp"

/-- The options with everything filled in that was left open. -/
def settled (o : Options) : Options :=
  let addr := if o.addr.isEmpty then utf8 "localhost:6379" else o.addr
  let readTimeout := timeout o.readTimeout (3 * Span.second)
  { o with
    network := if o.network.isEmpty then networkOf addr else o.network
    addr
    dialTimeout := if o.dialTimeout == 0 then 5 * Span.second else o.dialTimeout
    readTimeout
    writeTimeout := timeout o.writeTimeout readTimeout
    maxRetries := if o.maxRetries == -1 then 0 else if o.maxRetries == 0 then 3 else o.maxRetries }

/-- The options that a client takes over. The network is left open, and the connection is never
encrypted. -/
def carried (o : Options) : Options := { o with network := [], secure := false }

/-- The options of the client for an address, after adjustments. -/
def client (t : Text) (adjustments : List (Options → Options)) : Except Fault Options :=
  match parse t with
  | .error message => .error (.during "cant parse redis url" (.reported message))
  | .ok o => .ok (adjustments.foldl (fun o f => f o) o).carried.settled

end Options

end Roster.Cache
