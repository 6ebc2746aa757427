import Roster.Http.Reply
import Roster.Http.Body
import Roster.SignIn
import Roster.Batch
import Roster.Counter
import Roster.Page
import Roster.Net.HostPort
import Roster.Text.Numeral

/-!
# Endpoints

What each address of the server does. An endpoint may be open to everybody, to users who are signed in,
or to admins only; who is asking is decided anew for every request, from the store.
-/

namespace Roster.Http

/-- What the endpoints depend on. -/
structure Site where
  signIn : SignIn
  /-- Whether look-ups of single users go through the cache. -/
  cached : Bool
  fetcher : Batch.Fetcher := .stored
  cookieSecure : Bool
  counterDelay : Span

/-- The addresses of the server. -/
inductive Endpoint where
  | health
  | login
  | logout
  | me
  | listUsers
  | usersByRole
  | batch
  | getUser
  | putUser
  | deleteUser
  | deactivateUser
  | setPassword
  | describeRole
  | counter
  | rosterPage
  | rosterStream
deriving DecidableEq, Repr

/-- Who may use an endpoint. -/
inductive Audience where
  | everybody
  | signedIn
  | admins
deriving DecidableEq, Repr

/-- Who may use which endpoint. -/
def Endpoint.audience : Endpoint → Audience
  | health | login | logout | describeRole => .everybody
  | me | listUsers | usersByRole | batch | getUser | counter | rosterPage | rosterStream => .signedIn
  | putUser | deleteUser | deactivateUser | setPassword => .admins

/-- A request that has been routed: the decoded variable segment of its path, its id, and the user it
comes from. -/
structure Visit where
  request : Request
  segment : Text := []
  requestId : Text := []
  user : Option User := none

/-- A user as shown to clients; the password hash never is. -/
def shownUser (u : User) : Json :=
  let moment := fun (name : Text) (t : Timestamp) => if t.isZero then [] else [(name, Json.string t.render)]
  let details : List (Text × Json) :=
    [("id", .nat u.id.toNat), ("name", .string u.name), ("email", .string u.email),
     ("role", .string u.role), ("active", .bool u.active)]
  .object (details ++ moment "createdAt" u.createdAt ++ moment "updatedAt" u.updatedAt)

/-- Users as shown to clients. -/
def shownUsers (users : List User) : Json := .array (users.map shownUser)

/-- Groups as shown to clients, by role text. -/
def shownGroups (g : Groups) : Json :=
  .object (g.sorted.map fun (role, users) => (role, shownUsers users))

/-- An object with one member. -/
def single (key : Text) (v : Json) : Json := .object [(key, v)]

/-- The id that a path segment names. -/
def pathId (t : Text) : Except Fault UInt64 :=
  match Text.toNat? t with
  | some n => if 1 ≤ n && n ≤ User.maxId.toNat then .ok n.toUInt64 else .error .idOutOfRange
  | none => .error .idOutOfRange

/-- Goes on with the value of a task, or answers with its fault. -/
def orFault {α : Type} (v : Visit) (activity : Text) (t : Task α) (next : α → Act Reply) : Act Reply := do
  match ← t.run with
  | .ok a => next a
  | .error f => faultReply v.requestId activity f

/-- Goes on with the id in the path. -/
def withId (v : Visit) (next : UInt64 → Act Reply) : Act Reply :=
  orFault v "parse id" (Task.ofExcept (pathId v.segment)) next

/-- Goes on with the body of the request. -/
def withBody {σ : Type} (v : Visit) (activity : Text) (b : Body σ) (next : σ → Act Reply) : Act Reply :=
  orFault v activity (Task.ofExcept (b.read v.request.body)) next

/-- The name of the cookie that holds a token. -/
def tokenCookie : Text := "auth_token"

/-- The token a request carries: from the authorization field, or else from the cookie. -/
def requestToken (r : Request) : Text :=
  match (valueOf? r.headers "Authorization").bind (Text.strip? (utf8 "Bearer ")) with
  | some token => token
  | none => (cookie? r.headers tokenCookie).getD []

/-- The field that sets the token's cookie for a number of seconds. -/
def tokenField (secure : Bool) (token : Text) (age : Nat) : Field :=
  ⟨"Set-Cookie", tokenCookie ++ utf8 "=" ++ token ++ utf8 "; Path=/; Max-Age=" ++ Text.decimal age
    ++ utf8 "; HttpOnly" ++ (if secure then utf8 "; Secure" else []) ++ utf8 "; SameSite=Lax"⟩

/-- The host of a client's address; an address of another form is taken whole. -/
def clientHost (remote : Text) : Text := ((Net.splitHostPort? remote).map Prod.fst).getD remote

/-! ## Signing in and out -/

/-- Signs a user in: answers with a token and sets it as a cookie. -/
def login (s : Site) (v : Visit) : Act Reply := do
  if ← Act.ask (.mayTry (clientHost v.request.remote)) then
    withBody v "decode login" Credentials.body fun c =>
      orFault v "login user" (s.signIn.login c.email c.password) fun token =>
        orFault v "load user after login" (s.signIn.authenticate token) fun u => do
          let reply ← json 200 (.object [("token", .string token), ("user", shownUser u)])
          pure { reply with headers := tokenField s.cookieSecure token 86400 :: reply.headers }
  else jsonError 429 "Too many login attempts. Please wait and try again."

/-- Clears the token's cookie. -/
def logout (s : Site) : Act Reply :=
  pure { status := 204, headers := [tokenField s.cookieSecure [] 0] }

/-- The user who is asking. -/
def me (v : Visit) : Act Reply := json 200 (single "user" (shownUser (v.user.getD User.blank)))

/-! ## Users -/

def listUsers (v : Visit) : Act Reply :=
  orFault v "list users" Users.list fun users => json 200 (single "users" (shownUsers users))

def getUser (s : Site) (v : Visit) : Act Reply :=
  withId v fun id =>
    orFault v "get user" (Users.get s.cached id) fun u => json 200 (single "user" (shownUser u))

def putUser (s : Site) (v : Visit) : Act Reply :=
  withId v fun id =>
    withBody v "decode user" SaveUser.body fun b =>
      orFault v "parse role" (Task.ofExcept (Role.parse b.role)) fun role =>
        let u : User :=
          { id, name := b.name, email := b.email, role := role.name, active := b.active != some false }
        orFault v "save user" (Users.save s.cached u) fun u => json 200 (single "user" (shownUser u))

def deleteUser (s : Site) (v : Visit) : Act Reply :=
  withId v fun id => orFault v "delete user" (Users.delete s.cached id) fun _ => pure { status := 204 }

def deactivateUser (s : Site) (v : Visit) : Act Reply :=
  withId v fun id =>
    orFault v "deactivate user" (Users.deactivate s.cached id) fun u => json 200 (single "user" (shownUser u))

def setPassword (s : Site) (v : Visit) : Act Reply :=
  withId v fun id =>
    withBody v "decode password" NewPassword.body fun b =>
      orFault v "set password" (s.signIn.setPassword id b.password) fun _ => pure { status := 204 }

/-- Users by role, with `active` in the query only the active ones. -/
def usersByRole (v : Visit) : Act Reply :=
  let asked := v.request.target.param "active"
  match if asked.isEmpty then some false else Numeral.truth? asked with
  | none => jsonError 400 "active must be true or false"
  | some activeOnly =>
    orFault v "group users" (Users.groupByRole activeOnly) fun g => json 200 (single "groups" (shownGroups g))

def batch (s : Site) (v : Visit) : Act Reply :=
  withBody v "decode batch" BatchIds.body fun b =>
    orFault v "batch fetch" (Batch.run s.fetcher (b.ids.getD [])) fun users =>
      json 200 (single "users" (shownUsers users))

def describeRole (v : Visit) : Act Reply :=
  match Role.parse v.segment with
  | .error f => jsonError 404 f.message
  | .ok role => json 200 (.object [("description", .string role.describe), ("role", .string role.name)])

/-! ## The page and the counter -/

/-- All users by role; an empty roster has no groups. -/
def rosterGroups : Task Groups :=
  ExceptT.mk do
    match ← (Users.groupByRole false).run with
    | .ok g => pure (.ok g)
    | .error f => pure (if f.has .invalidInput then .ok [] else .error f)

/-- Writes pieces up to the first that fails. -/
def writeAll : List Text → Act (Except Fault Unit)
  | [] => pure (.ok ())
  | piece :: rest => do
    match ← write piece with
    | .ok _ => writeAll rest
    | .error f => pure (.error f)

/-- The answer when the users of the page cannot be had. -/
def rosterFailure (activity : Text) (f : Fault) : Act Reply := do
  Act.log .error activity [("error", .fault f)]
  plainError 500 (statusText 500)

def rosterPage (v : Visit) : Act Reply := do
  match ← rosterGroups.run with
  | .error f => rosterFailure "group users for roster" f
  | .ok g =>
    match ← writeAll (Page.pieces ((v.user.map User.name).getD []) g) with
    | .ok _ => pure ()
    | .error f => Act.log .error "render roster" [("error", .fault f)]
    pure { status := 200, headers := [⟨"Content-Type", "text/html; charset=utf-8"⟩] }

/-- A count asked for in the query: a default unless it is a positive number, and at most a limit. -/
def queryCount (t : Target) (key : Text) (default limit : Nat) : Nat :=
  match Numeral.integer (t.param key) with
  | .ok n => if n ≤ 0 then default else min n.toNat limit
  | .error _ => default

/-- The workers and iterations of the count that a query asks for. -/
def streamJob (t : Target) : Nat × Nat :=
  let workers := queryCount t "workers" 4 maxWorkers
  let iterations := queryCount t "iterations" 100 maxIterations
  (workers, min iterations (maxIncrements / workers))

/-- Writes an event of the stream, unless the caller has given up. -/
def event (name : Text) (lines : List Text) : Act (Except Fault Unit) := do
  match ← Act.ask .patience with
  | .error f => pure (.error f)
  | .ok _ => do
    match ← write (utf8 "event: " ++ name ++ [10] ++ (lines.flatMap fun l => utf8 "data: " ++ l ++ [10])
      ++ [10, 10]) with
    | .ok _ => pure (.ok ())
    | .error f => pure (.error (.during "failed to write to response writer" f))

/-- Sends a piece of the page. -/
def patchElements (html : Text) : Act (Except Fault Unit) := do
  let sent ← event "datastar-patch-elements" ((Text.split 10 html).map (utf8 "elements " ++ ·))
  pure (sent.mapError fun f => .during "failed to patch element" (.during "failed to send elements" f))

/-- Sends the state of the count. -/
def patchCount (count workers : Nat) : Act (Except Fault Unit) := do
  let signals := Json.object [("count", .nat count), ("workers", .nat workers)]
  let sent ← event "datastar-patch-signals" [utf8 "signals " ++ signals.render]
  pure (sent.mapError fun f => .during "failed to patch signals" (.during "failed to send patch signals" f))

/-- Notes that an update could not be sent. -/
def noteUnsent (activity : Text) : Except Fault Unit → Act Unit
  | .ok _ => pure ()
  | .error f => Act.log .debug activity [("error", .fault f)]

/-- Sends the current sections of the page and then the progress of a count. -/
def rosterStream (s : Site) (v : Visit) : Act Reply := do
  let (workers, iterations) := streamJob v.request.target
  match ← rosterGroups.run with
  | .error f => rosterFailure "group users for stream" f
  | .ok g => do
    match ← patchElements (Page.sections g) with
    | .error f => Act.log .error "patch roster" [("error", .fault f)]
    | .ok _ => do
      let count ← Counter.count workers iterations s.counterDelay fun r => do
        noteUnsent "patch counter progress" (← patchCount r.total r.finished)
      noteUnsent "patch counter result" (← patchCount count workers)
    pure { status := 200
           headers := [⟨"Cache-Control", "no-cache"⟩, ⟨"Connection", "keep-alive"⟩,
             ⟨"Content-Type", "text/event-stream"⟩] }

def counter (s : Site) (v : Visit) : Act Reply :=
  withBody v "decode counter" CountJob.body fun b => do
    if b.workers * b.iterations > maxIncrements then
      jsonError 400 (utf8 "workers*iterations must not exceed " ++ Text.decimal maxIncrements)
    else
      let start ← Act.ask .now
      let count ← Counter.count b.workers b.iterations s.counterDelay fun _ => pure ()
      let done ← Act.ask .now
      json 200 (.object [("count", .nat count),
        ("durationMs", .int ((done.instant - start.instant) / Span.millisecond))])

/-! ## All endpoints -/

/-- What an endpoint does once it is clear who is asking. -/
def Endpoint.serve (s : Site) (v : Visit) : Endpoint → Act Reply
  | health => json 200 (single "status" (.string "ok"))
  | login => Http.login s v
  | logout => Http.logout s
  | me => Http.me v
  | listUsers => Http.listUsers v
  | usersByRole => Http.usersByRole v
  | batch => Http.batch s v
  | getUser => Http.getUser s v
  | putUser => Http.putUser s v
  | deleteUser => Http.deleteUser s v
  | deactivateUser => Http.deactivateUser s v
  | setPassword => Http.setPassword s v
  | describeRole => Http.describeRole v
  | counter => Http.counter s v
  | rosterPage => Http.rosterPage v
  | rosterStream => Http.rosterStream s v

/-- Lets an endpoint answer if the one who asks may use it. -/
def Endpoint.serveGuarded (s : Site) (v : Visit) (e : Endpoint) : Act Reply :=
  match e.audience with
  | .everybody => e.serve s v
  | .signedIn =>
    orFault v "authenticate request" (s.signIn.authenticate (requestToken v.request)) fun u =>
      e.serve s { v with user := some u }
  | .admins =>
    orFault v "authenticate request" (s.signIn.authenticate (requestToken v.request)) fun u =>
      if u.isAdmin then e.serve s { v with user := some u }
      else faultReply v.requestId "require admin" .forbidden

end Roster.Http
