import Roster.Http.Endpoint

/-!
# The server

Routes by method and path, and what every answer goes through: a request id, security fields, and a log
entry. Paths that are not clean are redirected; a path known under other methods is answered with them.
-/

namespace Roster.Http

/-- A segment of a route: a fixed text, or any one segment. -/
inductive Segment where
  | fixed (t : Text)
  | any
deriving Repr, DecidableEq

/-- A method, a path and where it leads. -/
structure Route where
  method : Text
  path : List Segment
  endpoint : Endpoint
deriving Repr

/-- Every route. Of two routes that match a path the more specific comes first. -/
def routes : List Route :=
  let api := Segment.fixed "api"
  let users := Segment.fixed "users"
  let auth := Segment.fixed "auth"
  [⟨"GET", [.fixed "healthz"], .health⟩,
   ⟨"POST", [api, auth, .fixed "login"], .login⟩,
   ⟨"POST", [api, auth, .fixed "logout"], .logout⟩,
   ⟨"GET", [api, auth, .fixed "me"], .me⟩,
   ⟨"GET", [api, users], .listUsers⟩,
   ⟨"GET", [api, users, .fixed "by-role"], .usersByRole⟩,
   ⟨"POST", [api, users, .fixed "batch"], .batch⟩,
   ⟨"GET", [api, users, .any], .getUser⟩,
   ⟨"PUT", [api, users, .any], .putUser⟩,
   ⟨"DELETE", [api, users, .any], .deleteUser⟩,
   ⟨"POST", [api, users, .any, .fixed "deactivate"], .deactivateUser⟩,
   ⟨"PUT", [api, users, .any, .fixed "password"], .setPassword⟩,
   ⟨"GET", [api, .fixed "roles", .any], .describeRole⟩,
   ⟨"POST", [api, .fixed "demo", .fixed "counter"], .counter⟩,
   ⟨"GET", [.fixed "/"], .rosterPage⟩,
   ⟨"GET", [.fixed "roster", .fixed "stream"], .rosterStream⟩]

/-- What the variable segment of a path holds, if the path matches; a slash at the end is no segment. -/
def matchPath : List Segment → List Text → Option Text
  | [], [] => some []
  | .fixed t :: path, s :: segments => if t == s then matchPath path segments else none
  | .any :: path, s :: segments =>
    if s == utf8 "/" then none else (matchPath path segments).map fun _ => s
  | _, _ => none

/-- Whether a route serves a method. What can be got can be asked for its head. -/
def Route.serves (r : Route) (method : Text) : Bool :=
  r.method == method || (method == utf8 "HEAD" && r.method == utf8 "GET")

/-- The route of a request and its variable segment. -/
def findRoute? (method : Text) (segments : List Text) : Option (Endpoint × Text) :=
  routes.findSome? fun r =>
    if r.serves method then (matchPath r.path segments).map fun s => (r.endpoint, s) else none

/-- The methods that a path is known under, sorted. -/
def allowedMethods (segments : List Text) : List Text :=
  let known := (routes.filter fun r => (matchPath r.path segments).isSome).map Route.method
  let all := if known.contains (utf8 "GET") then utf8 "HEAD" :: known else known
  Text.sorted all.eraseDups

/-- Answers a path that no route leads to. -/
def unrouted (segments : List Text) : Act Reply := do
  match allowedMethods segments with
  | [] => notFound
  | methods => do
    let reply ← plainError 405 (statusText 405)
    pure { reply with headers := ⟨"Allow", Text.join (utf8 ", ") methods⟩ :: reply.headers }

/-- Routes a request. -/
def dispatch (s : Site) (r : Request) (requestId : Text) : Act Reply := do
  if r.rawTarget == utf8 "*" then pure { status := 400, headers := [⟨"Connection", "close"⟩] }
  else
    let escaped := r.target.escapedPath
    let clean := if r.method == utf8 "CONNECT" then escaped else cleanPath escaped
    if clean != escaped then
      let query := if r.target.query.isEmpty then [] else Text.byte '?' :: r.target.query
      redirect r.method (encodePath clean ++ query)
    else
      let segments := pathSegments clean
      match findRoute? r.method segments with
      | some (e, segment) => e.serveGuarded s { request := r, segment, requestId }
      | none => unrouted segments

/-- The fields that every answer has. -/
def securityFields : List Field :=
  [⟨"X-Content-Type-Options", "nosniff"⟩, ⟨"X-Frame-Options", "DENY"⟩, ⟨"Referrer-Policy", "same-origin"⟩]

/-- The id of a request: the client's own if it is a unique id, else a fresh one. -/
def requestId (r : Request) : Act Text := do
  match (valueOf? r.headers "X-Request-Id").filter isUniqueId with
  | some id => pure id
  | none => Act.ask .requestId

/-- Serves a request. -/
def serve (s : Site) (r : Request) : Act Reply := do
  let id ← requestId r
  let start ← Act.ask .now
  let reply ← dispatch s r id
  let done ← Act.ask .now
  Act.log .info "request"
    [("method", .text r.method), ("path", .text r.target.path), ("status", .number reply.status),
     ("duration", .span (done.instant - start.instant)), ("request_id", .text id)]
  pure { reply with headers := ⟨"X-Request-Id", id⟩ :: securityFields ++ reply.headers }

/-- The fields of an answer by name, in order of name: the last value of each, but all cookies. -/
def Reply.fields (r : Reply) : List (Text × List Text) :=
  let names := Text.sorted (r.headers.map Field.name).eraseDups
  names.map fun name =>
    let values := (r.headers.filter fun f => f.name == name).map Field.value
    (name, if name == utf8 "Set-Cookie" then values else (values.getLast?).toList)

end Roster.Http
