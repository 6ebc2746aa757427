import Roster.Proofs.Endpoints
import Roster.Proofs.Tokens

/-!
# Only an active admin changes the roster

Every request goes through the routes, then the guard, then an endpoint. The guard asks the store anew for the user that the
token stands for, so whatever role the token carries, and whatever has happened since it was issued, the store decides.
-/

namespace Roster

open Program

namespace World

/-! ## Runs and stored records -/

/-- A program that only reads leaves the store as it was. -/
theorem run_reads {α : Type} {p : Act α} (h : Only Call.Reads p) (w : World) : (w.run p).2.storage = w.storage :=
  h.run_keeps (K := fun v => v.storage = w.storage) (fun _ v hc hv => (answer_storage hc v).trans hv) rfl

/-- A program that changes the record of one id only leaves all others as they were. -/
theorem run_writes {α : Type} {p : Act α} {id : UInt64} (h : OnlyGiven Call.Truthful (Call.WritesOnly id) p) (w : World) :
    w.storage.SameExcept id (w.run p).2.storage := by
  refine h.run_keeps (K := fun v => w.storage.SameExcept id v.storage) answer_truthful ?_ (.refl id _)
  intro c v hc hv
  cases hw : c.writes? with
  | none => exact (answer_storage hw v).symm ▸ hv
  | some i => exact hv.trans (hc i hw ▸ answer_sameExcept hw v)

/-! ## Who is asking -/

/-- What the store has under an id. -/
def stored (w : World) (id : UInt64) : Except Fault (Option User) := (answer (.findById id) w).1

/-- A token is valid exactly if it stands for somebody now. -/
theorem attempt_validate (s : SignIn) (token : Text) (w : World) :
    (w.attempt (s.validate token)).1 = match s.identity? w.now token with
      | none => .error .unauthorized
      | some i => .ok i := by
  have hnow : answer .now w = (w.now, w) := rfl
  rw [attempt, run, SignIn.run_validate, run_call, hnow]
  cases s.identity? w.now token <;> rfl

/-- The user a token stands for is the one that the store has now, if that is active. -/
theorem attempt_authenticate (s : SignIn) (token : Text) (w : World) :
    (w.attempt (s.authenticate token)).1 = match (w.attempt (s.validate token)).1 with
      | .error _ => .error .unauthorized
      | .ok i => match w.stored i.id with
        | .error f => .error (.during "find user" f)
        | .ok none => .error .unauthorized
        | .ok (some u) => if u.active then .ok u else .error .unauthorized := by
  have hnow : answer .now w = (w.now, w) := rfl
  rw [attempt_validate, attempt, run, SignIn.run_authenticate, run_call, hnow]
  cases s.identity? w.now token with
  | none => rfl
  | some i =>
    dsimp only [stored]
    rw [run_call]
    generalize answer (.findById i.id) w = r
    obtain ⟨_ | _ | u, v⟩ := r
    · rfl
    · rfl
    · dsimp only
      split <;> rfl

/-- Over a store in memory that works, an active user is recognized, and nothing happens to the world. -/
theorem attempt_authenticate_memory {s : SignIn} {token : Text} {w : World} {m : Store.Memory} {i : SignIn.Identity} {u : User}
    (hs : w.storage = .memory m) (hf : w.failing = []) (hi : s.identity? w.now token = some i) (hu : m.find? i.id = some u)
    (hactive : u.active = true) : w.attempt (s.authenticate token) = (.ok u, w) := by
  have hnow : answer .now w = (w.now, w) := rfl
  have hfind := answer_findById hs (by rw [failure?, hf]; rfl) i.id
  rw [attempt, run, SignIn.run_authenticate, run_call, hnow, hi]
  dsimp only
  rw [run_call, hfind, hu]
  dsimp only
  rw [if_pos hactive]
  rfl

/-- Who is authenticated is the user that the store holds for the token now, and is active. -/
theorem of_authenticate {s : SignIn} {token : Text} {w : World} {u : User} (h : (w.attempt (s.authenticate token)).1 = .ok u) :
    ∃ i, (w.attempt (s.validate token)).1 = .ok i ∧ w.stored i.id = .ok (some u) ∧ u.active = true := by
  rw [attempt_authenticate] at h
  cases hv : (w.attempt (s.validate token)).1 with
  | error f =>
    rw [hv] at h
    cases h
  | ok i =>
    rw [hv] at h
    dsimp only at h
    split at h
    · cases h
    · cases h
    · rename_i v hs
      split at h
      · rename_i hactive
        obtain rfl := Except.ok.inj h
        exact ⟨i, rfl, hs, hactive⟩
      · cases h

end World

namespace Http

/-! ## Routes -/

/-- An empty pattern takes the empty path only. -/
theorem matchPath_nil {segments : List Text} {s : Text} : matchPath [] segments = some s ↔ segments = [] ∧ s = [] := by
  cases segments <;> simp [matchPath, eq_comm]

/-- A fixed segment takes itself only. -/
theorem matchPath_fixed {t : Text} {path : List Segment} {segments : List Text} {s : Text} :
    matchPath (.fixed t :: path) segments = some s ↔ ∃ rest, segments = t :: rest ∧ matchPath path rest = some s := by
  cases segments with
  | nil => simp [matchPath]
  | cons x rest =>
    by_cases h : t = x
    · simp [matchPath, h]
    · simp [matchPath, h, Ne.symm h]

/-- A segment that is open takes any text but a slash. -/
theorem matchPath_any {path : List Segment} {segments : List Text} {s : Text} :
    matchPath (.any :: path) segments = some s ↔
      s ≠ utf8 "/" ∧ ∃ rest x, segments = s :: rest ∧ matchPath path rest = some x := by
  cases segments with
  | nil => simp [matchPath]
  | cons y rest =>
    simp only [matchPath, beq_iff_eq]
    split
    · rename_i h
      constructor
      · exact nofun
      · rintro ⟨hs, rest', x, hseg, -⟩
        exact absurd ((List.cons.inj hseg).1.symm.trans h) hs
    · rename_i h
      constructor
      · intro hm
        obtain ⟨x, hx, rfl⟩ := Option.map_eq_some_iff.mp hm
        exact ⟨h, rest, x, rfl, hx⟩
      · rintro ⟨-, rest', x, hseg, hx⟩
        obtain ⟨rfl, rfl⟩ := List.cons.inj hseg
        rw [hx]
        rfl

/-- A route serves its own method, except that one for GET serves more. -/
theorem method_of_serves {route : Route} {method : Text} (h : route.serves method = true) (hget : route.method ≠ utf8 "GET") :
    route.method = method := by
  simpa [Route.serves, hget] using h

/-- Method and path of the requests that ask for a change of the user that a path segment names. -/
def Endpoint.change? (segment : Text) : Endpoint → Option (Text × List Text)
  | putUser => some ("PUT", ["api", "users", segment])
  | deleteUser => some ("DELETE", ["api", "users", segment])
  | deactivateUser => some ("POST", ["api", "users", segment, "deactivate"])
  | setPassword => some ("PUT", ["api", "users", segment, "password"])
  | _ => none

/-- The routes to the endpoints for admins are the four for changes of a user. -/
theorem findRoute?_admins {method : Text} {segments : List Text} {e : Endpoint} {segment : Text} (he : e.audience = .admins) :
    findRoute? method segments = some (e, segment) ↔
      segment ≠ utf8 "/" ∧ e.change? segment = some (method, segments) := by
  constructor
  · intro h
    obtain ⟨route, hm, h⟩ := List.exists_of_findSome?_eq_some h
    split at h
    · rename_i hserves
      obtain ⟨s, hp, hs⟩ := Option.map_eq_some_iff.mp h
      obtain ⟨rfl, rfl⟩ := Prod.mk.inj hs
      simp only [routes, List.mem_cons, List.not_mem_nil, or_false] at hm
      rcases hm with rfl | rfl | rfl | rfl | rfl | rfl | rfl | rfl | rfl | rfl | rfl | rfl | rfl | rfl | rfl | rfl
      all_goals try cases he
      all_goals
        obtain rfl := method_of_serves hserves (by decide)
        simp only [matchPath_fixed, matchPath_any, matchPath_nil] at hp
      · obtain ⟨_, rfl, _, rfl, hs, _, _, rfl, rfl, _⟩ := hp
        exact ⟨hs, rfl⟩
      · obtain ⟨_, rfl, _, rfl, hs, _, _, rfl, rfl, _⟩ := hp
        exact ⟨hs, rfl⟩
      · obtain ⟨_, rfl, _, rfl, hs, _, _, rfl, _, rfl, rfl, _⟩ := hp
        exact ⟨hs, rfl⟩
      · obtain ⟨_, rfl, _, rfl, hs, _, _, rfl, _, rfl, rfl, _⟩ := hp
        exact ⟨hs, rfl⟩
    · cases h
  · rintro ⟨hs, hc⟩
    have hs' : (segment == utf8 "/") = false := by simpa using hs
    cases e with
    | putUser | deleteUser | deactivateUser | setPassword =>
      obtain ⟨rfl, rfl⟩ := Prod.mk.inj (Option.some.inj hc)
      simp +decide [findRoute?, routes, List.findSome?, Route.serves, matchPath, hs']
    | _ => cases he

/-- The path of a request in the form in which it is routed. -/
def Request.cleaned (r : Request) : Text :=
  if r.method == utf8 "CONNECT" then r.target.escapedPath else cleanPath r.target.escapedPath

/-- The endpoint that a request is routed to, and the variable segment of its path. -/
def Request.route? (r : Request) : Option (Endpoint × Text) :=
  if r.rawTarget == utf8 "*" then none
  else if r.cleaned != r.target.escapedPath then none
  else findRoute? r.method (pathSegments r.cleaned)

/-- A request for a clean path is routed by its method and that path. -/
theorem Request.route?_of_clean {r : Request} (htarget : r.rawTarget ≠ utf8 "*")
    (hclean : cleanPath r.target.escapedPath = r.target.escapedPath) (hmethod : (r.method == utf8 "CONNECT") = false) :
    r.route? = findRoute? r.method (pathSegments r.target.escapedPath) := by
  have hcleaned : r.cleaned = r.target.escapedPath := by
    rw [cleaned, hmethod, if_neg Bool.false_ne_true, hclean]
  rw [route?, if_neg (by simpa using htarget), hcleaned, if_neg (by simp)]

/-- A request for a change of the user that a path segment names. -/
structure Request.AsksFor (r : Request) (e : Endpoint) (segment : Text) : Prop where
  target : r.rawTarget ≠ utf8 "*"
  clean : cleanPath r.target.escapedPath = r.target.escapedPath
  named : segment ≠ utf8 "/"
  form : e.change? segment = some (r.method, pathSegments r.target.escapedPath)

/-- The endpoints that change a user are for admins. -/
theorem Endpoint.audience_of_change {e : Endpoint} {segment : Text} {form : Text × List Text}
    (h : e.change? segment = some form) : e.audience = .admins := by
  cases e <;> first | rfl | cases h

/-- The endpoints that change a user have methods with ordinary paths. -/
theorem Endpoint.method_of_change {e : Endpoint} {segment method : Text} {segments : List Text}
    (h : e.change? segment = some (method, segments)) : (method == utf8 "CONNECT") = false := by
  rw [beq_eq_false_iff_ne]
  rintro rfl
  cases e <;> cases h

/-- The requests that reach an endpoint for admins are those for a change of a user. -/
theorem Request.asksFor_iff {r : Request} {e : Endpoint} {segment : Text} :
    r.AsksFor e segment ↔ r.route? = some (e, segment) ∧ e.audience = .admins := by
  constructor
  · rintro ⟨target, clean, named, form⟩
    have he := Endpoint.audience_of_change form
    rw [route?_of_clean target clean (Endpoint.method_of_change form)]
    exact ⟨(findRoute?_admins he).mpr ⟨named, form⟩, he⟩
  · rintro ⟨h, he⟩
    unfold route? at h
    split at h
    · cases h
    · rename_i ht
      split at h
      · cases h
      · rename_i hc
        obtain ⟨named, form⟩ := (findRoute?_admins he).mp h
        have hc : r.cleaned = r.target.escapedPath := by simpa using hc
        refine ⟨by simpa using ht, ?_, named, hc ▸ form⟩
        simpa [cleaned, Endpoint.method_of_change form] using hc

/-! ## Serving -/

/-- A request that is routed is served by its endpoint behind the guard. -/
theorem dispatch_of_route {r : Request} {e : Endpoint} {segment : Text} (h : r.route? = some (e, segment)) (s : Site)
    (requestId : Text) : dispatch s r requestId = e.serveGuarded s { request := r, segment, requestId } := by
  unfold Request.route? at h
  split at h
  · cases h
  · rename_i ht
    split at h
    · cases h
    · rename_i hc
      unfold Request.cleaned at h hc
      simp only [dispatch]
      rw [if_neg ht, if_neg hc, h]

/-- A request that no route leads to is refused, or its client is sent to the clean form of its path. -/
theorem dispatch_of_no_route {r : Request} (h : r.route? = none) (s : Site) (requestId : Text) :
    dispatch s r requestId = .done { status := 400, headers := [⟨"Connection", "close"⟩] } ∨
      (∃ location, dispatch s r requestId = redirect r.method location) ∨
      ∃ segments, dispatch s r requestId = unrouted segments := by
  unfold Request.route? at h
  split at h
  · rename_i ht
    rw [dispatch, if_pos ht]
    exact .inl rfl
  · rename_i ht
    split at h
    · rename_i hc
      unfold Request.cleaned at hc
      simp only [dispatch]
      rw [if_neg ht, if_pos hc]
      exact .inr (.inl ⟨_, rfl⟩)
    · rename_i hc
      unfold Request.cleaned at h hc
      simp only [dispatch]
      rw [if_neg ht, if_neg hc, h]
      exact .inr (.inr ⟨_, rfl⟩)

/-- A request that no route leads to is answered without the store and the cache. -/
theorem dispatch_plain {r : Request} (h : r.route? = none) (s : Site) (requestId : Text) :
    Only Call.Plain (dispatch s r requestId) := by
  obtain h | ⟨location, h⟩ | ⟨segments, h⟩ := dispatch_of_no_route h s requestId
  · rw [h]
    trivial
  · rw [h]
    exact redirect_plain _ _
  · rw [h]
    exact unrouted_plain _

/-- Finding the id of a request makes plain calls only. -/
theorem requestId_plain (r : Request) : Only Call.Plain (requestId r) := by
  unfold requestId
  split
  · trivial
  · exact ⟨⟨rfl, rfl⟩, fun _ => trivial⟩

/-- Finding the id of a request leaves the world as it was. -/
theorem run_requestId (r : Request) (w : World) : ∃ id, w.run (requestId r) = (id, w) := by
  unfold requestId
  split
  · exact ⟨_, rfl⟩
  · exact ⟨_, rfl⟩

/-- What surrounds the routes decides neither the status of an answer nor what is stored. -/
theorem run_serve_of_id {r : Request} {w : World} {id : Text} (hid : w.run (requestId r) = (id, w)) (s : Site) :
    (w.run (serve s r)).1.status = (w.run (dispatch s r id)).1.status ∧
      (w.run (serve s r)).2.storage = (w.run (dispatch s r id)).2.storage := by
  unfold World.run at hid ⊢
  rw [serve, Program.bind_eq, run_bind, hid]
  simp only [Act.ask, Program.ask, Program.bind_eq, call_bind, done_bind, run_call, run_bind]
  exact ⟨rfl, rfl⟩

/-- Status and store after a request are those after it has been dispatched: the rest is header fields and the log. -/
theorem run_serve (s : Site) (r : Request) (w : World) :
    ∃ id, (w.run (serve s r)).1.status = (w.run (dispatch s r id)).1.status ∧
      (w.run (serve s r)).2.storage = (w.run (dispatch s r id)).2.storage := by
  obtain ⟨id, hid⟩ := run_requestId r w
  exact ⟨id, run_serve_of_id hid s⟩

/-- An endpoint that is not for admins only reads, behind its guard as well. -/
theorem serveGuarded_reads (s : Site) (v : Visit) {e : Endpoint} (he : e.audience ≠ .admins) :
    Only Call.Reads (e.serveGuarded s v) := by
  unfold Endpoint.serveGuarded
  split
  · exact serve_reads s v he
  · exact orFault_reads v _ (reads_of_quiet (s.signIn.authenticate_quiet _)) fun u => serve_reads s _ he
  · exact absurd ‹_› he

/-- What the guard of an endpoint for admins does about the one who asks. -/
def Endpoint.receive (s : Site) (v : Visit) (e : Endpoint) : Except Fault User → Act Reply
  | .error f => faultReply v.requestId "authenticate request" f
  | .ok u => if u.isAdmin then e.serve s { v with user := some u } else faultReply v.requestId "require admin" .forbidden

/-- An endpoint for admins is served after the caller has been authenticated. -/
theorem run_serveGuarded (s : Site) (v : Visit) {e : Endpoint} (he : e.audience = .admins) (w : World) :
    w.run (e.serveGuarded s v) =
      (w.attempt (s.signIn.authenticate (requestToken v.request))).2.run
        (e.receive s v (w.attempt (s.signIn.authenticate (requestToken v.request))).1) := by
  unfold Endpoint.serveGuarded
  rw [he]
  dsimp only
  unfold orFault
  rw [Program.bind_eq, World.run, run_bind, World.run, World.attempt, World.run]
  congr 1
  cases (Program.run World.answer (s.signIn.authenticate (requestToken v.request)).run w).1 <;> rfl

/-- An answer in JSON has the status it was given. -/
theorem json_ends (status : Nat) (v : Json) : Ends (fun reply => reply.status = status) (json status v) := by
  intro r
  cases r with
  | ok _ => exact rfl
  | error f => exact fun _ => rfl

/-- Somebody who is not known is answered with 401. -/
theorem status_unauthorized (requestId activity : Text) (w : World) :
    (w.run (faultReply requestId activity .unauthorized)).1.status = 401 :=
  (json_ends 401 _).of_run World.answer w

/-- Somebody who may not do this is answered with 403. -/
theorem status_forbidden (requestId activity : Text) (w : World) :
    (w.run (faultReply requestId activity .forbidden)).1.status = 403 :=
  (json_ends 403 _).of_run World.answer w

/-- A request for a change of a user is decided by the guard. -/
theorem run_serve_of_asksFor {r : Request} {e : Endpoint} {segment : Text} (h : r.AsksFor e segment) (s : Site) (w : World) :
    ∃ v : Visit, v.segment = segment ∧
      (let a := w.attempt (s.signIn.authenticate (requestToken r))
       (w.run (serve s r)).1.status = (a.2.run (e.receive s v a.1)).1.status ∧
         (w.run (serve s r)).2.storage = (a.2.run (e.receive s v a.1)).2.storage) := by
  obtain ⟨hr, he⟩ := Request.asksFor_iff.mp h
  obtain ⟨id, hstatus, hstorage⟩ := run_serve s r w
  rw [dispatch_of_route hr, run_serveGuarded s _ he] at hstatus hstorage
  exact ⟨{ request := r, segment, requestId := id }, rfl, hstatus, hstorage⟩

/-- What the guard lets through changes at most the record that the path names, and only for an admin. -/
theorem admin_of_change {s : Site} {v : Visit} {e : Endpoint} {a : Except Fault User} {w : World}
    (h : (w.run (e.receive s v a)).2.storage ≠ w.storage) :
    ∃ u id, a = .ok u ∧ u.role = Role.admin.name ∧ pathId v.segment = .ok id ∧
      w.storage.SameExcept id (w.run (e.receive s v a)).2.storage := by
  cases a with
  | error f => exact absurd (World.run_reads (faultReply_reads _ _ f) w) h
  | ok u =>
    unfold Endpoint.receive at h ⊢
    dsimp only at h ⊢
    split at h
    · rename_i hadmin
      cases hid : pathId v.segment with
      | error f => exact absurd (World.run_reads (serve_reads_of_fault s { v with user := some u } e hid) w) h
      | ok id =>
        refine ⟨u, id, rfl, by simpa [User.isAdmin] using hadmin, rfl, ?_⟩
        rw [if_pos hadmin]
        exact World.run_writes (serve_writes s { v with user := some u } e hid) w
    · exact absurd (World.run_reads (faultReply_reads _ _ _) w) h

/-- A request that reaches no endpoint for admins changes nothing that is stored. -/
theorem asksFor_of_change {s : Site} {r : Request} {w : World} (h : (w.run (serve s r)).2.storage ≠ w.storage) :
    ∃ e segment, r.AsksFor e segment := by
  obtain ⟨id, -, hstorage⟩ := run_serve s r w
  cases hr : r.route? with
  | none =>
    rw [hstorage] at h
    exact absurd (World.run_reads (reads_of_plain (dispatch_plain hr s id)) w) h
  | some route =>
    obtain ⟨e, segment⟩ := route
    refine ⟨e, segment, Request.asksFor_iff.mpr ⟨hr, ?_⟩⟩
    by_contra he
    rw [hstorage, dispatch_of_route hr] at h
    exact h (World.run_reads (serveGuarded_reads s _ he) w)

/-- Only an active admin changes the roster. If what is stored differs after a request, the request was one of the four for a
change of a user, its token was accepted, the store had the user of the token as an active admin, whatever role the token
carries, and no record changed but the one that the path names. Where the store answers, such a request is refused with 403
to an active user who is no admin, and with 401 if the token is rejected or its user is absent or inactive. -/
theorem roster_changed_by_admins_only (s : Site) (r : Request) (w : World) :
    ((w.run (serve s r)).2.storage ≠ w.storage →
      ∃ e segment id i u, r.AsksFor e segment ∧ pathId segment = .ok id ∧
        (w.attempt (s.signIn.validate (requestToken r))).1 = .ok i ∧ w.stored i.id = .ok (some u) ∧
        u.active = true ∧ u.role = Role.admin.name ∧ w.storage.SameExcept id (w.run (serve s r)).2.storage) ∧
    ∀ e segment, r.AsksFor e segment →
      ((∀ i, (w.attempt (s.signIn.validate (requestToken r))).1 ≠ .ok i) → (w.run (serve s r)).1.status = 401) ∧
      ∀ i o, (w.attempt (s.signIn.validate (requestToken r))).1 = .ok i → w.stored i.id = .ok o →
        ((∀ u, o = some u → u.active = false) → (w.run (serve s r)).1.status = 401) ∧
        ∀ u, o = some u → u.active = true → u.role ≠ Role.admin.name → (w.run (serve s r)).1.status = 403 := by
  constructor
  · intro hne
    obtain ⟨e, segment, hasks⟩ := asksFor_of_change hne
    obtain ⟨v, rfl, -, hstorage⟩ := run_serve_of_asksFor hasks s w
    have hauth : (w.attempt (s.signIn.authenticate (requestToken r))).2.storage = w.storage :=
      World.run_reads (reads_of_quiet (s.signIn.authenticate_quiet _)) w
    rw [hstorage, ← hauth] at hne
    obtain ⟨u, id, ha, hrole, hid, hsame⟩ := admin_of_change hne
    obtain ⟨i, hv, hu, hactive⟩ := World.of_authenticate ha
    refine ⟨e, v.segment, id, i, u, hasks, hid, hv, hu, hactive, hrole, ?_⟩
    rw [hstorage, ← hauth]
    exact hsame
  · intro e segment hasks
    obtain ⟨v, -, hstatus, -⟩ := run_serve_of_asksFor hasks s w
    rw [hstatus, World.attempt_authenticate]
    constructor
    · intro hrejected
      cases hv : (w.attempt (s.signIn.validate (requestToken r))).1 with
      | error f => exact status_unauthorized _ _ _
      | ok i => exact absurd hv (hrejected i)
    · intro i o hv ho
      rw [hv]
      dsimp only
      rw [ho]
      constructor
      · intro hinactive
        cases o with
        | none => exact status_unauthorized _ _ _
        | some u =>
          simp only [hinactive u rfl, Bool.false_eq_true, if_false]
          exact status_unauthorized _ _ _
      · rintro u rfl hactive hrole
        have hadmin : u.isAdmin = false := by simpa [User.isAdmin] using hrole
        simp only [hactive, if_true, Endpoint.receive, hadmin, Bool.false_eq_true, if_false]
        exact status_forbidden _ _ _

/-- Over a store in memory that works, an active admin's request to remove a user is carried out. -/
theorem storage_of_delete {s : Site} {r : Request} {segment : Text} {id : UInt64} {w : World} {m : Store.Memory}
    {i : SignIn.Identity} {u : User} (hasks : r.AsksFor .deleteUser segment) (hid : pathId segment = .ok id)
    (hs : w.storage = .memory m) (hf : w.failing = []) (hi : s.signIn.identity? w.now (requestToken r) = some i)
    (hu : m.find? i.id = some u) (hactive : u.active = true) (hrole : u.role = Role.admin.name) :
    (w.run (serve s r)).2.storage = .memory (m.delete id).2 := by
  obtain ⟨v, rfl, -, hstorage⟩ := run_serve_of_asksFor hasks s w
  have hadmin : u.isAdmin = true := by simpa [User.isAdmin] using hrole
  have hdelete := World.answer_delete hs (by rw [World.failure?, hf]; rfl) id
  rw [hstorage, World.attempt_authenticate_memory hs hf hi hu hactive]
  simp only [Endpoint.receive, hadmin, if_true, Endpoint.serve, deleteUser]
  rw [withId_eq (v := { v with user := some u }) hid, orFault, Program.bind_eq, Users.run_delete, call_bind, World.run, run_call,
    hdelete]
  -- Once the user is removed only the cache, the log and the answer are left.
  refine World.run_reads ?_ { w with storage := .memory (m.delete id).2 }
  refine Only.bind ?_ fun r => ?_
  · cases (m.delete id).1 with
    | error f => trivial
    | ok _ => exact ((Users.forget_idle s.cached id).mono fun _ hc => Call.Idle.reads hc).bind fun _ => trivial
  · cases r with
    | error f => exact faultReply_reads _ _ f
    | ok _ => trivial

/-- A token in the header field is the token of the request. -/
theorem requestToken_bearer {r : Request} {token : Text} (h : r.headers = [⟨"Authorization", utf8 "Bearer " ++ token⟩]) :
    requestToken r = token := by
  have hname : (canonicalName (utf8 "Authorization") == utf8 "Authorization") = true := by decide +kernel
  have hstrip : Text.strip? (utf8 "Bearer ") (utf8 "Bearer " ++ token) = some token := rfl
  simp [requestToken, h, valueOf?, valuesOf, hname, hstrip]

/-- A stored admin removes a user with a token that was made out to a viewer, and the same request without a token is
refused. -/
theorem admin_removes_user :
    let s : Site :=
      { signIn := { secret := "key", passwords := Password.salted 4, cached := false }, cached := false, cookieSecure := false,
        counterDelay := 0 }
    let boss : User := { id := 1, name := "Bo", email := "bo@example.com", role := "admin" }
    let ann : User := { id := 2, name := "Ann", email := "ann@example.com", role := "viewer" }
    let w : World := { clock := 0, storage := .memory { users := [boss, ann] } }
    let r : Request :=
      { method := "DELETE", rawTarget := "/api/users/2"
        target := { path := "/api/users/2", escapedPath := "/api/users/2", query := [] }
        headers := [⟨"Authorization", utf8 "Bearer " ++
          Token.sign s.signIn.secret "\x7b\"alg\":\"HS256\"\x7d" "\x7b\"role\":\"viewer\",\"sub\":\"1\"\x7d"⟩] }
    (w.run (serve s r)).2.storage ≠ w.storage ∧
      (∃ segment id, pathId segment = .ok id ∧ w.storage.SameExcept id (w.run (serve s r)).2.storage) ∧
      (w.run (serve s { r with headers := [] })).1.status = 401 := by
  intro s boss ann w r
  have hasks : ∀ headers, Request.AsksFor { r with headers } .deleteUser "2" := by
    have hclean : cleanPath (utf8 "/api/users/2") = utf8 "/api/users/2" := by decide +kernel
    have hform : Endpoint.change? "2" .deleteUser = some (utf8 "DELETE", pathSegments (utf8 "/api/users/2")) := by
      decide +kernel
    exact fun _ => ⟨show utf8 "/api/users/2" ≠ utf8 "*" by decide, hclean, by decide, hform⟩
  have hidentity : s.signIn.identity? w.now (requestToken r) = some ⟨1, .viewer⟩ := by
    have hheader : Token.algorithm? "\x7b\"alg\":\"HS256\"\x7d" = some Token.algorithm := by decide +kernel
    have hclaims : Token.claims? "\x7b\"role\":\"viewer\",\"sub\":\"1\"\x7d" = some { role := "viewer", subject := "1" } := by
      decide +kernel
    rw [requestToken_bearer rfl]
    exact SignIn.identity?_sign hheader hclaims rfl rfl rfl
  have hid : pathId (utf8 "2") = .ok 2 := by decide +kernel
  have hne : (w.run (serve s r)).2.storage ≠ w.storage := by
    rw [storage_of_delete (hasks r.headers) hid rfl rfl hidentity rfl rfl rfl]
    exact nofun
  have hrejected : ∀ i, (w.attempt (s.signIn.validate (requestToken { r with headers := [] }))).1 ≠ .ok i := by
    have hnone : s.signIn.identity? w.now (requestToken { r with headers := [] }) = none := by rfl
    intro i
    rw [World.attempt_validate, hnone]
    exact nofun
  clear_value s w r
  obtain ⟨e, segment, id, i, u, h⟩ := (roster_changed_by_admins_only s r w).1 hne
  refine ⟨hne, ⟨segment, id, h.2.1, h.2.2.2.2.2.2⟩, ?_⟩
  exact ((roster_changed_by_admins_only s { r with headers := [] } w).2 _ _ (hasks [])).1 hrejected

end Http
end Roster
