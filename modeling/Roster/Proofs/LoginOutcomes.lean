import Roster.Proofs.Contract
import Roster.Proofs.Frames
import Roster.Proofs.FreshTokens
import Roster.Proofs.HashSecrecy
import Roster.Proofs.Statuses

/-!
# Who can sign in

With users in memory, an email and a password let exactly one user in: of those with the email, up to case, the one with the
least id, provided that it is active, has a password and the password matches. The token it gets is good at once. Everybody else
is turned away in the same words, whatever the reason, so the answer does not tell whether there is a user with the email.
-/

namespace Roster

open Program

/-- The user that an email and a password let in. -/
structure SignIn.Entitles (s : SignIn) (m : Store.Memory) (email password : Text) (u : User) : Prop where
  stored : u ∈ m.users
  matching : Text.equalFold u.email email = true
  least : ∀ v ∈ m.users, Text.equalFold v.email email = true → u.id ≤ v.id
  active : u.active = true
  hashed : u.passwordHash ≠ []
  accepted : s.passwords.accepts u.passwordHash password = true

/-- A world with users in memory, each under an id of its own, that can be looked up. -/
structure World.Consults (w : World) (m : Store.Memory) : Prop where
  storage : w.storage = .memory m
  ids : (m.users.map User.id).Nodup
  findByEmail : w.failure? .findByEmail = none
  findById : w.failure? .findById = none

namespace SignIn

variable (s : SignIn) {m : Store.Memory} {email password : Text} {u : User}

/-- Who is admitted: an active user with a hash that accepts the password. -/
theorem admits_iff : s.admits u password = true ↔
    u.active = true ∧ u.passwordHash ≠ [] ∧ s.passwords.accepts u.passwordHash password = true := by
  simp only [admits, Bool.and_eq_true, Bool.not_eq_true', List.isEmpty_eq_false_iff]
  exact ⟨fun h => ⟨h.1.2, h.1.1, h.2⟩, fun h => ⟨⟨h.2.1, h.1⟩, h.2.2⟩⟩

/-- It is the look-up by email that decides whose password counts. -/
theorem entitles_iff (hids : (m.users.map User.id).Nodup) :
    s.Entitles m email password u ↔ m.findEmail? email = some u ∧ s.admits u password = true := by
  have hlists := Lists.of_nodup hids
  have hpicks := Store.Memory.picks_findEmail? hlists email
  rw [admits_iff]
  constructor
  · intro h
    have hu : Register.Picks (fun id => m.users.find? fun v => v.id == id) (fun v => Text.equalFold v.email email) (some u) :=
      ⟨(hlists.mem_iff u).mp h.stored, h.matching, fun v hv => h.least v ((hlists.mem_iff v).mpr hv)⟩
    exact ⟨hpicks.unique hu, h.active, h.hashed, h.accepted⟩
  · rintro ⟨hfound, hactive, hhashed, haccepted⟩
    rw [hfound] at hpicks
    obtain ⟨hu, hmatching, hleast⟩ := hpicks
    exact ⟨(hlists.mem_iff u).mpr hu, hmatching, fun v hv => hleast v ((hlists.mem_iff v).mp hv), hactive, hhashed, haccepted⟩

/-- Somebody is entitled exactly if the user that the look-up finds is admitted. -/
theorem exists_entitles_iff (hids : (m.users.map User.id).Nodup) :
    (∃ u, s.Entitles m email password u) ↔ ((m.findEmail? email).any fun u => s.admits u password) = true := by
  simp only [s.entitles_iff hids, Option.any_eq_true]

end SignIn

namespace World

variable {w : World} {m : Store.Memory}

/-- A call that changes no record leaves the users as they can be looked up. -/
theorem Consults.answer (h : w.Consults m) {c : Call} (hc : c.writes? = none) : (World.answer c w).2.Consults m := by
  have hf : ∀ p, (World.answer c w).2.failure? p = w.failure? p := fun p => by
    rw [failure?, answer_failing, failure?]
  exact ⟨(answer_storage hc w).trans h.storage, h.ids, (hf _).trans h.findByEmail, (hf _).trans h.findById⟩

/-- A look-up by email is answered from the memory. -/
theorem Consults.answer_findByEmail (h : w.Consults m) (email : Text) :
    World.answer (.findByEmail email) w = (.ok (m.findEmail? email), w) := by
  simp only [World.answer, onStore, h.findByEmail, h.storage]

namespace Consults

variable {s : SignIn} {email password : Text} {u : User}

/-! ## The service -/

/-- Somebody who is entitled gets a token, issued at this moment. -/
theorem attempt_login (h : w.Consults m) (hu : s.Entitles m email password u) :
    w.attempt (s.login email password) = (.ok (Token.issue s.secret w.now u.role (User.key u.id)), w) := by
  obtain ⟨hfound, hadmits⟩ := (s.entitles_iff h.ids).mp hu
  rw [attempt, run, SignIn.run_login, run_call, h.answer_findByEmail, hfound]
  dsimp only
  rw [if_pos hadmits]
  rfl

/-- Where nobody is entitled, signing in is refused. -/
theorem attempt_login_refused (h : w.Consults m) (hnone : ∀ u, ¬s.Entitles m email password u) :
    w.attempt (s.login email password) = (.error .unauthorized, w) := by
  rw [attempt, run, SignIn.run_login, run_call, h.answer_findByEmail]
  cases hfound : m.findEmail? email with
  | none => rfl
  | some u =>
    dsimp only
    rw [if_neg fun hadmits => hnone u ((s.entitles_iff h.ids).mpr ⟨hfound, hadmits⟩)]
    rfl

/-- A token is valid at the moment it is issued. -/
theorem attempt_validate (hclock : w.now.unix.natAbs < 2 ^ 62) (id : UInt64) (role : Role) :
    w.attempt (s.validate (Token.issue s.secret w.now role.name (User.key id))) = (.ok ⟨id, role⟩, w) := by
  have hidentity := s.identity?_issue_at_once hclock id role
  rw [attempt, run, SignIn.run_validate, run_call]
  simp only [World.answer, hidentity]
  rfl

/-- A token that is issued for an active user lets this user in at that moment. -/
theorem attempt_authenticate (h : w.Consults m) (hclock : w.now.unix.natAbs < 2 ^ 62) (hu : u ∈ m.users)
    (hactive : u.active = true) (role : Role) :
    w.attempt (s.authenticate (Token.issue s.secret w.now role.name (User.key u.id))) = (.ok u, w) := by
  have hidentity := s.identity?_issue_at_once hclock u.id role
  have hfound : m.find? u.id = some u := ((Lists.of_nodup h.ids).mem_iff u).mp hu
  have hnow : World.answer .now w = (w.now, w) := rfl
  have hanswer := answer_findById h.storage h.findById u.id
  rw [hfound] at hanswer
  rw [attempt, run, SignIn.run_authenticate, run_call, hnow]
  simp only [hidentity, run_call, hanswer, hactive, if_true]
  rfl

end Consults

/-! ## Plain calls and the store -/

/-- The same world with another store. -/
def restock (w : World) (st : Storage) : World := { w with storage := st }

/-- Waiting does not depend on the store. -/
theorem wait_restock (w : World) (st : Storage) (d : Span) :
    (w.restock st).wait d = ((w.wait d).1, (w.wait d).2.restock st) := by
  have hpatience : (w.restock st).patience = w.patience := rfl
  have hdeadline : (w.restock st).deadline = w.deadline := rfl
  have hclock : (w.restock st).clock = w.clock := rfl
  simp only [wait, hpatience, hdeadline, hclock]
  cases w.patience with
  | error f => rfl
  | ok _ =>
    cases w.deadline with
    | none => rfl
    | some t =>
      by_cases ht : t < w.clock + max d 0
      · simp only [if_pos ht]
        rfl
      · simp only [if_neg ht]
        rfl

/-- A plain call is answered alike whatever is stored. -/
theorem answer_restock {c : Call} (hc : c.Plain) (w : World) (st : Storage) :
    answer c (w.restock st) = ((answer c w).1, (answer c w).2.restock st) := by
  obtain ⟨_, _, _, limiter, _, canceled, deadline, _, _, _, writesLeft, _⟩ := w
  cases c with
  | findById _ | findByEmail _ | save _ | delete _ | findAll => cases hc.1
  | cacheGet _ | cacheSet _ _ | cacheRemove _ => cases hc.2
  | mayTry client => cases limiter <;> rfl
  | write piece => rcases writesLeft with _ | _ | n <;> rfl
  | wait d => exact wait_restock _ st d
  | log _ | now | salt | requestId | pause _ | patience => rfl

/-- A program that makes plain calls only does the same with any store. -/
theorem run_restock {α : Type} {p : Act α} (hp : Only Call.Plain p) (w : World) (st : Storage) :
    (w.restock st).run p = ((w.run p).1, (w.run p).2.restock st) := by
  unfold run
  induction p generalizing w with
  | done a => rfl
  | call c next ih =>
    rw [run_call, answer_restock hp.1]
    exact ih _ (hp.2 _) _

end World

namespace Http

/-! ## The endpoint -/

/-- A request that presents an email and a password. -/
structure Request.Presents (r : Request) (email password : Text) : Prop where
  signsIn : r.SignsIn
  body : Credentials.body.read r.body = .ok { email, password }

/-- A body that reads as an email and a password is read without fault. -/
theorem Credentials.read_eq_ok {t email password : Text}
    (h : (Credentials.body.read t).toOption.map (fun c => (c.email, c.password)) = some (email, password)) :
    Credentials.body.read t = .ok { email, password } := by
  cases hread : Credentials.body.read t with
  | error f =>
    rw [hread] at h
    cases h
  | ok c =>
    rw [hread] at h
    cases h
    rfl

/-- Every request to sign in is routed to the endpoint for it. -/
theorem Request.SignsIn.route?_eq {r : Request} (h : r.SignsIn) : r.route? = some (.login, []) := by
  rw [route?_of_clean h.target h.clean (by rw [h.method]; decide), h.method, h.path]
  decide +kernel

/-- A request that signs in is taken by the endpoint for it. -/
theorem Request.SignsIn.dispatch_eq {r : Request} (h : r.SignsIn) (s : Site) (id : Text) :
    dispatch s r id = login s { request := r, requestId := id } := dispatch_of_route h.route?_eq s id

/-- Whether a client may try once more, and the world after it has asked. -/
def trial (r : Request) (w : World) : Bool × World := World.answer (.mayTry (clientHost r.remote)) w

/-- What a client hears that has tried too often. -/
def tooMany : Act Reply := jsonError 429 "Too many login attempts. Please wait and try again."

/-- What everybody hears who is not let in. -/
def turnAway (r : Request) : Act Reply := do
  if ← Act.ask (.mayTry (clientHost r.remote)) then jsonError 401 "Unauthorized." else tooMany

/-- Turning a request away makes plain calls only. -/
theorem turnAway_plain (r : Request) : Only Call.Plain (turnAway r) := by
  refine ⟨⟨rfl, rfl⟩, fun admitted => ?_⟩
  cases admitted <;> exact json_plain _ _

/-- A request is turned away with 401 if the limiter lets it try, and as too many otherwise. -/
theorem run_turnAway (r : Request) (w : World) :
    w.run (turnAway r) = (trial r w).2.run (if (trial r w).1 then jsonError 401 "Unauthorized." else tooMany) := rfl

/-- What a user hears who is let in. -/
def welcome (secure : Bool) (token : Text) (u : User) : Act Reply := do
  let reply ← json 200 (.object [("token", .string token), ("user", shownUser u)])
  pure { reply with headers := tokenField secure token 86400 :: reply.headers }

/-- A welcome has the status 200 and sets the cookie with the token. -/
theorem welcome_ends (secure : Bool) (token : Text) (u : User) :
    Ends (fun reply => reply.status = 200 ∧ tokenField secure token 86400 ∈ reply.headers) (welcome secure token u) :=
  (json_ends 200 _).bind_of fun _ h => ⟨h, List.mem_cons_self⟩

section Login

variable {s : Site} {v : Visit} {w : World} {m : Store.Memory} {email password : Text}

/-- With a body that can be read, the service decides about a client that may try. -/
theorem run_login (hv : v.request.Presents email password) :
    w.run (login s v) = (trial v.request w).2.run (if (trial v.request w).1 then
      orFault v "login user" (s.signIn.login email password) fun token =>
        orFault v "load user after login" (s.signIn.authenticate token) fun u => welcome s.cookieSecure token u
      else tooMany) := by
  unfold login withBody
  rw [hv.body]
  rfl

/-- A login of nobody who is entitled is answered as one that is turned away. -/
theorem run_login_refused (hv : v.request.Presents email password) (hw : w.Consults m)
    (hnone : ∀ u, ¬s.signIn.Entitles m email password u) : w.run (login s v) = w.run (turnAway v.request) := by
  have hconsults : (trial v.request w).2.Consults m := hw.answer rfl
  rw [run_login hv, run_turnAway]
  cases (trial v.request w).1 with
  | false => rfl
  | true =>
    rw [if_pos rfl, run_orFault, hconsults.attempt_login_refused hnone]
    rfl

/-- A login of somebody who is entitled is answered with a welcome, if the limiter lets it try. -/
theorem run_login_entitled (hv : v.request.Presents email password) (hw : w.Consults m)
    (hclock : w.now.unix.natAbs < 2 ^ 62) {u : User} (hu : s.signIn.Entitles m email password u) {role : Role}
    (hrole : Role.parse? u.role = some role) (htrial : (trial v.request w).1 = true) :
    w.run (login s v) = (trial v.request w).2.run
      (welcome s.cookieSecure (Token.issue s.signIn.secret w.now u.role (User.key u.id)) u) := by
  have hconsults : (trial v.request w).2.Consults m := hw.answer rfl
  have hnow : (trial v.request w).2.now = w.now := World.answer_now rfl w
  rw [← hnow] at hclock
  have hauthenticate := hconsults.attempt_authenticate (s := s.signIn) hclock hu.stored hu.active role
  rw [← Role.name_of_parse? hrole] at hauthenticate
  rw [run_login hv, if_pos htrial, run_orFault, hconsults.attempt_login hu]
  dsimp only
  rw [run_orFault, hauthenticate, hnow]

end Login

/-! ## The answer -/

/-- What surrounds the routes looks neither at the body of a request nor at the store. -/
theorem run_serve_restock {s : Site} {r : Request} {body : Text} {w : World} {st : Storage}
    (h : ∀ id, (w.restock st).run (dispatch s { r with body } id) =
      ((w.run (dispatch s r id)).1, (w.run (dispatch s r id)).2.restock st)) :
    (w.restock st).run (serve s { r with body }) = ((w.run (serve s r)).1, (w.run (serve s r)).2.restock st) := by
  obtain ⟨id, hid⟩ := run_requestId r w
  have hid' : (w.restock st).run (requestId { r with body }) = (id, w.restock st) := by
    show (w.restock st).run (requestId r) = _
    rw [World.run_restock (requestId_plain r), hid]
  have hnow : ∀ v, World.answer .now v = (v.now, v) := fun _ => rfl
  have hrun := h id
  unfold World.run at hid hid' hrun ⊢
  rw [serve, serve, Program.bind_eq, Program.bind_eq, run_bind, run_bind, hid, hid']
  simp only [Act.ask, Program.ask, Program.bind_eq, call_bind, done_bind, run_call, run_bind, hnow, hrun]
  rfl

/-- The fields of an answer are among those that surround it. -/
theorem headers_serve {s : Site} {r : Request} {w : World} {id : Text} (hid : w.run (requestId r) = (id, w)) {f : Field}
    (hf : f ∈ (w.run (dispatch s r id)).1.headers) : f ∈ (w.run (serve s r)).1.headers := by
  unfold World.run at hid hf ⊢
  rw [serve, Program.bind_eq, run_bind, hid]
  simp only [Act.ask, Program.ask, Program.bind_eq, call_bind, done_bind, run_call, run_bind]
  exact List.mem_append_right _ hf

/-- A user is let in: it gets a token that stands for it at once, and a request that presents the email and the password is
answered with the token, unless the client has tried too often. -/
structure LetsIn (s : Site) (w : World) (email password : Text) (u : User) (token : Text) : Prop where
  login : w.attempt (s.signIn.login email password) = (.ok token, w)
  validate : ∃ role, Role.parse? u.role = some role ∧ w.attempt (s.signIn.validate token) = (.ok ⟨u.id, role⟩, w)
  authenticate : w.attempt (s.signIn.authenticate token) = (.ok u, w)
  answered : ∀ r : Request, r.Presents email password → (trial r w).1 = true →
    (w.run (serve s r)).1.status = 200 ∧ tokenField s.cookieSecure token 86400 ∈ (w.run (serve s r)).1.headers

/-- Nobody is let in: signing in fails without a reason, and a request that presents the email and the password is answered as
any other that is refused, with whatever email and password and whoever is stored. -/
structure TurnsAway (s : Site) (w : World) (email password : Text) : Prop where
  login : w.attempt (s.signIn.login email password) = (.error .unauthorized, w)
  answered : ∀ r : Request, r.Presents email password → (trial r w).1 = true →
    (w.run (serve s r)).1.status = 401
  alike : ∀ (r : Request) (body email' password' : Text) (m : Store.Memory), r.Presents email password →
    { r with body }.Presents email' password' → (w.restock (.memory m)).Consults m →
    (∀ u, ¬s.signIn.Entitles m email' password' u) →
    (w.restock (.memory m)).run (serve s { r with body }) =
      ((w.run (serve s r)).1, (w.run (serve s r)).2.restock (.memory m))

section Outcomes

variable {s : Site} {w : World} {m : Store.Memory} {email password : Text}

/-- Somebody who is entitled is let in. -/
theorem letsIn (hw : w.Consults m) (hclock : w.now.unix.natAbs < 2 ^ 62) {u : User}
    (hu : s.signIn.Entitles m email password u) {role : Role} (hrole : Role.parse? u.role = some role) :
    LetsIn s w email password u (Token.issue s.signIn.secret w.now u.role (User.key u.id)) := by
  have hname := Role.name_of_parse? hrole
  refine ⟨hw.attempt_login hu, ⟨role, hrole, ?_⟩, ?_, fun r hr htrial => ?_⟩
  · rw [hname]
    exact World.Consults.attempt_validate hclock u.id role
  · rw [hname]
    exact hw.attempt_authenticate hclock hu.stored hu.active role
  · obtain ⟨id, hid⟩ := run_requestId r w
    have hrun := run_login_entitled (v := { request := r, requestId := id }) hr hw hclock hu hrole htrial
    rw [← hr.signsIn.dispatch_eq] at hrun
    obtain ⟨hstatus, htoken⟩ := (welcome_ends s.cookieSecure (Token.issue s.signIn.secret w.now u.role (User.key u.id)) u).of_run
      World.answer (trial r w).2
    rw [← World.run, ← hrun] at hstatus htoken
    exact ⟨(run_serve_of_id hid s).1.trans hstatus, headers_serve hid htoken⟩

/-- A request that presents what entitles nobody is answered as one that is turned away. -/
theorem run_dispatch_refused (hw : w.Consults m) (hnone : ∀ u, ¬s.signIn.Entitles m email password u) {r : Request}
    (hr : r.Presents email password) (id : Text) : w.run (dispatch s r id) = w.run (turnAway r) := by
  rw [hr.signsIn.dispatch_eq]
  exact run_login_refused (v := { request := r, requestId := id }) hr hw hnone

/-- Where nobody is entitled, everybody is turned away alike. -/
theorem turnsAway (hw : w.Consults m) (hnone : ∀ u, ¬s.signIn.Entitles m email password u) :
    TurnsAway s w email password := by
  refine ⟨hw.attempt_login_refused hnone, fun r hr htrial => ?_, fun r body email' password' m' hr hr' hw' hnone' => ?_⟩
  · obtain ⟨id, hid⟩ := run_requestId r w
    rw [(run_serve_of_id hid s).1, run_dispatch_refused hw hnone hr, run_turnAway, if_pos htrial]
    exact (json_ends 401 _).of_run World.answer _
  · refine run_serve_restock fun id => ?_
    rw [run_dispatch_refused hw hnone hr, run_dispatch_refused hw' hnone' hr']
    -- What everybody hears does not depend on the body either.
    exact World.run_restock (turnAway_plain r) w (.memory m')

/-- Signing in lets in the user that the email and the password entitle, and nobody else; who is turned away is not told why.
No attempt changes what is stored. -/
theorem let_in_or_turned_away (hw : w.Consults m) (hroles : ∀ u ∈ m.users, (Role.parse? u.role).isSome = true)
    (hclock : w.now.unix.natAbs < 2 ^ 62) (s : Site) (email password : Text) :
    ((∃ token, (w.attempt (s.signIn.login email password)).1 = .ok token) ↔ ∃ u, s.signIn.Entitles m email password u) ∧
    (∀ u, s.signIn.Entitles m email password u → ∃ token, LetsIn s w email password u token) ∧
    ((¬∃ u, s.signIn.Entitles m email password u) → TurnsAway s w email password) ∧
    ∀ v : World, (v.attempt (s.signIn.login email password)).2.storage = v.storage := by
  have hin : ∀ u, s.signIn.Entitles m email password u → ∃ token, LetsIn s w email password u token := by
    intro u hu
    obtain ⟨role, hrole⟩ := Option.isSome_iff_exists.mp (hroles u hu.stored)
    exact ⟨_, letsIn hw hclock hu hrole⟩
  have hout (hnone : ¬∃ u, s.signIn.Entitles m email password u) : TurnsAway s w email password :=
    turnsAway hw (not_exists.mp hnone)
  refine ⟨⟨?_, ?_⟩, hin, hout, fun v => ?_⟩
  · rintro ⟨token, htoken⟩
    by_contra hnone
    rw [(hout hnone).login] at htoken
    cases htoken
  · rintro ⟨u, hu⟩
    obtain ⟨token, h⟩ := hin u hu
    exact ⟨token, congrArg Prod.fst h.login⟩
  · have hquiet := s.signIn.login_quiet email password
    exact hquiet.run_keeps (K := fun v' => v'.storage = v.storage) (fun c v' hc h => (World.answer_storage hc.1 v').trans h) rfl

end Outcomes

/-- Two users share an email up to case, and only the password of the first counts. The password of the second is answered as
an email that nobody has. -/
theorem first_namesake_signs_in :
    let s : Site :=
      { signIn := { secret := "key", passwords := { hash := fun _ p => .ok p, accepts := fun h p => h == p }, cached := false },
        cached := false, cookieSecure := true, counterDelay := 0 }
    let ann : User := { id := 3, name := "Ann", email := "Ann@example.com", role := "admin", passwordHash := "one" }
    let m : Store.Memory :=
      { users :=
        [{ id := 7, name := "Ann", email := "ann@EXAMPLE.com", role := "viewer", passwordHash := "two" }, ann,
         { id := 4, name := "Bo", email := "bo@example.com", role := "editor" }] }
    let w : World := { clock := 0, storage := .memory m }
    let r (body : Text) : Request :=
      { method := "POST", rawTarget := "/api/auth/login"
        target := { path := "/api/auth/login", escapedPath := "/api/auth/login", query := [] }, body }
    let first : Text := "\x7b\"email\":\"ANN@example.com\",\"password\":\"one\"\x7d"
    let second : Text := "\x7b\"email\":\"ann@example.com\",\"password\":\"two\"\x7d"
    let nobody : Text := "\x7b\"email\":\"cy@example.com\",\"password\":\"one\"\x7d"
    w.Consults m ∧ s.signIn.Entitles m "ANN@example.com" "one" ann ∧
      (∃ token, LetsIn s w "ANN@example.com" "one" ann token) ∧ (w.run (serve s (r first))).1.status = 200 ∧
      TurnsAway s w "ann@example.com" "two" ∧ (w.run (serve s (r second))).1.status = 401 ∧
      (w.run (serve s (r nobody))).1 = (w.run (serve s (r second))).1 ∧
      (w.run (serve s (r nobody))).2.body = (w.run (serve s (r second))).2.body := by
  intro s ann m w r first second nobody
  have hw : w.Consults m := ⟨rfl, by decide, rfl, rfl⟩
  have hroles : ∀ u ∈ m.users, (Role.parse? u.role).isSome = true := by decide
  have hclock : w.now.unix.natAbs < 2 ^ 62 := by decide
  have hmay (body : Text) : (trial (r body) w).1 = true := rfl
  have htarget : utf8 "/api/auth/login" ≠ utf8 "*" := by decide
  have hclean : cleanPath (utf8 "/api/auth/login") = utf8 "/api/auth/login" := by decide +kernel
  have hpath : pathSegments (utf8 "/api/auth/login") = ["api", "auth", "login"] := by decide +kernel
  have hsigns (body : Text) : (r body).SignsIn := ⟨htarget, hclean, rfl, hpath⟩
  have hfirst : (r first).Presents "ANN@example.com" "one" := ⟨hsigns _, Credentials.read_eq_ok (by decide +kernel)⟩
  have hsecond : (r second).Presents "ann@example.com" "two" := ⟨hsigns _, Credentials.read_eq_ok (by decide +kernel)⟩
  have hnobody : (r nobody).Presents "cy@example.com" "one" := ⟨hsigns _, Credentials.read_eq_ok (by decide +kernel)⟩
  have hann : s.signIn.Entitles m "ANN@example.com" "one" ann :=
    (s.signIn.entitles_iff hw.ids).mpr ⟨by decide +kernel, by decide +kernel⟩
  have hrefused : ¬∃ u, s.signIn.Entitles m "ann@example.com" "two" u := by
    rw [s.signIn.exists_entitles_iff hw.ids]
    decide +kernel
  have hunknown : ¬∃ u, s.signIn.Entitles m "cy@example.com" "one" u := by
    rw [s.signIn.exists_entitles_iff hw.ids]
    decide +kernel
  have hstocked : w.restock (.memory m) = w := rfl
  have hchanged : { r second with body := nobody } = r nobody := rfl
  clear_value w r m
  have hw' : (w.restock (.memory m)).Consults m := by rwa [hstocked]
  have hnobody' : { r second with body := nobody }.Presents "cy@example.com" "one" := by rwa [hchanged]
  obtain ⟨token, hin⟩ := (let_in_or_turned_away hw hroles hclock s "ANN@example.com" "one").2.1 ann hann
  have hout := (let_in_or_turned_away hw hroles hclock s "ann@example.com" "two").2.2.1 hrefused
  have halike := hout.alike (r second) nobody _ _ m hsecond hnobody' hw' (not_exists.mp hunknown)
  rw [hstocked, hchanged] at halike
  exact ⟨hw, hann, ⟨token, hin⟩, (hin.answered _ hfirst (hmay first)).1, hout, hout.answered _ hsecond (hmay second),
    by rw [halike], by rw [halike]; rfl⟩

end Http

end Roster
