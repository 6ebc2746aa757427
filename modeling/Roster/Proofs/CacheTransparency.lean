import Roster.Proofs.CacheIndependence
import Roster.Proofs.Coherence
import Roster.Proofs.HashSecrecy

/-!
# The cache does not show

A server with a cache in the process is followed side by side with one that has none. The first keeps its cache in step with
the store (`World.Coherent`), and but for cache and log the two worlds are the same. A look-up of a single user is the only
request that the cache may answer. It then answers with the stored user without the password hash, which is not shown.

Main statement: whatever operations are carried out and whatever requests arrive, in any order and with any time in between,
both servers give the same answers.
-/

namespace Roster

open Program

namespace World

/-! ## Worlds that differ in cache and log -/

/-- Two worlds that differ in cache and log at most. -/
def SameButCache (w v : World) : Prop := ∃ caching entries, v = { w with caching, entries }

namespace SameButCache

variable {w v u : World}

theorem refl (w : World) : SameButCache w w := ⟨w.caching, w.entries, rfl⟩

theorem symm (h : SameButCache w v) : SameButCache v w := by
  obtain ⟨k, l, rfl⟩ := h
  exact ⟨w.caching, w.entries, rfl⟩

/-- Two differences in cache and log are one. -/
theorem trans (h : SameButCache w v) (h' : SameButCache v u) : SameButCache w u := by
  obtain ⟨k, l, rfl⟩ := h
  obtain ⟨k', l', rfl⟩ := h'
  exact ⟨k', l', rfl⟩

/-- Time passes alike. -/
theorem advance (h : SameButCache w v) (d : Span) : SameButCache (w.advance d) (v.advance d) := by
  obtain ⟨k, l, rfl⟩ := h
  exact ⟨k, l, rfl⟩

/-- What has been sent does not depend on cache and log. -/
theorem body (h : SameButCache w v) : v.body = w.body := by
  obtain ⟨k, l, rfl⟩ := h
  rfl

end SameButCache

/-- A difference in the log is one in cache and log. -/
theorem SameButLog.sameButCache {w v : World} (h : SameButLog w v) : SameButCache w v := by
  obtain ⟨l, rfl⟩ := h
  exact ⟨w.caching, l, rfl⟩

/-- A call that does not go to the cache is answered whatever the cache is, and leaves it alone. -/
theorem answer_with_caching {c : Call} (hc : c.toCache = false) (w : World) (k : Caching) :
    answer c { w with caching := k } = ((answer c w).1, { (answer c w).2 with caching := k }) := by
  have h := Scene.answer_own c { world := w, cache := k }
  rw [Scene.answer_world _ hc] at h
  exact h.symm

/-- A call that does not go to the cache is answered alike in worlds that differ in cache and log, and leaves such worlds. -/
theorem answer_sameButCache {c : Call} (hc : c.toCache = false) {w v : World} (h : SameButCache w v) :
    (answer c w).1 = (answer c v).1 ∧ SameButCache (answer c w).2 (answer c v).2 := by
  obtain ⟨k, l, rfl⟩ := h
  by_cases hlog : ∃ e, c = .log e
  · obtain ⟨e, rfl⟩ := hlog
    exact ⟨rfl, k, _, rfl⟩
  · have hentries : SameButLog w { w with entries := l } := ⟨l, rfl⟩
    obtain ⟨hanswer, hworld⟩ := answer_log hentries (not_exists.mp hlog)
    have hcaching := answer_with_caching hc { w with entries := l } k
    rw [hcaching]
    exact ⟨hanswer, hworld.sameButCache.trans ⟨k, _, rfl⟩⟩

/-- A call of the cache changes the cache at most. -/
theorem onCache_sameButCache {α : Type} (w : World) (p : Point) (run : Caching → Except Fault α × Caching) :
    SameButCache w (w.onCache p run).2 := by
  unfold onCache
  split
  · exact .refl w
  · exact ⟨_, w.entries, rfl⟩

/-- A call of the cache or of the log changes these at most. -/
theorem answer_idle {c : Call} (hc : c.Idle) (w : World) : SameButCache w (answer c w).2 := by
  cases c with
  | cacheGet _ | cacheSet _ _ | cacheRemove _ => exact onCache_sameButCache w _ _
  | log e => exact ⟨w.caching, _, rfl⟩
  | _ => cases hc

/-- A program and what is left of it without its idle calls answer alike in worlds that differ in cache and log, and leave such
worlds. -/
theorem run_sheds {α : Type} {p q : Act α} (hp : Sheds Call.Idle p q) {w v : World} (h : SameButCache w v) :
    (w.run p).1 = (v.run q).1 ∧ SameButCache (w.run p).2 (v.run q).2 := by
  unfold run
  induction hp generalizing w v with
  | done a => exact ⟨rfl, h⟩
  | keep hc _ ih =>
    obtain ⟨hanswer, hworld⟩ := answer_sameButCache (Call.toCache_of_idle (Bool.not_eq_true _ ▸ hc)) h
    rw [run_call, run_call, hanswer]
    exact ih _ hworld
  | skip hc _ ih => exact ih _ ((answer_idle hc w).symm.trans h)

/-- A program that keeps the cache in step keeps it so in the world's own run. -/
theorem KeepsCoherent.run {α : Type} {p : Act α} {w : World} (h : KeepsCoherent p w) : (w.run p).2.Coherent :=
  h.of_runs (runs_run (fun _ t => ⟨t, .refl t, .inl rfl⟩) p w)

/-! ## Side by side -/

/-- A world whose cache is in step with its store, and one that differs from it in cache and log at most. -/
structure Mirrored (w v : World) : Prop where
  coherent : w.Coherent
  same : w.SameButCache v

end World

/-- From mirrored worlds, the first program in the one with the cache and the second in the other end with values that `Q`
relates, and in mirrored worlds. -/
def Mirrors {α β : Type} (Q : α → β → Prop) (p : Act α) (q : Act β) : Prop :=
  ∀ w v : World, w.Mirrored v → Q (w.run p).1 (v.run q).1 ∧ (w.run p).2.Mirrored (v.run q).2

/-- A call that changes no record and does not go to the cache. -/
def Call.Steady (c : Call) : Prop := c.writes? = none ∧ c.toCache = false

theorem Call.Plain.steady {c : Call} (h : c.Plain) : c.Steady := ⟨h.reads, h.2⟩

theorem Call.Quiet.steady {c : Call} (h : c.Quiet) : c.Steady := ⟨h.1, toCache_of_idle h.2⟩

namespace Mirrors

variable {α β α' β' : Type} {Q Q' : α → β → Prop} {p : Act α} {q : Act β}

theorem done {a : α} {b : β} (h : Q a b) : Mirrors Q (.done a) (.done b) := fun _ _ hw => ⟨h, hw⟩

/-- Values may be related more loosely. -/
theorem mono (h : Mirrors Q p q) (hq : ∀ a b, Q a b → Q' a b) : Mirrors Q' p q := by
  intro w v hw
  obtain ⟨hvalue, hworld⟩ := h w v hw
  exact ⟨hq _ _ hvalue, hworld⟩

/-- Two programs mirror each other, if their parts do. -/
theorem bind {R : α' → β' → Prop} {f : α → Act α'} {g : β → Act β'} (h : Mirrors Q p q)
    (hf : ∀ a b, Q a b → Mirrors R (f a) (g b)) : Mirrors R (p.bind f) (q.bind g) := by
  intro w v hw
  obtain ⟨hvalue, hworld⟩ := h w v hw
  rw [World.run, World.run, run_bind, run_bind]
  exact hf _ _ hvalue _ _ hworld

/-- A program that changes no record and leaves the cache alone. -/
theorem of_steady {p : Act α} (h : Only Call.Steady p) : Mirrors Eq p p := by
  intro w v hw
  unfold World.run
  induction p generalizing w v with
  | done a => exact ⟨rfl, hw⟩
  | call c next ih =>
    obtain ⟨⟨hreads, hcache⟩, hnext⟩ := h
    obtain ⟨m, htidy⟩ := hw.coherent
    obtain ⟨hanswer, hsame⟩ := World.answer_sameButCache hcache hw.same
    rw [run_call, run_call, ← hanswer]
    exact ih _ (hnext _) _ _ ⟨⟨m, htidy.answer_quiet hreads hcache⟩, hsame⟩

/-- A program of plain calls mirrors itself. -/
theorem of_plain {p : Act α} (h : Only Call.Plain p) : Mirrors Eq p p := of_steady (h.mono fun _ hc => hc.steady)

/-- A quiet program mirrors itself. -/
theorem of_quiet {p : Act α} (h : Only Call.Quiet p) : Mirrors Eq p p := of_steady (h.mono fun _ hc => hc.steady)

/-- A program that keeps the cache in step, and what is left of it without its idle calls. -/
theorem of_sheds {p q : Act α} (h : Sheds Call.Idle p q) (hp : ∀ w : World, w.Coherent → World.KeepsCoherent p w) :
    Mirrors Eq p q := by
  intro w v hw
  obtain ⟨hvalue, hsame⟩ := World.run_sheds h hw.same
  exact ⟨hvalue, World.KeepsCoherent.run (hp w hw.coherent), hsame⟩

/-- The same fault or the same value. -/
theorem faultOr {t t' : Act (Except Fault α)} (h : Mirrors Eq t t') : Mirrors (FaultOr Eq) t t' := by
  refine h.mono ?_
  rintro x _ rfl
  exact .refl (fun _ => rfl) x

end Mirrors

/-! ## The look-up of a single user -/

namespace World

/-- Getting a user changes cache and log at most. -/
theorem run_get_sameButCache (cached : Bool) (id : UInt64) (w : World) :
    SameButCache w (w.run (Users.get cached id).run).2 := by
  refine (Users.get_looksUp cached id).run_keeps (K := SameButCache w) ?_ (.refl w)
  rintro c v (hc | ⟨i, rfl⟩) h
  · exact h.trans (answer_idle hc v)
  · exact h.trans (findById_log v i).sameButCache

/-- Without a cache a look-up answers what is stored. -/
theorem get_uncached {w : World} {m : Store.Memory} (hs : w.storage = .memory m) (hf : w.failing = []) (id : UInt64) :
    (w.run (Users.get false id).run).1 = Users.found id (.ok (m.find? id)) := by
  have hwork : w.failure? .findById = none := by
    rw [failure?, hf]
    rfl
  rw [run, Users.get_answer]
  show Users.found id (answer (.findById id) w).1 = _
  rw [answer_findById hs hwork]

end World

/-- A user in the cache is the stored one without the hash; a user not in the cache is looked up in the store. -/
theorem Users.get_mirrors (id : UInt64) : Mirrors (FaultOr User.SameButHash) (get true id).run (get false id).run := by
  intro w v hw
  have hsame := (World.run_get_sameButCache true id w).symm.trans (hw.same.trans (World.run_get_sameButCache false id v))
  refine ⟨?_, World.KeepsCoherent.run (World.get_coherent hw.coherent id), hsame⟩
  obtain ⟨m, htidy⟩ := hw.coherent
  obtain ⟨c, hc, hagrees⟩ := htidy.caching
  obtain ⟨k, l, rfl⟩ := hw.same
  rw [World.get_uncached (w := { w with caching := k, entries := l }) htidy.storage htidy.failing, World.run, get_answer,
    World.run_lookUp hc (htidy.failure? _)]
  cases hget : c.get? (User.key id) with
  | none =>
    dsimp only
    rw [World.answer_findById htidy.storage (htidy.failure? _)]
    exact FaultOr.refl (Q := User.SameButHash) (fun _ => rfl) _
  | some u =>
    obtain ⟨i, hkey, hdirty | ⟨stored, hfind, rfl⟩⟩ := hagrees _ _ hget
    · cases hdirty
    · rw [User.key_injective hkey, hfind]
      exact .value rfl

/-! ## Operations -/

/-- Every operation takes mirrored worlds to mirrored worlds. -/
theorem Operation.task_mirrors (s : SignIn) (o : Operation) :
    Mirrors (fun _ _ => True) (o.task { s with cached := true } true).run (o.task { s with cached := false } false).run := by
  by_cases hget : ∃ id, o = .get id
  · obtain ⟨id, rfl⟩ := hget
    rw [task, task, Task.run_map, Task.run_map]
    exact (Users.get_mirrors id).bind fun _ _ _ => .done trivial
  · have hsheds := task_sheds { s with cached := true } true (not_exists.mp hget)
    exact (Mirrors.of_sheds hsheds fun _ hw => World.operation_coherent s hw o).mono fun _ _ _ => trivial

namespace Http

/-! ## Endpoints -/

/-- The site with a cache for both services, or without. -/
def Site.caching (s : Site) (cached : Bool) : Site := { s with cached, signIn := { s.signIn with cached } }

/-- A task whose fault is answered with an error is mirrored, if the task and what follows it are. -/
theorem orFault_mirrors {α β : Type} {Q : α → β → Prop} (v : Visit) (activity : Text) {t : Task α} {t' : Task β}
    {next : α → Act Reply} {next' : β → Act Reply} (ht : Mirrors (FaultOr Q) t.run t'.run)
    (hn : ∀ a b, Q a b → Mirrors Eq (next a) (next' b)) :
    Mirrors Eq (orFault v activity t next) (orFault v activity t' next') := by
  refine ht.bind fun x y hxy => ?_
  cases hxy with
  | fault f => exact .of_plain (faultReply_plain _ _ f)
  | value h => exact hn _ _ h

/-- Two tasks that answer alike. -/
theorem orFault_same_mirrors {α : Type} (v : Visit) (activity : Text) {t t' : Task α} {next next' : α → Act Reply}
    (ht : Mirrors Eq t.run t'.run) (hn : ∀ a, Mirrors Eq (next a) (next' a)) :
    Mirrors Eq (orFault v activity t next) (orFault v activity t' next') := by
  refine orFault_mirrors v activity ht.faultOr ?_
  rintro a _ rfl
  exact hn a

/-- Reading a value from the request. -/
theorem orFault_read_mirrors {α : Type} (v : Visit) (activity : Text) (x : Except Fault α) {next next' : α → Act Reply}
    (hn : ∀ a, Mirrors Eq (next a) (next' a)) :
    Mirrors Eq (orFault v activity (Task.ofExcept x) next) (orFault v activity (Task.ofExcept x) next') :=
  orFault_same_mirrors v activity (.done rfl) hn

/-- The answer with a user is mirrored. -/
theorem userReply_mirrors (u : User) :
    Mirrors Eq (json 200 (single "user" (shownUser u))) (json 200 (single "user" (shownUser u))) :=
  .of_plain (json_plain _ _)

variable (s : Site) (v : Visit)

/-- The password hash, in which a cached user differs from the stored one, is not shown. -/
theorem getUser_mirrors : Mirrors Eq (getUser (s.caching true) v) (getUser (s.caching false) v) := by
  refine orFault_read_mirrors v _ _ fun id => orFault_mirrors v _ (Users.get_mirrors id) fun u u' h => ?_
  rw [h.congr shownUser fun _ => rfl]
  exact userReply_mirrors u'

/-- Saving a user over the network is mirrored without a cache. -/
theorem putUser_mirrors : Mirrors Eq (putUser (s.caching true) v) (putUser (s.caching false) v) := by
  refine orFault_read_mirrors v _ _ fun id => orFault_read_mirrors v _ _ fun b => orFault_read_mirrors v _ _ fun role => ?_
  exact orFault_same_mirrors v _ (.of_sheds (Users.save_sheds true _) fun _ hw => World.save_coherent hw _) userReply_mirrors

/-- Deleting over the network is mirrored without a cache. -/
theorem deleteUser_mirrors : Mirrors Eq (deleteUser (s.caching true) v) (deleteUser (s.caching false) v) := by
  refine orFault_read_mirrors v _ _ fun id => ?_
  exact orFault_same_mirrors v _ (.of_sheds (Users.delete_sheds true id) fun _ hw => World.delete_coherent hw id)
    fun _ => .done rfl

/-- Deactivating over the network is mirrored without a cache. -/
theorem deactivateUser_mirrors : Mirrors Eq (deactivateUser (s.caching true) v) (deactivateUser (s.caching false) v) := by
  refine orFault_read_mirrors v _ _ fun id => ?_
  exact orFault_same_mirrors v _ (.of_sheds (Users.deactivate_sheds true id) fun _ hw => World.deactivate_coherent hw id)
    userReply_mirrors

/-- Setting a password over the network is mirrored without a cache. -/
theorem setPassword_mirrors : Mirrors Eq (setPassword (s.caching true) v) (setPassword (s.caching false) v) := by
  refine orFault_read_mirrors v _ _ fun id => orFault_read_mirrors v _ _ fun b => ?_
  have hsheds := (s.caching true).signIn.setPassword_sheds id b.password
  exact orFault_same_mirrors v _ (.of_sheds hsheds fun _ hw => World.setPassword_coherent _ rfl hw id b.password)
    fun _ => .done rfl

/-- Only requests for a single user depend on whether there is a cache. -/
theorem serve_uncached {e : Endpoint} (he : e.audience ≠ .admins) (hget : e ≠ .getUser) :
    e.serve (s.caching true) v = e.serve (s.caching false) v := by
  cases e with
  | getUser => exact absurd rfl hget
  | putUser | deleteUser | deactivateUser | setPassword => exact absurd rfl he
  | _ => rfl

/-- Every endpoint is mirrored without a cache. -/
theorem serve_mirrors (e : Endpoint) : Mirrors Eq (e.serve (s.caching true) v) (e.serve (s.caching false) v) := by
  by_cases he : e.audience = .admins
  · cases e with
    | putUser => exact putUser_mirrors s v
    | deleteUser => exact deleteUser_mirrors s v
    | deactivateUser => exact deactivateUser_mirrors s v
    | setPassword => exact setPassword_mirrors s v
    | _ => cases he
  · by_cases hget : e = .getUser
    · rw [hget]
      exact getUser_mirrors s v
    · rw [serve_uncached s v he hget]
      exact .of_steady (serve_only (fun _ hc => hc.steady) (fun _ hc => hc.steady) _ v he hget)

/-! ## Requests -/

/-- Every endpoint behind its guard is mirrored without a cache. -/
theorem serveGuarded_mirrors (e : Endpoint) :
    Mirrors Eq (e.serveGuarded (s.caching true) v) (e.serveGuarded (s.caching false) v) := by
  -- Who is asking is looked up in the store, never in the cache.
  have hasks : Mirrors Eq ((s.caching true).signIn.authenticate (requestToken v.request)).run
      ((s.caching false).signIn.authenticate (requestToken v.request)).run :=
    .of_quiet (SignIn.authenticate_quiet _ _)
  unfold Endpoint.serveGuarded
  split
  · exact serve_mirrors s v e
  · exact orFault_same_mirrors v _ hasks fun u => serve_mirrors s _ e
  · refine orFault_same_mirrors v _ hasks fun u => ?_
    split
    · exact serve_mirrors s _ e
    · exact .of_plain (faultReply_plain _ _ _)

/-- The whole way of a request is mirrored without a cache. -/
theorem dispatch_mirrors (r : Request) (requestId : Text) :
    Mirrors Eq (dispatch (s.caching true) r requestId) (dispatch (s.caching false) r requestId) := by
  simp only [dispatch]
  generalize (if r.method == utf8 "CONNECT" then r.target.escapedPath else cleanPath r.target.escapedPath) = clean
  split
  · exact .done rfl
  · split
    · exact .of_plain (redirect_plain _ _)
    · split
      · exact serveGuarded_mirrors s _ _
      · exact .of_plain (unrouted_plain _)

/-- A request, with the entry it leaves in the log, is mirrored without a cache. -/
theorem request_mirrors (r : Request) : Mirrors Eq (serve (s.caching true) r) (serve (s.caching false) r) := by
  have hnow : Mirrors Eq (Act.ask .now) (Act.ask .now) := .of_plain ⟨⟨rfl, rfl⟩, fun _ => trivial⟩
  refine (Mirrors.of_plain (requestId_plain r)).bind ?_
  rintro id _ rfl
  refine hnow.bind ?_
  rintro start _ rfl
  refine (dispatch_mirrors s r id).bind ?_
  rintro reply _ rfl
  refine hnow.bind ?_
  rintro done _ rfl
  exact .of_plain ⟨⟨rfl, rfl⟩, fun _ => trivial⟩

/-! ## Histories -/

/-- What can happen to a server: time passes, an operation is carried out by its services, or a request arrives. -/
inductive Event where
  | pass (d : Span)
  | operation (o : Operation)
  | arrival (a : Arrival)

/-- The answers, with their bodies, that a server gives to the requests of a history, and the world at its end. -/
def respond (s : Site) : List Event → World → List (Reply × Text) × World
  | [], w => ([], w)
  | .pass d :: rest, w => respond s rest (w.advance d)
  | .operation o :: rest, w => respond s rest (w.attempt (o.task s.signIn s.cached)).2
  | .arrival a :: rest, w =>
    let (reply, v) := (a.enter w).run (serve s a.request)
    let (replies, u) := respond s rest v
    ((reply, v.body) :: replies, u)

end Http

namespace World.Mirrored

variable {w v : World}

/-- Worlds stay mirrored while time passes. -/
theorem advance (h : w.Mirrored v) (d : Span) : (w.advance d).Mirrored (v.advance d) := by
  obtain ⟨⟨m, htidy⟩, hsame⟩ := h
  exact ⟨⟨m, htidy.storage, htidy.failing, htidy.caching⟩, hsame.advance d⟩

/-- Worlds stay mirrored when a request arrives. -/
theorem enter (h : w.Mirrored v) (a : Http.Arrival) : (a.enter w).Mirrored (a.enter v) := by
  obtain ⟨⟨m, htidy⟩, k, l, rfl⟩ := h
  exact ⟨⟨m, htidy.storage, htidy.failing, htidy.caching⟩, k, l, rfl⟩

end World.Mirrored

namespace Http

/-- Through a whole history the two servers answer alike and their worlds stay mirrored. -/
theorem respond_mirrored (s : Site) (events : List Event) {w v : World} (h : w.Mirrored v) :
    (respond (s.caching true) events w).1 = (respond (s.caching false) events v).1 ∧
      (respond (s.caching true) events w).2.Mirrored (respond (s.caching false) events v).2 := by
  induction events generalizing w v with
  | nil => exact ⟨rfl, h⟩
  | cons event rest ih =>
    cases event with
    | pass d => exact ih (h.advance d)
    | operation o => exact ih (Operation.task_mirrors s.signIn o w v h).2
    | arrival a =>
      obtain ⟨hreply, hworld⟩ := request_mirrors s a.request _ _ (h.enter a)
      obtain ⟨hreplies, hend⟩ := ih hworld
      simp only [respond]
      exact ⟨by rw [hreply, hworld.same.body, hreplies], hend⟩

/-- The cache does not show. Two servers start with an empty store in memory, one with an empty cache in the process that both
its services use, the other without a cache, and are otherwise alike: the same clock, limiter, request ids, secret and salts.
Whatever operations are carried out and whatever requests arrive, in any order and with any time in between, both give the same
answers, status, fields and body, and in the end they differ in cache and log at most. -/
theorem cache_does_not_show (s : Site) (w : World) (events : List Event) :
    let start : World := { w with storage := .memory {}, failing := [] }
    let cached := respond (s.caching true) events { start with caching := .inProcess {} }
    let uncached := respond (s.caching false) events { start with caching := .absent }
    cached.1 = uncached.1 ∧ cached.2.SameButCache uncached.2 := by
  intro start cached uncached
  have hstart : World.Mirrored { start with caching := .inProcess {} } { start with caching := .absent } :=
    ⟨⟨{}, rfl, rfl, {}, rfl, Agrees.empty _ _⟩, .absent, _, rfl⟩
  obtain ⟨hreplies, hend⟩ := respond_mirrored s events hstart
  exact ⟨hreplies, hend.same⟩

end Http
end Roster
