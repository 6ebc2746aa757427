import Roster.Proofs.FailureTexts

/-!
# Failures stay inside

When an operation of the store has been made to fail, whoever asks for something that needs it is answered with 500; the routes
drop no such fault, except that for batches, which looks up who is asking before. When an operation of the cache has been made
to fail, that is noted in the log and otherwise has no part in the answer.

Main statement: these two facts, and that the texts that operations fail with do not show.
-/

namespace Roster

open Program

/-! ## The store fails -/

/-- A call of the store whose operation has been made to fail. -/
def Call.Refused (c : Call) (w : World) : Prop := c.toStore = true ∧ w.Fails c

theorem Call.Plain.not_refused {c : Call} (h : c.Plain) (w : World) : ¬c.Refused w := fun hr => World.not_fails_of_plain h hr.2

section Breaks

variable {unlisted unlisted' : Fault → Bool} {c : Call}

theorem Call.Breaks.mono (hu : ∀ f, unlisted f = true → unlisted' f = true) {x : c.Answer} (h : c.Breaks unlisted x) :
    c.Breaks unlisted' x := by
  cases c with
  | findAll =>
    cases x with
    | error f => exact hu f h
    | ok _ => exact h
  | findById _ | findByEmail _ | save _ | delete _ =>
    cases x with
    | error f => exact h
    | ok _ => exact h
  | _ => exact h

/-- A failing operation of the store is answered with a fault that clients are not told about. -/
theorem World.Fails.breaks {w : World} (h : w.Fails c) (hc : c.toStore = true)
    (hu : ∀ f : Fault, f.telling = false → unlisted f = true) : c.Breaks unlisted (World.answer c w).1 := by
  obtain ⟨f, hf, hx, -⟩ := h.answer
  generalize (World.answer c w).1 = x at hx
  cases c with
  | findById _ | findByEmail _ | save _ | delete _ =>
    obtain rfl := Option.some.inj hx
    exact hf
  | findAll =>
    obtain rfl := Option.some.inj hx
    exact hu f hf
  | _ => cases hc

namespace SignIn

variable (s : SignIn)

/-- A password is not set once the store has broken. -/
theorem setPassword_after (id : UInt64) (password : Text) :
    After (Call.Breaks unlisted) Untold (s.setPassword id password).run := by
  rw [run_setPassword]
  split
  · trivial
  · intro r
    rcases r with f | _ | u
    · exact ⟨fun h => h, fun _ => trivial⟩
    · exact ⟨False.elim, fun _ => trivial⟩
    · refine ⟨False.elim, fun _ salt => ⟨False.elim, fun _ => ?_⟩⟩
      dsimp only
      split
      · trivial
      · intro r
        cases r with
        | error f => exact ⟨fun h => h, fun _ => trivial⟩
        | ok _ =>
          refine ⟨False.elim, fun _ => .of_only ?_⟩
          exact (not_breaks_of_idle (Users.forget_idle s.cached id)).bind fun _ => trivial

/-- Once the cache is called, a password has been set. -/
theorem setPassword_forgets_last (id : UInt64) (password : Text) :
    After (fun (c : Call) _ => c.toCache = true) (fun r => r = .ok ()) (s.setPassword id password).run := by
  rw [run_setPassword]
  split
  · trivial
  · intro r
    refine ⟨Bool.noConfusion, fun _ => ?_⟩
    rcases r with f | _ | u
    · trivial
    · trivial
    · refine fun salt => ⟨Bool.noConfusion, fun _ => ?_⟩
      dsimp only
      split
      · trivial
      · intro r
        refine ⟨Bool.noConfusion, fun _ => ?_⟩
        cases r with
        | error f => trivial
        | ok _ => exact Ends.after (Ends.bind _ fun _ => rfl)

end SignIn

end Breaks

/-! ## Requests -/

namespace Http

section After

variable {α : Type} {T : (c : Call) → c.Answer → Prop} (hT : ∀ c, c.Plain → ∀ x, ¬T c x)

include hT

/-- Answering with a fault makes no call that decides anything. -/
theorem orFault_after {Q : Except Fault α → Prop} {Q' : Reply → Prop} (v : Visit) (activity : Text) {t : Task α}
    {next : α → Act Reply} (ht : After T Q t.run) (hok : ∀ a, Q (.ok a) → Ends Q' (next a))
    (hfault : ∀ f, Q (.error f) → Ends Q' (faultReply v.requestId activity f)) (hn : ∀ a, After T Q' (next a)) :
    After T Q' (orFault v activity t next) := by
  refine ht.bind (fun r hr => ?_) fun r => ?_
  · cases r with
    | ok a => exact hok a hr
    | error f => exact hfault f hr
  · cases r with
    | ok a => exact hn a
    | error f => exact .of_only ((faultReply_plain _ _ f).mono hT)

end After

theorem Endpoint.unlisted_of_untold (e : Endpoint) {f : Fault} (h : f.telling = false) : e.unlisted f = true := by
  cases e with
  | rosterPage | rosterStream => exact Fault.unpaged_of_untold h
  | _ => exact Fault.unlisted_iff.mpr h

theorem Endpoint.unpaged_of_unlisted (e : Endpoint) {f : Fault} (h : e.unlisted f = true) : f.unpaged = true := by
  cases e with
  | rosterPage | rosterStream => exact h
  | _ => exact Fault.unpaged_of_untold (Fault.unlisted_iff.mp h)

/-- Once the store has broken, an endpoint other than that for batches answers that something went wrong. -/
theorem serveGuarded_after (s : Site) (v : Visit) {e : Endpoint} (hbatch : e ≠ .batch) :
    After (Call.Breaks e.unlisted) Reply.Failed (e.serveGuarded s v) := by
  by_cases he : e = .setPassword
  · subst he
    have hplain : ∀ c : Call, c.Plain → ∀ x, ¬c.Breaks (Endpoint.unlisted .setPassword) x := fun _ hc => Call.not_breaks hc.1
    have hfault : ∀ {v : Visit} {activity : Text} (f : Fault), f.telling = false →
        Ends Reply.Failed (faultReply v.requestId activity f) := fun f hf => faultReply_untold hf _ _
    refine orFault_after hplain v _ (s.signIn.authenticate_blames _ _).after (fun _ => False.elim) hfault fun u => ?_
    split
    · refine orFault_after hplain _ _ (Q := Untold) trivial (fun _ => False.elim) hfault fun id => ?_
      refine orFault_after hplain _ _ (Q := Untold) trivial (fun _ => False.elim) hfault fun b => ?_
      exact orFault_after hplain _ _ (s.signIn.setPassword_after id b.password) (fun _ => False.elim) hfault fun _ => trivial
    · exact .of_only ((faultReply_plain _ _ _).mono hplain)
  · exact (serveGuarded_blames s v hbatch he).after

/-- A batch is fetched by look-ups, and who asks for it has been looked up before. -/
theorem failed_of_refused_batch {s : Site} {v : Visit} {w : World}
    (h : Meets World.answer Call.Refused (Endpoint.batch.serveGuarded s v) w) :
    (w.run (Endpoint.batch.serveGuarded s v)).1.Failed := by
  obtain h | h := meets_bind.mp h
  · refine failed_orFault.mpr (.inl ((s.signIn.authenticate_blames Fault.unlisted _).run_iff.mpr ?_))
    exact h.mono_keeping (K := fun _ => True) (fun _ _ _ => trivial)
      (fun c u _ hr => hr.2.breaks hr.1 fun f => Fault.unlisted_iff.mpr) trivial
  · exfalso
    generalize hauth : (Program.run World.answer (s.signIn.authenticate (requestToken v.request)).run w).1 = a at h
    cases a with
    | error f => exact not_meets_of_plain (fun _ v hc => hc.not_refused v) (faultReply_plain _ _ f) _ h
    | ok u =>
      obtain ⟨i, -, hstored, -⟩ := World.of_authenticate hauth
      have hworks : ¬w.Fails (.findById i.id) := by
        intro hf
        obtain ⟨f, -, hx, -⟩ := hf.answer
        cases (Option.some.inj hx).trans hstored
      have hbatch : Only (fun c : Call => c.Plain ∨ ∃ id, c = .findById id) (batch s { v with user := some u }) :=
        batch_only (fun _ => .inl) (fun id => .inr ⟨id, rfl⟩) s _
      refine hbatch.not_meets (K := fun u => u.failing = w.failing) (fun c u _ hu => (World.answer_failing c u).trans hu) ?_ ?_ h
      · rintro c u (hc | ⟨id, rfl⟩) hu hr
        · exact hc.not_refused u hr
        · exact hworks ((World.Fails.congr hu).mp hr.2)
      · exact World.run_failing w _

/-- A failing operation of the store is answered with 500. -/
theorem failed_of_refused {s : Site} {r : Request} {w : World} (h : Meets World.answer Call.Refused (serve s r) w) :
    (w.run (serve s r)).1.Failed := by
  obtain ⟨id, hid⟩ := run_requestId r w
  replace h := meets_dispatch (fun _ v hc => hc.not_refused v) hid h
  unfold Reply.Failed
  rw [(run_serve_of_id hid s).1]
  cases hr : r.route? with
  | none => exact absurd h (not_meets_of_plain (fun _ v hc => hc.not_refused v) (dispatch_plain hr s id) w)
  | some route =>
    obtain ⟨e, segment⟩ := route
    rw [dispatch_of_route hr] at h ⊢
    by_cases hbatch : e = .batch
    · subst hbatch
      exact failed_of_refused_batch h
    · refine (serveGuarded_after s _ hbatch).of_meets ?_
      exact h.mono_keeping (K := fun _ => True) (fun _ _ _ => trivial)
        (fun c v _ hr => hr.2.breaks hr.1 fun f => e.unlisted_of_untold) trivial

/-- Once the cache is called, a password has been set. -/
theorem setPassword_cache_last (s : Site) (v : Visit) :
    After (fun (c : Call) _ => c.toCache = true) (fun reply => ¬reply.Failed) (Endpoint.setPassword.serveGuarded s v) := by
  have hplain : ∀ c : Call, c.Plain → ∀ _ : c.Answer, ¬c.toCache = true := fun c hc _ => by
    rw [hc.2]
    exact Bool.noConfusion
  have hquiet : ∀ c : Call, c.Quiet → ∀ _ : c.Answer, ¬c.toCache = true := fun c hc _ => by
    rw [Call.toCache_of_idle hc.2]
    exact Bool.noConfusion
  refine orFault_after hplain v _ (Q := fun _ => False) (.of_only ((s.signIn.authenticate_quiet _).mono hquiet))
    (fun _ => False.elim) (fun _ => False.elim) fun u => ?_
  split
  · refine orFault_after hplain _ _ (Q := fun _ => False) trivial (fun _ => False.elim) (fun _ => False.elim) fun id => ?_
    refine orFault_after hplain _ _ (Q := fun _ => False) trivial (fun _ => False.elim) (fun _ => False.elim) fun b => ?_
    refine orFault_after hplain _ _ (s.signIn.setPassword_forgets_last id b.password) (fun _ _ hf => ?_) (fun _ hf => ?_)
      fun _ => trivial
    · cases hf
    · cases hf
  · exact .of_only ((faultReply_plain _ _ _).mono hplain)

/-- A batch is fetched without the cache, and a password that is not set leaves the cache alone. -/
theorem cache_untouched {s : Site} {v : Visit} {e : Endpoint} (he : e = .batch ∨ e = .setPassword) {w : World}
    (h : (w.run (e.serveGuarded s v)).1.Failed) :
    ¬Meets World.answer (fun (c : Call) _ => c.toCache = true) (e.serveGuarded s v) w := by
  obtain rfl | rfl := he
  · have hquiet := (s.signIn.authenticate_quiet (requestToken v.request)).mono fun c hc => Call.toCache_of_idle hc.2
    have honly : Only (fun c : Call => c.toCache = false) (Endpoint.batch.serveGuarded s v) :=
      orFault_only (fun _ hc => hc.2) v _ hquiet fun u => batch_only (fun _ hc => hc.2) (fun _ => rfl) s _
    refine honly.not_meets (K := fun _ => True) (fun _ _ _ _ => trivial) (fun c _ hc _ hcache => ?_) trivial
    rw [hc] at hcache
    cases hcache
  · exact fun hm => (setPassword_cache_last s v).of_meets hm h

/-- If only operations of the cache fail and something goes wrong, then the store has broken, or it goes wrong without them
failing as well. -/
theorem breaks_or_failed {s : Site} {r : Request} {w : World} (hcache : ∀ c, w.Fails c → c.toCache = true)
    (h : (w.run (serve s r)).1.Failed) :
    Meets World.answer (fun c v => Call.Breaks Fault.unpaged c (World.answer c v).1) (serve s r) w ∨
      ((w.withFailing []).run (serve s r)).1.Failed := by
  obtain ⟨id, hid⟩ := run_requestId r w
  have hfailed := h
  unfold Reply.Failed at hfailed
  rw [(run_serve_of_id hid s).1] at hfailed
  cases hr : r.route? with
  | none => exact absurd hfailed ((dispatch_ordinary hr s id).of_run World.answer w).not_failed
  | some route =>
    obtain ⟨e, segment⟩ := route
    rw [dispatch_of_route hr] at hfailed
    by_cases he : e = .batch ∨ e = .setPassword
    · refine .inr ?_
      have hnone : ∀ (c : Call) (v : World), ¬(v.withFailing []).Fails c := fun c v hf => by
        obtain ⟨p, t, -, ht⟩ := hf
        cases ht
      rw [World.run_withFailing fun hm => ?_]
      · exact h
      · refine cache_untouched he hfailed ?_
        replace hm := meets_dispatch (fun c v hc hf => hf.elim (World.not_fails_of_plain hc) (hnone c v)) hid hm
        rw [dispatch_of_route hr] at hm
        refine hm.mono_keeping (K := fun v => v.failing = w.failing) (fun c v hv => (World.answer_failing c v).trans hv) ?_ rfl
        rintro c v hv (hf | hf)
        · exact hcache c ((World.Fails.congr hv).mp hf)
        · exact absurd hf (hnone c v)
    · obtain ⟨hbatch, hpassword⟩ := not_or.mp he
      have hbreaks := (serveGuarded_blames s _ hbatch hpassword).run_iff.mp hfailed
      rw [← dispatch_of_route hr] at hbreaks
      refine .inl (meets_serve hid (hbreaks.mono_keeping (K := fun _ => True) (fun _ _ _ => trivial) ?_ trivial))
      exact fun c v _ hb => hb.mono fun f => e.unpaged_of_unlisted

/-- What goes wrong inside stays inside. In two worlds where the same operations of store and cache fail, with any texts, a
request gets the same answer, status, fields and body, and leaves two such worlds. If a failing operation of the store is called
while the request is served, the answer is 500. If only operations of the cache fail, an answer of 500 or more means that the
store itself has broken, or that the answer is 500 or more where nothing has been made to fail. -/
theorem failures_stay_inside (s : Site) (r : Request) (w : World) :
    (∀ w', w.SameButTexts w' →
      (w'.run (serve s r)).1 = (w.run (serve s r)).1 ∧ (w'.run (serve s r)).2.body = (w.run (serve s r)).2.body ∧
        (w.run (serve s r)).2.SameButTexts (w'.run (serve s r)).2) ∧
    (Meets World.answer Call.Refused (serve s r) w → (w.run (serve s r)).1.status = 500) ∧
    ((∀ c, w.Fails c → c.toCache = true) → 500 ≤ (w.run (serve s r)).1.status →
      Meets World.answer (fun c v => Call.Breaks Fault.unpaged c (World.answer c v).1) (serve s r) w ∨
        500 ≤ ((w.withFailing []).run (serve s r)).1.status) := by
  refine ⟨fun w' hw => ?_, failed_of_refused, fun hcache herror => ?_⟩
  · obtain ⟨hreply, hworld⟩ := World.run_veiled (request_veiled s r) hw
    exact ⟨hreply.symm, hworld.body, hworld⟩
  · have hfailed : (w.run (serve s r)).1.Failed := by
      refine ((request_known s r).of_run World.answer w).resolve_left fun hordinary => ?_
      unfold Reply.Ordinary at hordinary
      unfold World.run at herror
      omega
    exact (breaks_or_failed hcache hfailed).imp_right fun hf => Nat.le_of_eq hf.symm

/-- Whoever asks with a token that is good is looked up. -/
theorem meets_look_up {T : Call → World → Prop} {s : Site} {r : Request} {e : Endpoint} {segment : Text}
    (hr : r.route? = some (e, segment)) (he : e.audience ≠ .everybody) {w : World} {i : SignIn.Identity}
    (hi : s.signIn.identity? w.now (requestToken r) = some i) (hT : T (.findById i.id) w) :
    Meets World.answer T (serve s r) w := by
  have hauth : Meets World.answer T (s.signIn.authenticate (requestToken r)).run w := by
    have hnow : World.answer .now w = (w.now, w) := rfl
    rw [SignIn.run_authenticate]
    refine .inr ?_
    rw [hnow]
    dsimp only
    rw [hi]
    exact .inl hT
  obtain ⟨id, hid⟩ := run_requestId r w
  refine meets_serve hid ?_
  rw [dispatch_of_route hr]
  unfold Endpoint.serveGuarded
  split
  · exact absurd ‹_› he
  · exact meets_bind.mpr (.inl hauth)
  · exact meets_bind.mpr (.inl hauth)

/-- Users cannot be looked up for one of two reasons. Whoever asks for the list gets the same answer, 500, and not the
reason. -/
theorem failed_look_up_is_hidden :
    let s : Site :=
      { signIn := { secret := "key", passwords := Password.salted 4, cached := true }, cached := true, cookieSecure := false,
        counterDelay := 0 }
    let ann : User := { id := 1, name := "Ann", email := "ann@example.com", role := "viewer" }
    let w : World :=
      { clock := 0, storage := .memory { users := [ann] }, caching := .inProcess {},
        failing := [(.cacheGet, "no route to host"), (.findById, "disk full")] }
    let w' : World := w.withFailing [(.cacheGet, "broken pipe"), (.findById, "password authentication failed")]
    let r : Request :=
      { method := "GET", rawTarget := "/api/users"
        target := { path := "/api/users", escapedPath := "/api/users", query := [] }
        headers := [⟨"Authorization", utf8 "Bearer " ++
          Token.sign s.signIn.secret "\x7b\"alg\":\"HS256\"\x7d" "\x7b\"role\":\"viewer\",\"sub\":\"1\"\x7d"⟩] }
    (w.run (serve s r)).1.status = 500 ∧ (w'.run (serve s r)).1 = (w.run (serve s r)).1 ∧
      (w'.run (serve s r)).2.body = (w.run (serve s r)).2.body := by
  intro s ann w w' r
  have hroute : r.route? = some (.listUsers, []) := by
    have hclean : cleanPath (utf8 "/api/users") = utf8 "/api/users" := by decide +kernel
    have hcleaned : r.cleaned = utf8 "/api/users" := hclean
    have hfound : findRoute? (utf8 "GET") (pathSegments (utf8 "/api/users")) = some (.listUsers, []) := by decide +kernel
    unfold Request.route?
    rw [hcleaned, if_neg (by decide), if_neg (by decide)]
    exact hfound
  have hidentity : s.signIn.identity? w.now (requestToken r) = some ⟨1, .viewer⟩ := by
    have hheader : Token.algorithm? "\x7b\"alg\":\"HS256\"\x7d" = some Token.algorithm := by decide +kernel
    have hclaims : Token.claims? "\x7b\"role\":\"viewer\",\"sub\":\"1\"\x7d" = some { role := "viewer", subject := "1" } := by
      decide +kernel
    rw [requestToken_bearer rfl]
    exact SignIn.identity?_sign hheader hclaims rfl rfl rfl
  have hfails : Call.Refused (.findById 1) w := ⟨rfl, .findById, "disk full", rfl, rfl⟩
  have hsame : w.SameButTexts w' := ⟨_, _, rfl, rfl⟩
  clear_value s w w' r
  obtain ⟨htexts, hrefused, -⟩ := failures_stay_inside s r w
  obtain ⟨hreply, hbody, -⟩ := htexts w' hsame
  exact ⟨hrefused (meets_look_up hroute (by decide) hidentity hfails), hreply, hbody⟩

end Http

end Roster
