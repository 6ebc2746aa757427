import Roster.Proofs.CacheTransparency
import Roster.Proofs.FailedOperations
import Roster.Proofs.Statuses

/-!
# When a healthy server fails

A server is healthy if its users are in memory, nothing has been made to fail, and whoever asks is still waiting. Such a server
answers with an internal error in one case only: an admin sets a password for a stored user that passes the check of its length,
which counts characters, and has more bytes than can be hashed.
-/

namespace Roster

open Program

/-! ## Stores in memory do not break -/

namespace World

/-- Users are in memory, and nothing has been made to fail. -/
structure Sturdy (w : World) : Prop where
  storage : ∃ m, w.storage = .memory m
  failing : w.failing = []

namespace Sturdy

variable {w : World}

/-- In a sturdy world nothing has been made to fail. -/
theorem works (h : w.Sturdy) (p : Point) : w.failure? p = none := by
  rw [failure?, h.failing]
  rfl

/-- A call leaves a sturdy world sturdy. -/
theorem answer (h : w.Sturdy) (c : Call) : (World.answer c w).2.Sturdy := by
  refine ⟨?_, (answer_failing c w).trans h.failing⟩
  obtain ⟨m, hm⟩ := h.storage
  cases hc : c.writes? with
  | none => exact ⟨m, (answer_storage hc w).trans hm⟩
  | some id =>
    have hsame := answer_sameExcept hc w
    cases hs : (World.answer c w).2.storage with
    | memory m' => exact ⟨m', rfl⟩
    | database db =>
      rw [hm, hs] at hsame
      exact hsame.elim

/-- A program leaves a sturdy world sturdy. -/
theorem run {α : Type} (h : w.Sturdy) (p : Act α) : (w.run p).2.Sturdy :=
  (only_true p).run_keeps (fun c _ _ hv => hv.answer c) h

/-- A store in memory fails only to remove a user who is not there, and clients are told so. -/
theorem not_breaks (h : w.Sturdy) (unlisted : Fault → Bool) (c : Call) : ¬c.Breaks unlisted (World.answer c w).1 := by
  obtain ⟨m, hm⟩ := h.storage
  cases c with
  | findById id =>
    rw [answer_findById hm (h.works _)]
    exact False.elim
  | findByEmail email =>
    have hok : (World.answer (.findByEmail email) w).1 = .ok (m.findEmail? email) := by
      simp only [World.answer, onStore, h.works, hm]
    rw [hok]
    exact False.elim
  | save u =>
    rw [answer_save hm (h.works _)]
    exact False.elim
  | delete id =>
    rw [answer_delete hm (h.works _)]
    cases hu : m.find? id with
    | some u => exact fun hbreaks => by rw [Store.Memory.delete_stored hu] at hbreaks; exact hbreaks
    | none =>
      intro hbreaks
      rw [Store.Memory.delete_absent hu] at hbreaks
      cases hbreaks
  | findAll =>
    have hok : (World.answer .findAll w).1 = .ok m.users := by
      simp only [World.answer, onStore, h.works, hm]
    rw [hok]
    exact False.elim
  | _ => exact Call.not_breaks rfl _

/-- In a sturdy world the store does not break. -/
theorem not_meets {α : Type} (h : w.Sturdy) (unlisted : Fault → Bool) (p : Act α) :
    ¬Meets World.answer (fun c v => Call.Breaks unlisted c (World.answer c v).1) p w :=
  (only_true p).not_meets (K := Sturdy) (fun c _ _ hv => hv.answer c) (fun c _ _ hv => hv.not_breaks unlisted c) h

/-- Who asks is found out without a fault that clients are not told about. -/
theorem authenticate_told (h : w.Sturdy) (s : SignIn) (token : Text) : ¬Untold (w.attempt (s.authenticate token)).1 :=
  fun hf => h.not_meets Fault.unlisted _ ((s.authenticate_blames Fault.unlisted token).run_iff.mp hf)

end Sturdy

end World

/-! ## Passwords that cannot be hashed -/

/-- A password that is not too long can be hashed, at any cost that is allowed. -/
theorem Password.hash_ok {cost : Int} (hcost : cost ≤ maxCost) {password : Text} (h : password.length ≤ maxLength)
    (salt : Text) : ∃ t, hash cost salt password = .ok t := by
  have hshort : ¬password.length > maxLength := Nat.not_lt.mpr h
  have hallowed : allowed (if cost < minCost then defaultCost else cost) = true := by
    unfold allowed
    simp only [Bool.and_eq_true, decide_eq_true_eq]
    split
    · decide
    · exact ⟨Int.not_lt.mp ‹_›, hcost⟩
  unfold hash
  rw [if_neg hshort]
  dsimp only
  rw [if_neg (by rw [hallowed]; exact Bool.noConfusion)]
  exact ⟨_, rfl⟩

/-- Over a store in memory, setting a password fails for a reason that clients are not told exactly if there is somebody to set
it for and it is too long to be hashed. -/
theorem SignIn.untold_setPassword {s : SignIn} {cost : Int} (hcost : cost ≤ Password.maxCost)
    (hs : s.passwords = Password.salted cost) {w : World} {m : Store.Memory} (hm : w.storage = .memory m) (hw : w.failing = [])
    (id : UInt64) (password : Text) :
    Untold (w.attempt (s.setPassword id password)).1 ↔
      (∃ u, m.find? id = some u) ∧ Password.maxLength < password.length := by
  have hworks : ∀ p, w.failure? p = none := fun p => by rw [World.failure?, hw]; rfl
  rw [World.attempt, World.run, run_setPassword]
  split
  · rename_i hshort
    refine iff_of_false (not_untold rfl) ?_
    rintro ⟨-, hlong⟩
    have hlt : Fault.minPasswordLength < Password.maxLength := by decide
    omega
  · rw [run_call, World.answer_findById hm (hworks _)]
    cases m.find? id with
    | none =>
      refine iff_of_false (not_untold rfl) ?_
      rintro ⟨⟨u, hu⟩, -⟩
      cases hu
    | some u =>
      dsimp only
      rw [run_call]
      simp only [Option.some.injEq, exists_eq', true_and]
      by_cases hlong : Password.maxLength < password.length
      · have hhash : ∀ salt, s.passwords.hash salt password = .error .passwordLong := by
          intro salt
          rw [hs]
          exact if_pos hlong
        rw [hhash]
        exact iff_of_true rfl hlong
      · obtain ⟨hash, hhash⟩ := Password.hash_ok hcost (Nat.not_lt.mp hlong) (World.answer .salt w).1
        have hsalted : s.passwords.hash (World.answer .salt w).1 password = .ok hash := by
          rw [hs]
          exact hhash
        have hstorage : (World.answer .salt w).2.storage = .memory m := hm
        rw [hsalted]
        dsimp only
        rw [run_call, World.answer_save hstorage (hworks .save)]
        dsimp only
        rw [run_bind]
        exact iff_of_false False.elim hlong

/-! ## Batches -/

namespace Batch

/-- Clients are told that nobody was found. -/
theorem gather_told {slots : List (Option User)} : ¬Untold (gather slots) := by
  unfold gather
  split
  · exact not_untold rfl
  · exact False.elim

/-- A batch fails for a reason that clients are not told only when its caller has given up. -/
theorem gave_up_of_untold {f : Fetcher} {ids : List UInt64} {w : World} (h : Untold (w.attempt (run f ids)).1) :
    Meets World.answer (fun _ v => v.patience ≠ .ok ()) (run f ids).run w := by
  rw [World.attempt, World.run, run_run] at h
  rw [run_run]
  split at h
  · exact absurd h (not_untold rfl)
  · rename_i hne
    rw [if_neg hne]
    rw [run_bind, run_call] at h
    refine meets_bind.mpr (.inr (.inl fun hpatience => ?_))
    have hanswer : ∀ v : World, World.answer .patience v = (v.patience, v) := fun _ => rfl
    rw [hanswer, hpatience] at h
    exact gather_told h

end Batch

namespace World

/-- On a run of a program its caller gives up. -/
def Lapses {α : Type} (w : World) (p : Act α) : Prop := Meets answer (fun _ v => v.patience ≠ .ok ()) p w

/-- A caller without a deadline who has not given up waits for everything. -/
theorem not_lapses {α : Type} {w : World} (hc : w.canceled = false) (hd : w.deadline = none) (p : Act α) : ¬w.Lapses p := by
  refine (only_true p).not_meets (K := fun v => v.terms.2 = w.terms.2) (fun c v _ hv => ?_) (fun c v _ hv hlapsed => hlapsed ?_) rfl
  · rw [answer_terms]
    exact hv
  · have hterms : v.canceled = false ∧ v.deadline = none := by simpa [terms, hc, hd] using hv
    simp [patience, hterms]

theorem attempt_ofExcept {α : Type} (w : World) (r : Except Fault α) : w.attempt (Task.ofExcept r) = (r, w) := rfl

/-- Over a healthy store a token is good for the active user that the store has now. -/
theorem authenticate_ok_iff {s : SignIn} {token : Text} {w : World} {m : Store.Memory} (hm : w.storage = .memory m)
    (hw : w.failing = []) {u : User} :
    (w.attempt (s.authenticate token)).1 = .ok u ↔
      ∃ i, s.identity? w.now token = some i ∧ m.find? i.id = some u ∧ u.active = true := by
  constructor
  · intro h
    obtain ⟨i, hi, hu, hactive⟩ := of_authenticate h
    have hfind := answer_findById hm (by rw [failure?, hw]; rfl) i.id
    rw [stored, hfind] at hu
    refine ⟨i, ?_, Except.ok.inj hu, hactive⟩
    rw [attempt_validate] at hi
    split at hi
    · cases hi
    · rename_i hidentity
      obtain rfl := Except.ok.inj hi
      exact hidentity
  · rintro ⟨i, hi, hu, hactive⟩
    rw [attempt_authenticate_memory hm hw hi hu hactive]

end World

namespace Http

/-! ## Requests that fail -/

section Failed

variable {α : Type} {w : World} {v : Visit} {activity : Text} {t : Task α} {next : α → Act Reply}

/-- If the failures of a task and of what follows it are met by calls of a kind, so are those of the answer. -/
theorem meets_of_failed_orFault {T : Call → World → Prop} (ht : Untold (w.attempt t).1 → Meets World.answer T t.run w)
    (hn : ∀ a u, (World.run u (next a)).1.Failed → Meets World.answer T (next a) u)
    (h : (w.run (orFault v activity t next)).1.Failed) : Meets World.answer T (orFault v activity t next) w := by
  refine meets_bind.mpr ?_
  obtain huntold | ⟨a, ha, hfailed⟩ := failed_orFault.mp h
  · exact .inl (ht huntold)
  · refine .inr ?_
    have hrun : (Program.run World.answer t.run w).1 = .ok a := ha
    rw [hrun]
    exact hn a _ hfailed

/-- A result whose faults are told leads to an internal error only by what follows it. -/
theorem failed_ofExcept {r : Except Fault α} (hr : ∀ f, r = .error f → f.telling = true) :
    (w.run (orFault v activity (Task.ofExcept r) next)).1.Failed ↔ ∃ a, r = .ok a ∧ (w.run (next a)).1.Failed := by
  rw [failed_orFault, World.attempt_ofExcept]
  refine or_iff_right fun huntold => ?_
  cases r with
  | ok a => exact huntold
  | error f => exact not_untold (hr f rfl) huntold

end Failed

/-- An answer in JSON with another status is no internal error. -/
theorem not_failed_json {status : Nat} (h : status ≠ 500) (x : Json) (w : World) : ¬(w.run (json status x)).1.Failed :=
  fun hf => h (((json_ends status x).of_run World.answer w).symm.trans hf)

/-- Fetching a batch fails only when its caller has given up. -/
theorem lapses_of_failed_batch {s : Site} {v : Visit} {w : World} (h : (w.run (batch s v)).1.Failed) : w.Lapses (batch s v) := by
  refine meets_of_failed_orFault (fun huntold => ?_) (fun b u => ?_) h
  · rw [World.attempt_ofExcept] at huntold
    cases hread : BatchIds.body.read v.request.body with
    | ok b => exact (hread ▸ huntold : Untold (.ok b)).elim
    | error f => exact absurd (hread ▸ huntold) (not_untold (Body.read_told hread))
  · exact meets_of_failed_orFault Batch.gave_up_of_untold fun users u hf => absurd hf (not_failed_json (by decide) _ u)

/-- Behind the guard, every endpoint but that for passwords fails only when its caller has given up. -/
theorem lapses_of_failed_guarded {s : Site} {v : Visit} {e : Endpoint} {w : World} (hw : w.Sturdy) (he : e ≠ .setPassword)
    (h : (w.run (e.serveGuarded s v)).1.Failed) : w.Lapses (e.serveGuarded s v) := by
  by_cases hbatch : e = .batch
  · subst hbatch
    exact meets_of_failed_orFault (fun huntold => absurd huntold (hw.authenticate_told _ _))
      (fun u u' => lapses_of_failed_batch) h
  · exact absurd ((serveGuarded_blames s v hbatch he).run_iff.mp h) (hw.not_meets _ _)

/-- A body that has been read meets the rules for its fields. -/
theorem Body.met_of_read {σ : Type} {b : Body σ} {t : Text} {a : σ} (h : b.read t = .ok a) {field : Text}
    {checks : List (Text × Bool)} (hfield : (field, checks) ∈ b.rules a) {rule : Text} {met : Bool} (hrule : (rule, met) ∈ checks) :
    met = true := by
  unfold Body.read at h
  split at h
  · cases h
  · split at h
    · rename_i hrules
      obtain rfl := Except.ok.inj h
      have hunbroken := Option.map_eq_none_iff.mp (List.filterMap_eq_nil_iff.mp hrules _ hfield)
      simpa using List.find?_eq_none.mp hunbroken _ hrule
    · cases h

/-- A password in a body has at most as many characters as a password may have bytes. -/
theorem NewPassword.count_of_read {t : Text} {b : NewPassword} (h : NewPassword.body.read t = .ok b) :
    b.password.count ≤ Password.maxLength := by
  have hmax : atMost 72 b.password ∈ [required b.password, atMost 72 b.password] := .tail _ (.head _)
  exact of_decide_eq_true (Body.met_of_read h (.head _) hmax)

/-- An active admin asks for a new password of a stored user, with no more characters than a password may have bytes, but with
more bytes. -/
def Request.OverlongPassword (r : Request) (s : SignIn) (now : Timestamp) (m : Store.Memory) : Prop :=
  ∃ segment id body i boss u, r.AsksFor .setPassword segment ∧ pathId segment = .ok id ∧
    NewPassword.body.read r.body = .ok body ∧
    s.identity? now (requestToken r) = some i ∧ m.find? i.id = some boss ∧ boss.active = true ∧
    boss.role = Role.admin.name ∧ m.find? id = some u ∧
    body.password.count ≤ Password.maxLength ∧ Password.maxLength < body.password.length

/-- Over a healthy store, setting a password fails on overlong ones only. -/
theorem failed_setPassword_iff {s : Site} {cost : Int} (hcost : cost ≤ Password.maxCost)
    (hs : s.signIn.passwords = Password.salted cost) {r : Request} {segment : Text}
    (hroute : r.route? = some (.setPassword, segment)) {w : World} {m : Store.Memory} (hm : w.storage = .memory m)
    (hw : w.failing = []) (requestId : Text) :
    (w.run (Endpoint.setPassword.serveGuarded s { request := r, segment, requestId })).1.Failed ↔
      r.OverlongPassword s.signIn w.now m := by
  have hasks : r.AsksFor .setPassword segment := Request.asksFor_iff.mpr ⟨hroute, rfl⟩
  have hsturdy : w.Sturdy := ⟨⟨m, hm⟩, hw⟩
  have hserve : ∀ v : Visit, v.segment = segment → v.request = r →
      ((w.run (setPassword s v)).1.Failed ↔ ∃ id, pathId segment = .ok id ∧
        ∃ b, NewPassword.body.read r.body = .ok b ∧ (∃ u, m.find? id = some u) ∧
          Password.maxLength < b.password.length) := by
    rintro v rfl rfl
    refine (failed_ofExcept fun f => pathId_told).trans (exists_congr fun id => and_congr_right fun _ => ?_)
    refine (failed_ofExcept fun f => Body.read_told).trans (exists_congr fun b => and_congr_right fun _ => ?_)
    rw [failed_orFault, SignIn.untold_setPassword hcost hs hm hw]
    refine or_iff_left ?_
    rintro ⟨_, -, hf⟩
    cases hf
  constructor
  · intro h
    obtain huntold | ⟨boss, hboss, hfailed⟩ := failed_orFault.mp h
    · exact absurd huntold (hsturdy.authenticate_told _ _)
    · obtain ⟨i, hi, hfind, hactive⟩ := (World.authenticate_ok_iff hm hw).mp hboss
      rw [World.attempt_authenticate_memory hm hw hi hfind hactive] at hfailed
      split at hfailed
      · rename_i hadmin
        obtain ⟨id, hid, b, hb, ⟨u, hu⟩, hlong⟩ := (hserve _ rfl rfl).mp hfailed
        exact ⟨segment, id, b, i, boss, u, hasks, hid, hb, hi, hfind, hactive, by simpa [User.isAdmin] using hadmin, hu,
          NewPassword.count_of_read hb, hlong⟩
      · exact absurd hfailed (not_failed_json (by decide) _ _)
  · rintro ⟨segment', id, b, i, boss, u, hasks', hid, hb, hi, hfind, hactive, hrole, hu, -, hlong⟩
    have hsame := hroute.symm.trans (Request.asksFor_iff.mp hasks').1
    simp only [Option.some.injEq, Prod.mk.injEq, true_and] at hsame
    subst hsame
    refine failed_orFault.mpr (.inr ⟨boss, (World.authenticate_ok_iff hm hw).mpr ⟨i, hi, hfind, hactive⟩, ?_⟩)
    rw [World.attempt_authenticate_memory hm hw hi hfind hactive, if_pos (by simpa [User.isAdmin] using hrole)]
    exact (hserve _ rfl rfl).mpr ⟨id, hid, b, hb, ⟨u, hu⟩, hlong⟩

/-! ## Requests that are refused -/

/-- Over users in memory, an answer with an error leaves them as they were. -/
def Spares (p : Act Reply) : Prop :=
  ∀ (w : World) (m : Store.Memory), w.storage = .memory m → 400 ≤ (w.run p).1.status → (w.run p).2.storage = w.storage

/-- A program that only reads spares the store. -/
theorem Spares.of_reads {p : Act Reply} (h : Only Call.Reads p) : Spares p := fun w _ _ _ => World.run_reads h w

section Spares

variable {α : Type} (v : Visit) (activity : Text) {t : Task α} {next : α → Act Reply}

/-- A task that only reads spares the store, if what follows it does. -/
theorem orFault_spares (ht : Only Call.Reads t.run) (hn : ∀ a, Spares (next a)) : Spares (orFault v activity t next) := by
  intro w m hm hs
  have hkept : (w.attempt t).2.storage = w.storage := World.run_reads ht w
  rw [run_orFault] at hs ⊢
  cases hr : (w.attempt t).1 with
  | ok a =>
    rw [hr] at hs
    exact (hn a _ m (hkept.trans hm) hs).trans hkept
  | error f => exact (World.run_reads (faultReply_reads _ _ f) _).trans hkept

/-- A change whose failures leave the users as they were, and whose success is not answered with an error. -/
theorem orFault_spares_of_echoes {p : Act (Except Fault α)} (ht : Echoes t.run p)
    (hn : ∀ a, Ends (fun reply => reply.status < 400) (next a)) : Spares (orFault v activity t next) := by
  intro w m hm hs
  rw [run_orFault] at hs ⊢
  cases hr : (w.attempt t).1 with
  | ok a =>
    rw [hr] at hs
    exact absurd ((hn a).of_run World.answer _) (Nat.not_lt.mpr hs)
  | error f =>
    have hruns := World.runs_attempt (fun _ _ => False) t w
    rw [hr] at hruns
    exact (World.run_reads (faultReply_reads _ _ f) _).trans (ht.of_runs hm hruns).1.storage

end Spares

/-- Every endpoint spares the store when it refuses. -/
theorem serve_spares (s : Site) (v : Visit) (e : Endpoint) : Spares (e.serve s v) := by
  have hok : ∀ x, Ends (fun reply => reply.status < 400) (json 200 x) := fun x =>
    (json_ends 200 x).mono fun reply hs => hs ▸ by decide
  have hdone : Ends (fun reply => reply.status < 400) (.done { status := 204 } : Act Reply) :=
    show 204 < 400 by decide
  by_cases he : e.audience = .admins
  · cases e with
    | putUser =>
      refine orFault_spares v _ trivial fun id => orFault_spares v _ trivial fun b => orFault_spares v _ trivial fun role => ?_
      exact orFault_spares_of_echoes v _ (Users.save_echoes s.cached _) fun _ => hok _
    | deleteUser =>
      exact orFault_spares v _ trivial fun id =>
        orFault_spares_of_echoes v _ (Users.delete_echoes s.cached id) fun _ => hdone
    | deactivateUser =>
      exact orFault_spares v _ trivial fun id =>
        orFault_spares_of_echoes v _ (Users.deactivate_echoes s.cached id) fun _ => hok _
    | setPassword =>
      exact orFault_spares v _ trivial fun id => orFault_spares v _ trivial fun b =>
        orFault_spares_of_echoes v _ (s.signIn.setPassword_echoes id b.password) fun _ => hdone
    | _ => cases he
  · exact .of_reads (serve_reads s v he)

/-- Every request that is refused spares the store. -/
theorem dispatch_spares (s : Site) (r : Request) (requestId : Text) : Spares (dispatch s r requestId) := by
  cases hr : r.route? with
  | none => exact .of_reads (reads_of_plain (dispatch_plain hr s requestId))
  | some route =>
    have hguard := reads_of_quiet (s.signIn.authenticate_quiet (requestToken r))
    rw [dispatch_of_route hr]
    unfold Endpoint.serveGuarded
    split
    · exact serve_spares s _ _
    · exact orFault_spares _ _ hguard fun u => serve_spares s _ _
    · refine orFault_spares _ _ hguard fun u => ?_
      split
      · exact serve_spares s _ _
      · exact .of_reads (faultReply_reads _ _ _)

/-! ## Healthy servers -/

/-- A healthy server stays healthy whatever happens. -/
theorem respond_sturdy (s : Site) (events : List Event) {w : World} (h : w.Sturdy) : (respond s events w).2.Sturdy := by
  induction events generalizing w with
  | nil => exact h
  | cons event rest ih =>
    cases event with
    | pass d => exact ih ⟨h.storage, h.failing⟩
    | operation o => exact ih (h.run _)
    | arrival a =>
      have hentered : (a.enter w).Sturdy := ⟨h.storage, h.failing⟩
      exact ih (hentered.run _)

/-- Who is still waiting for a healthy server's answer is told of a failure only about an overlong password. -/
theorem failed_iff {s : Site} {cost : Int} (hcost : cost ≤ Password.maxCost)
    (hs : s.signIn.passwords = Password.salted cost) {r : Request} {w : World} {m : Store.Memory} (hm : w.storage = .memory m)
    (hw : w.failing = []) (hwaits : ¬w.Lapses (serve s r)) :
    (w.run (serve s r)).1.Failed ↔ r.OverlongPassword s.signIn w.now m := by
  obtain ⟨id, hid⟩ := run_requestId r w
  have hstatus : (w.run (serve s r)).1.Failed ↔ (w.run (dispatch s r id)).1.Failed := by
    rw [Reply.Failed, (run_serve_of_id hid s).1, Reply.Failed]
  rw [hstatus]
  by_cases hasks : ∃ segment, r.AsksFor .setPassword segment
  · obtain ⟨segment, hasks⟩ := hasks
    have hroute := (Request.asksFor_iff.mp hasks).1
    rw [dispatch_of_route hroute]
    exact failed_setPassword_iff hcost hs hroute hm hw id
  · have hnot : ¬r.OverlongPassword s.signIn w.now m := by
      rintro ⟨segment, _, _, _, _, _, h, _⟩
      exact hasks ⟨segment, h⟩
    refine iff_of_false (fun hfailed => ?_) hnot
    cases hr : r.route? with
    | none => exact ((dispatch_ordinary hr s id).of_run World.answer w).not_failed hfailed
    | some route =>
      obtain ⟨e, segment⟩ := route
      have he : e ≠ .setPassword := by
        rintro rfl
        exact hasks ⟨segment, Request.asksFor_iff.mpr ⟨hr, rfl⟩⟩
      refine hwaits (meets_serve hid ?_)
      rw [dispatch_of_route hr] at hfailed ⊢
      exact lapses_of_failed_guarded ⟨⟨m, hm⟩, hw⟩ he hfailed

/-- A body that reads as a password is read without fault. -/
theorem NewPassword.read_eq_ok {t p : Text} (h : (NewPassword.body.read t).toOption.map NewPassword.password = some p) :
    NewPassword.body.read t = .ok ⟨p⟩ := by
  cases hread : NewPassword.body.read t with
  | error f =>
    rw [hread] at h
    cases h
  | ok b =>
    rw [hread] at h
    obtain rfl := Option.some.inj h
    rfl

/-- An admin sets a password of 25 characters and 75 bytes, and a server that nothing is wrong with fails. -/
theorem healthy_server_fails :
    let s : Site :=
      { signIn := { secret := "key", passwords := Password.salted 4, cached := true }, cached := true, cookieSecure := false,
        counterDelay := 0 }
    let boss : User := { id := 1, name := "Bo", email := "bo@example.com", role := "admin" }
    let ann : User := { id := 2, name := "Ann", email := "ann@example.com", role := "viewer" }
    let w : World := { clock := 0, storage := .memory { users := [boss, ann] }, caching := .inProcess {} }
    let r : Request :=
      { method := "PUT", rawTarget := "/api/users/2/password"
        target := { path := "/api/users/2/password", escapedPath := "/api/users/2/password", query := [] }
        headers := [⟨"Authorization", utf8 "Bearer " ++
          Token.sign s.signIn.secret "\x7b\"alg\":\"HS256\"\x7d" "\x7b\"role\":\"admin\",\"sub\":\"1\"\x7d"⟩]
        body := "\x7b\"password\":\"€€€€€€€€€€€€€€€€€€€€€€€€€\"\x7d" }
    w.Sturdy ∧ ¬w.Lapses (serve s r) ∧ (w.run (serve s r)).1.status = 500 := by
  intro s boss ann w r
  have hsturdy : w.Sturdy := ⟨⟨_, rfl⟩, rfl⟩
  have hwaits : ¬w.Lapses (serve s r) := World.not_lapses rfl rfl _
  refine ⟨hsturdy, hwaits, ?_⟩
  have hasks : r.AsksFor .setPassword "2" := by
    have hclean : cleanPath (utf8 "/api/users/2/password") = utf8 "/api/users/2/password" := by decide +kernel
    have hform : Endpoint.change? "2" .setPassword = some (utf8 "PUT", pathSegments (utf8 "/api/users/2/password")) := by
      decide +kernel
    exact ⟨show utf8 "/api/users/2/password" ≠ utf8 "*" by decide, hclean, by decide, hform⟩
  have hidentity : s.signIn.identity? w.now (requestToken r) = some ⟨1, .admin⟩ := by
    have hheader : Token.algorithm? "\x7b\"alg\":\"HS256\"\x7d" = some Token.algorithm := by decide +kernel
    have hclaims : Token.claims? "\x7b\"role\":\"admin\",\"sub\":\"1\"\x7d" = some { role := "admin", subject := "1" } := by
      decide +kernel
    rw [requestToken_bearer rfl]
    exact SignIn.identity?_sign hheader hclaims rfl rfl rfl
  have hid : pathId (utf8 "2") = .ok 2 := by decide +kernel
  have hread : NewPassword.body.read (utf8 "\x7b\"password\":\"€€€€€€€€€€€€€€€€€€€€€€€€€\"\x7d") =
      .ok ⟨utf8 "€€€€€€€€€€€€€€€€€€€€€€€€€"⟩ := NewPassword.read_eq_ok (by decide +kernel)
  have hbody : r.body = utf8 "\x7b\"password\":\"€€€€€€€€€€€€€€€€€€€€€€€€€\"\x7d" := rfl
  have hcount : (utf8 "€€€€€€€€€€€€€€€€€€€€€€€€€").count ≤ Password.maxLength := by decide +kernel
  have hlong : Password.maxLength < (utf8 "€€€€€€€€€€€€€€€€€€€€€€€€€").length := by decide +kernel
  have hboss : Store.Memory.find? { users := [boss, ann] } 1 = some boss := rfl
  have hann : Store.Memory.find? { users := [boss, ann] } 2 = some ann := rfl
  have hpasswords : s.signIn.passwords = Password.salted 4 := rfl
  have hstorage : w.storage = .memory { users := [boss, ann] } := rfl
  have hworks : w.failing = [] := rfl
  have hactive : boss.active = true := rfl
  have hrole : boss.role = Role.admin.name := rfl
  clear_value s w r boss ann
  generalize utf8 "€€€€€€€€€€€€€€€€€€€€€€€€€" = password at *
  refine (failed_iff (by decide) hpasswords hstorage hworks hwaits).mpr
    ⟨utf8 "2", 2, _, _, boss, ann, hasks, hid, hbody ▸ hread, hidentity, hboss, hactive, hrole, hann, hcount, hlong⟩

/-- A server with users in memory that nothing has been made to fail for, with a cost of hashing that is allowed. After any
history, a request whose client waits for the answer is answered with 500 exactly if an admin sets an overlong password by it.
Otherwise it is carried out, redirected or refused with a status from 400 to 499. No answer with an error has changed anything
that is stored. -/
theorem healthy_server_fails_on_overlong_passwords_only (s : Site) {cost : Int} (hcost : cost ≤ Password.maxCost)
    (hs : s.signIn.passwords = Password.salted cost) {w : World} (hw : w.Sturdy) (events : List Event) (a : Arrival)
    (hwaits : ¬(a.enter (respond s events w).2).Lapses (serve s a.request)) :
    let v := a.enter (respond s events w).2
    let answer := v.run (serve s a.request)
    ∃ m, v.storage = .memory m ∧
      (answer.1.status = 500 ↔ a.request.OverlongPassword s.signIn v.now m) ∧
      (answer.1.status ≠ 500 → answer.1.Ordinary) ∧
      (400 ≤ answer.1.status → answer.2.storage = v.storage) := by
  intro v answer
  obtain ⟨⟨m, hm⟩, hworks⟩ : v.Sturdy := by
    have hend := respond_sturdy s events hw
    exact ⟨hend.storage, hend.failing⟩
  obtain ⟨id, hstatus, hstorage⟩ := run_serve s a.request v
  refine ⟨m, hm, failed_iff hcost hs hm hworks hwaits, fun hne => ?_, fun herror => ?_⟩
  · exact ((request_known s a.request).of_run World.answer v).resolve_right hne
  · rw [hstatus] at herror
    rw [hstorage]
    exact dispatch_spares s a.request id v m hm herror

/-- With one character less, the password has as many bytes as it may have, and the server does not fail, even though the user
has been deactivated before. -/
theorem longest_password_does_not_fail :
    let s : Site :=
      { signIn := { secret := "key", passwords := Password.salted 4, cached := true }, cached := true, cookieSecure := false,
        counterDelay := 0 }
    let boss : User := { id := 1, name := "Bo", email := "bo@example.com", role := "admin" }
    let ann : User := { id := 2, name := "Ann", email := "ann@example.com", role := "viewer" }
    let w : World := { clock := 0, storage := .memory { users := [boss, ann] }, caching := .inProcess {} }
    let a : Arrival :=
      { request :=
          { method := "PUT", rawTarget := "/api/users/2/password"
            target := { path := "/api/users/2/password", escapedPath := "/api/users/2/password", query := [] }
            headers := [⟨"Authorization", utf8 "Bearer " ++
              Token.sign s.signIn.secret "\x7b\"alg\":\"HS256\"\x7d" "\x7b\"role\":\"admin\",\"sub\":\"1\"\x7d"⟩]
            body := "\x7b\"password\":\"€€€€€€€€€€€€€€€€€€€€€€€€\"\x7d" } }
    let v := a.enter (respond s [.operation (.deactivate 2), .pass 1000] w).2
    (v.run (serve s a.request)).1.status ≠ 500 ∧ (v.run (serve s a.request)).1.Ordinary := by
  intro s boss ann w a v
  have hread : NewPassword.body.read (utf8 "\x7b\"password\":\"€€€€€€€€€€€€€€€€€€€€€€€€\"\x7d") =
      .ok ⟨utf8 "€€€€€€€€€€€€€€€€€€€€€€€€"⟩ := NewPassword.read_eq_ok (by decide +kernel)
  have hbody : a.request.body = utf8 "\x7b\"password\":\"€€€€€€€€€€€€€€€€€€€€€€€€\"\x7d" := rfl
  have hshort : ¬Password.maxLength < (utf8 "€€€€€€€€€€€€€€€€€€€€€€€€").length := by decide +kernel
  have hpasswords : s.signIn.passwords = Password.salted 4 := rfl
  have hsturdy : w.Sturdy := ⟨⟨_, rfl⟩, rfl⟩
  have hwaits : ¬v.Lapses (serve s a.request) := World.not_lapses rfl rfl _
  clear_value s w a
  obtain ⟨m, -, hfails, hordinary, -⟩ :=
    healthy_server_fails_on_overlong_passwords_only s (by decide) hpasswords hsturdy _ a hwaits
  have hfine : (v.run (serve s a.request)).1.status ≠ 500 := by
    intro hfailed
    obtain ⟨_, _, b, _, _, _, _, _, hb, _, _, _, _, _, _, hlong⟩ := hfails.mp hfailed
    rw [hbody, hread] at hb
    obtain rfl := Except.ok.inj hb
    exact hshort hlong
  exact ⟨hfine, hordinary hfine⟩

end Http

end Roster
