import Roster.Proofs.Access

/-!
# Statuses

How a request is answered shows in the status. It was carried out or sent elsewhere, it was refused, or something went wrong in
the server. The last of these has one reason at almost every endpoint: a call of the store was answered with a fault of a kind
that clients are not told about. This is said once for each service and each endpoint (`Program.Blames`), and holds for every
store and every cache. Two endpoints are different. Setting a password may also fail because the password cannot be hashed, and
a batch goes on when users cannot be found, for whatever reason.
-/

namespace Roster

open Program

/-! ## Faults that clients are told about -/

/-- Whether a fault is of a kind that clients are told about. -/
def Fault.telling (f : Fault) : Bool := f.has .invalidInput || f.has .notFound || f.has .unauthorized || f.has .forbidden

/-- A result is a fault that clients are not told about. -/
def Untold {α : Type} : Except Fault α → Prop
  | .error f => f.telling = false
  | .ok _ => False

/-- A fault that clients are told about is not an untold one. -/
theorem not_untold {α : Type} {f : Fault} (h : f.telling = true) : ¬Untold (.error f : Except Fault α) := by
  rw [Untold, h]
  exact Bool.noConfusion

/-- A call of the store is answered with a fault that clients are not told about; which faults of a listing these are is
given. -/
def Call.Breaks (unlisted : Fault → Bool) : (c : Call) → c.Answer → Prop
  | .findById _, .error f | .findByEmail _, .error f | .save _, .error f | .delete _, .error f => f.telling = false
  | .findAll, .error f => unlisted f = true
  | _, _ => False

/-- The faults of a listing that the lists of users do not tell. -/
def Fault.unlisted (f : Fault) : Bool := !f.telling

/-- The lists of users do not tell the faults that clients are not told about. -/
theorem Fault.unlisted_iff {f : Fault} : f.unlisted = true ↔ f.telling = false := by
  rw [unlisted, Bool.not_eq_true']

/-- The faults of a listing that the page does not tell. -/
def Fault.unpaged (f : Fault) : Bool := !f.has .invalidInput

/-- What clients are not told about, the page does not tell them either. -/
theorem Fault.unpaged_of_untold {f : Fault} (h : f.telling = false) : f.unpaged = true := by
  simp only [telling, Bool.or_eq_false_iff] at h
  simp only [unpaged, h.1.1.1, Bool.not_false]

section Calls

variable {unlisted : Fault → Bool} {c : Call}

/-- A call that does not go to the store breaks nothing. -/
theorem Call.not_breaks (h : c.toStore = false) (x : c.Answer) : ¬c.Breaks unlisted x := by
  cases c with
  | findById _ | findByEmail _ | save _ | delete _ | findAll => cases h
  | _ => exact id

/-- Plain calls break nothing. -/
theorem not_breaks_of_plain {α : Type} {p : Act α} (h : Only Call.Plain p) : Only (fun c : Call => ∀ x, ¬c.Breaks unlisted x) p :=
  h.mono fun _ hc => Call.not_breaks hc.1

/-- Calls of the cache and of the log break nothing. -/
theorem not_breaks_of_idle {α : Type} {p : Act α} (h : Only Call.Idle p) : Only (fun c : Call => ∀ x, ¬c.Breaks unlisted x) p := by
  refine h.mono fun c hc => Call.not_breaks ?_
  cases c <;> first | rfl | cases hc

end Calls

/-- A program of plain calls does not meet a call that is not plain. -/
theorem not_meets_of_plain {T : Call → World → Prop} (hT : ∀ c v, c.Plain → ¬T c v) {α : Type} {p : Act α}
    (hp : Only Call.Plain p) (w : World) : ¬Meets World.answer T p w :=
  hp.not_meets (K := fun _ => True) (fun _ _ _ _ => trivial) (fun c v hc _ => hT c v hc) trivial

/-! ## Services -/

section Services

variable (unlisted : Fault → Bool) {α : Type}

/-- A result is not an untold fault, if its faults are those that clients are told about. -/
theorem ofExcept_blames {r : Except Fault α} (h : ∀ f, r = .error f → f.telling = true) :
    Blames (Call.Breaks unlisted) Untold (Task.ofExcept r).run := by
  cases r with
  | ok a => exact id
  | error f => exact not_untold (h f rfl)

/-- Clients are told that a role is not known. -/
theorem Role.parse_told {t : Text} {f : Fault} (h : Role.parse t = .error f) : f.telling = true := by
  unfold Role.parse at h
  split at h
  · cases h
  · obtain rfl := Except.error.inj h
    rfl

namespace Users

/-- Clients are told what is wrong with a user. -/
theorem check_told {u : User} {f : Fault} (h : check u = .error f) : f.telling = true := by
  unfold check at h
  split at h
  · obtain rfl := Except.error.inj h
    rfl
  · split at h
    · obtain rfl := Except.error.inj h
      rfl
    · cases hrole : Role.parse u.role with
      | ok role =>
        rw [hrole] at h
        cases h
      | error e =>
        rw [hrole] at h
        obtain rfl := Except.error.inj h
        exact Role.parse_told hrole

/-- Getting a user fails untold only if the store broke. -/
theorem get_blames (cached : Bool) (id : UInt64) : Blames (Call.Breaks unlisted) Untold (get cached id).run := by
  rw [run_get]
  refine .bind_only (not_breaks_of_idle (lookUp_idle cached id)) fun o => ?_
  cases o with
  | some u => exact fun h => h
  | none =>
    intro r
    rcases r with f | _ | u
    · exact ⟨fun h => h, fun h => h⟩
    · exact ⟨False.elim, fun _ => not_untold rfl⟩
    · exact ⟨False.elim, fun _ => .bind_only (not_breaks_of_idle (remember_idle cached u)) fun _ h => h⟩

/-- Storing a user fails untold only if the store broke. -/
theorem store_blames (cached : Bool) (u : User) : Blames (Call.Breaks unlisted) Untold (store cached u) := by
  intro r
  cases r with
  | error f => exact ⟨fun h => h, fun h => h⟩
  | ok v => exact ⟨False.elim, fun _ => .bind_only (not_breaks_of_idle (remember_idle cached v)) fun _ h => h⟩

/-- Saving a user fails untold only if the store broke: what is wrong with the user is told. -/
theorem save_blames (cached : Bool) (u : User) : Blames (Call.Breaks unlisted) Untold (save cached u).run := by
  rw [run_save]
  cases hu : check u with
  | error f => exact not_untold (check_told hu)
  | ok _ =>
    dsimp only
    rw [run_keepHash]
    split
    · intro r
      cases r with
      | error f => exact ⟨fun h => h, fun h => h⟩
      | ok old => exact ⟨False.elim, fun _ => store_blames unlisted cached _⟩
    · exact store_blames unlisted cached u

/-- Deleting a user fails untold only if the store broke. -/
theorem delete_blames (cached : Bool) (id : UInt64) : Blames (Call.Breaks unlisted) Untold (delete cached id).run := by
  rw [run_delete]
  intro r
  cases r with
  | error f => exact ⟨fun h => h, fun h => h⟩
  | ok _ => exact ⟨False.elim, fun _ => .bind_only (not_breaks_of_idle (forget_idle cached id)) fun _ h => h⟩

/-- Deactivating a user fails untold only if the store broke. -/
theorem deactivate_blames (cached : Bool) (id : UInt64) :
    Blames (Call.Breaks unlisted) Untold (deactivate cached id).run := by
  rw [run_deactivate]
  intro r
  rcases r with f | _ | u
  · exact ⟨fun h => h, fun h => h⟩
  · exact ⟨False.elim, fun _ => not_untold rfl⟩
  · exact ⟨False.elim, fun _ => store_blames unlisted cached _⟩

/-- Listing fails untold only if the store broke. -/
theorem list_blames : Blames (Call.Breaks Fault.unlisted) Untold list.run := by
  rw [run_list]
  intro r
  cases r with
  | error f => exact ⟨Fault.unlisted_iff.mp, fun h hf => h (Fault.unlisted_iff.mpr hf)⟩
  | ok us => exact ⟨False.elim, fun _ h => h⟩

end Users

/-- Users that cannot be grouped are told as wrong input: one of them has a role that is not known. -/
theorem groupUsers_told {users : List User} {activeOnly : Bool} {f : Fault} (h : groupUsers users activeOnly = .error f) :
    f.has .invalidInput = true := by
  unfold groupUsers at h
  split at h
  · obtain rfl := Except.error.inj h
    rfl
  · cases h

/-- Grouping fails untold only if the store broke. -/
theorem Users.groupByRole_blames (activeOnly : Bool) :
    Blames (Call.Breaks Fault.unlisted) Untold (groupByRole activeOnly).run := by
  rw [run_groupByRole]
  intro r
  cases r with
  | error f => exact ⟨Fault.unlisted_iff.mp, fun h hf => h (Fault.unlisted_iff.mpr hf)⟩
  | ok us =>
    refine ⟨False.elim, fun _ => ?_⟩
    exact ofExcept_blames Fault.unlisted fun f hf => by simp only [Fault.telling, groupUsers_told hf, Bool.true_or]

namespace SignIn

variable (s : SignIn)

/-- Signing in fails untold only if the store broke. -/
theorem login_blames (email password : Text) : Blames (Call.Breaks unlisted) Untold (s.login email password).run := by
  rw [run_login]
  intro r
  rcases r with f | _ | u
  · exact ⟨fun h => h, fun h => h⟩
  · exact ⟨False.elim, fun _ => not_untold rfl⟩
  · refine ⟨False.elim, fun _ => ?_⟩
    dsimp only
    split
    · exact fun _ => ⟨False.elim, fun _ h => h⟩
    · exact not_untold rfl

/-- Authenticating fails untold only if the store broke. -/
theorem authenticate_blames (token : Text) : Blames (Call.Breaks unlisted) Untold (s.authenticate token).run := by
  rw [run_authenticate]
  intro now
  refine ⟨False.elim, fun _ => ?_⟩
  dsimp only
  cases s.identity? now token with
  | none => exact not_untold rfl
  | some i =>
    intro r
    rcases r with f | _ | u
    · exact ⟨fun h => h, fun h => h⟩
    · exact ⟨False.elim, fun _ => not_untold rfl⟩
    · refine ⟨False.elim, fun _ => ?_⟩
      dsimp only
      split
      · exact fun h => h
      · exact not_untold rfl

end SignIn

end Services

/-! ## Replies -/

namespace Http

/-- Something went wrong in the server. -/
def Reply.Failed (r : Reply) : Prop := r.status = 500

/-- Clients are told about a fault, and it is their own. -/
theorem faultReply_told {f : Fault} (h : f.telling = true) (requestId activity : Text) :
    Ends (fun reply => 400 ≤ reply.status ∧ reply.status < 500) (faultReply requestId activity f) := by
  have hjson : ∀ status v, 400 ≤ status ∧ status < 500 →
      Ends (fun reply => 400 ≤ reply.status ∧ reply.status < 500) (json status v) := fun status v hs =>
    (json_ends status v).mono fun reply hreply => hreply ▸ hs
  unfold faultReply
  split
  · exact hjson _ _ (by decide)
  · split
    · exact hjson _ _ (by decide)
    · split
      · exact hjson _ _ (by decide)
      · split
        · exact hjson _ _ (by decide)
        · simp_all [Fault.telling]

/-- Clients are not told about a fault. -/
theorem faultReply_untold {f : Fault} (h : f.telling = false) (requestId activity : Text) :
    Ends Reply.Failed (faultReply requestId activity f) := by
  simp only [Fault.telling, Bool.or_eq_false_iff] at h
  obtain ⟨⟨⟨hinvalid, hfound⟩, hauthorized⟩, hforbidden⟩ := h
  simp only [faultReply, hinvalid, hfound, hauthorized, hforbidden, Bool.false_eq_true, if_false]
  exact fun _ => json_ends 500 _

/-- The statuses of requests that were carried out, sent elsewhere or refused. -/
def Reply.Ordinary (r : Reply) : Prop :=
  r.status = 200 ∨ r.status = 204 ∨ r.status = 307 ∨ 400 ≤ r.status ∧ r.status < 500

/-- An ordinary answer says that nothing went wrong. -/
theorem Reply.Ordinary.not_failed {r : Reply} (h : r.Ordinary) : ¬r.Failed := by
  unfold Ordinary at h
  unfold Failed
  omega

/-- A request was carried out, sent elsewhere or refused, or else something went wrong. -/
def Reply.Known (r : Reply) : Prop := r.Ordinary ∨ r.Failed

/-- Every fault is answered with a known status. -/
theorem faultReply_known (requestId activity : Text) (f : Fault) : Ends Reply.Known (faultReply requestId activity f) := by
  cases h : f.telling with
  | true => exact (faultReply_told h _ _).mono fun _ hs => .inl (.inr (.inr (.inr hs)))
  | false => exact (faultReply_untold h _ _).mono fun _ hs => .inr hs

/-- A task whose fault is answered with an error gets a known status, if what follows it does. -/
theorem orFault_known {α : Type} (v : Visit) (activity : Text) (t : Task α) {next : α → Act Reply}
    (hn : ∀ a, Ends Reply.Known (next a)) : Ends Reply.Known (orFault v activity t next) := by
  refine Ends.bind t.run fun r => ?_
  cases r with
  | ok a => exact hn a
  | error f => exact faultReply_known _ _ f

/-- A page that is shown has the status 200, also if it could not be sent. -/
theorem showPage_ok (viewer : Text) (g : Groups) : Ends (fun reply => reply.status = 200) (showPage viewer (.ok g)) := by
  refine Ends.bind _ fun r => ?_
  cases r with
  | ok _ => exact rfl
  | error f => exact fun _ => rfl

/-- A stream that is shown has the status 200, also if it could not be sent. -/
theorem showStream_ok (job : Nat × Nat) (delay : Span) (g : Groups) :
    Ends (fun reply => reply.status = 200) (showStream job delay (.ok g)) := by
  refine Ends.bind _ fun r => ?_
  cases r with
  | error f => exact fun _ => rfl
  | ok _ =>
    refine Ends.bind _ fun count => Ends.bind _ fun sent => Ends.bind _ fun _ => ?_
    exact rfl

/-- An answer with the fault of a task, or one that goes on with its value. -/
theorem run_orFault {α : Type} (w : World) (v : Visit) (activity : Text) (t : Task α) (next : α → Act Reply) :
    w.run (orFault v activity t next) = (w.attempt t).2.run (match (w.attempt t).1 with
      | .ok a => next a
      | .error f => faultReply v.requestId activity f) := by
  unfold orFault
  rw [Program.bind_eq]
  exact run_bind World.answer t.run _ w

/-- An answer says that something went wrong exactly if the task failed untold, or succeeded and what follows says so. -/
theorem failed_orFault {α : Type} {w : World} {v : Visit} {activity : Text} {t : Task α} {next : α → Act Reply} :
    (w.run (orFault v activity t next)).1.Failed ↔
      Untold (w.attempt t).1 ∨ ∃ a, (w.attempt t).1 = .ok a ∧ ((w.attempt t).2.run (next a)).1.Failed := by
  rw [run_orFault]
  cases (w.attempt t).1 with
  | ok a => simp [Untold]
  | error f =>
    simp only [Untold, reduceCtorEq, false_and, exists_false, or_false]
    cases hf : f.telling with
    | false => exact iff_of_true ((faultReply_untold hf _ _).of_run World.answer _) rfl
    | true =>
      refine iff_of_false (fun hfailed => ?_) Bool.noConfusion
      have hstatus := (faultReply_told hf v.requestId activity).of_run World.answer (w.attempt t).2
      exact Nat.ne_of_lt hstatus.2 hfailed

/-- Every endpoint answers with one of these statuses. -/
theorem serve_known (s : Site) (v : Visit) (e : Endpoint) : Ends Reply.Known (e.serve s v) := by
  have hok : ∀ x, Ends Reply.Known (json 200 x) := fun x => (json_ends 200 x).mono fun _ hs => .inl (.inl hs)
  have hrefuse : ∀ status x, 400 ≤ status ∧ status < 500 → Ends Reply.Known (json status x) := fun status x hs =>
    (json_ends status x).mono fun _ h => .inl (.inr (.inr (.inr (h ▸ hs))))
  have hfail : ∀ message, Ends Reply.Known (plainError 500 message) := fun _ _ => .inr rfl
  cases e with
  | health | me => exact hok _
  | logout => exact .inl (.inr (.inl rfl))
  | login =>
    intro admitted
    cases admitted with
    | false => exact hrefuse _ _ (by decide)
    | true =>
      refine orFault_known v _ _ fun c => orFault_known v _ _ fun token => orFault_known v _ _ fun u => ?_
      exact (json_ends 200 _).bind_of fun reply hs => .inl (.inl hs)
  | listUsers => exact orFault_known v _ _ fun _ => hok _
  | usersByRole =>
    show Ends Reply.Known (usersByRole v)
    unfold usersByRole
    dsimp only
    split
    · exact hrefuse _ _ (by decide)
    · exact orFault_known v _ _ fun _ => hok _
  | batch => exact orFault_known v _ _ fun b => orFault_known v _ _ fun _ => hok _
  | getUser => exact orFault_known v _ _ fun id => orFault_known v _ _ fun _ => hok _
  | putUser =>
    refine orFault_known v _ _ fun id => orFault_known v _ _ fun b => orFault_known v _ _ fun role => ?_
    exact orFault_known v _ _ fun _ => hok _
  | deleteUser => exact orFault_known v _ _ fun id => orFault_known v _ _ fun _ => .inl (.inr (.inl rfl))
  | deactivateUser => exact orFault_known v _ _ fun id => orFault_known v _ _ fun _ => hok _
  | setPassword =>
    exact orFault_known v _ _ fun id => orFault_known v _ _ fun b => orFault_known v _ _ fun _ => .inl (.inr (.inl rfl))
  | describeRole =>
    show Ends Reply.Known (describeRole v)
    unfold describeRole
    split
    · exact hrefuse _ _ (by decide)
    · exact hok _
  | counter =>
    refine orFault_known v _ _ fun b => ?_
    split
    · exact hrefuse _ _ (by decide)
    · exact Ends.bind _ fun start => Ends.bind _ fun count => Ends.bind _ fun done => hok _
  | rosterPage =>
    show Ends Reply.Known (rosterPage v)
    rw [rosterPage_eq]
    refine Ends.bind _ fun r => ?_
    cases r with
    | error f => exact fun _ => hfail _
    | ok g => exact (showPage_ok _ g).mono fun _ hs => .inl (.inl hs)
  | rosterStream =>
    show Ends Reply.Known (rosterStream s v)
    rw [rosterStream_eq]
    refine Ends.bind _ fun r => ?_
    cases r with
    | error f => exact fun _ => hfail _
    | ok g => exact (showStream_ok _ _ g).mono fun _ hs => .inl (.inl hs)

/-- An endpoint behind its guard answers with a known status. -/
theorem serveGuarded_known (s : Site) (v : Visit) (e : Endpoint) : Ends Reply.Known (e.serveGuarded s v) := by
  unfold Endpoint.serveGuarded
  split
  · exact serve_known s v e
  · exact orFault_known v _ _ fun u => serve_known s _ e
  · refine orFault_known v _ _ fun u => ?_
    split
    · exact serve_known s _ e
    · exact faultReply_known _ _ _

/-- A request that no route leads to is sent elsewhere or refused. -/
theorem dispatch_ordinary {r : Request} (h : r.route? = none) (s : Site) (requestId : Text) :
    Ends Reply.Ordinary (dispatch s r requestId) := by
  have hrefuse : ∀ status, 400 ≤ status ∧ status < 500 → ∀ headers, Reply.Ordinary ⟨status, headers⟩ :=
    fun _ hs _ => .inr (.inr (.inr hs))
  obtain h | ⟨location, h⟩ | ⟨segments, h⟩ := dispatch_of_no_route h s requestId
  · rw [h]
    exact hrefuse 400 (by decide) _
  · rw [h]
    unfold redirect
    dsimp only
    split
    · exact fun _ => .inr (.inr (.inl rfl))
    · split <;> exact .inr (.inr (.inl rfl))
  · rw [h]
    unfold unrouted
    split
    · exact fun _ => hrefuse 404 (by decide) _
    · exact fun _ => hrefuse 405 (by decide) _

/-- Every request is answered with a known status. -/
theorem dispatch_known (s : Site) (r : Request) (requestId : Text) : Ends Reply.Known (dispatch s r requestId) := by
  cases hr : r.route? with
  | none => exact (dispatch_ordinary hr s requestId).mono fun _ h => .inl h
  | some route =>
    rw [dispatch_of_route hr]
    exact serveGuarded_known s _ _

/-- Every request is answered with one of these statuses. -/
theorem request_known (s : Site) (r : Request) : Ends Reply.Known (serve s r) := by
  refine Ends.bind _ fun id => Ends.bind _ fun start => (dispatch_known s r id).bind_of fun reply hs => ?_
  exact Ends.bind _ fun done => Ends.bind _ fun _ => hs

/-! ## What went wrong -/

/-- Clients are told that an id in a path is wrong. -/
theorem pathId_told {t : Text} {f : Fault} (h : pathId t = .error f) : f.telling = true := by
  unfold pathId at h
  split at h
  · split at h
    · cases h
    · obtain rfl := Except.error.inj h
      rfl
  · obtain rfl := Except.error.inj h
    rfl

/-- What is wrong with a body is wrong with the input. -/
theorem Body.read_invalid {σ : Type} {b : Body σ} {t : Text} {f : Fault} (h : b.read t = .error f) :
    f.has .invalidInput = true := by
  unfold Body.read at h
  split at h
  · obtain rfl := Except.error.inj h
    rfl
  · split at h
    · cases h
    · obtain rfl := Except.error.inj h
      rfl

/-- Clients are told what is wrong with a body. -/
theorem Body.read_told {σ : Type} {b : Body σ} {t : Text} {f : Fault} (h : b.read t = .error f) : f.telling = true := by
  rw [Fault.telling, Body.read_invalid h]
  rfl

section Blames

variable {unlisted : Fault → Bool}

/-- An answer in JSON with another status does not say that something went wrong. -/
theorem json_blames {status : Nat} (h : status ≠ 500) (x : Json) :
    Blames (Call.Breaks unlisted) Reply.Failed (json status x) := by
  refine .of_only (not_breaks_of_plain (json_plain status x)) ((json_ends status x).mono fun reply hs => ?_)
  rw [Reply.Failed, hs]
  exact h

/-- An answer with a fault means that something went wrong if clients are not told about the fault. -/
theorem orFault_blames {α : Type} (v : Visit) (activity : Text) {t : Task α} {next : α → Act Reply}
    (ht : Blames (Call.Breaks unlisted) Untold t.run) (hn : ∀ a, Blames (Call.Breaks unlisted) Reply.Failed (next a)) :
    Blames (Call.Breaks unlisted) Reply.Failed (orFault v activity t next) := by
  refine ht.bind (fun r hr => ?_) fun r hr => ?_
  · cases r with
    | ok a => exact hr.elim
    | error f => exact faultReply_untold hr _ _
  · cases r with
    | ok a => exact hn a
    | error f =>
      have htold : f.telling = true := Bool.not_eq_false _ ▸ hr
      refine .of_only (not_breaks_of_plain (faultReply_plain _ _ f)) ((faultReply_told htold _ _).mono fun reply hs hf => ?_)
      exact absurd hf (Nat.ne_of_lt hs.2)

/-- An endpoint with an id in its path blames the store only, if what follows does. -/
theorem withId_blames (v : Visit) {next : UInt64 → Act Reply}
    (hn : ∀ id, Blames (Call.Breaks unlisted) Reply.Failed (next id)) :
    Blames (Call.Breaks unlisted) Reply.Failed (withId v next) :=
  orFault_blames v _ (ofExcept_blames unlisted fun _ => pathId_told) hn

/-- An endpoint with a body blames the store only, if what follows does. -/
theorem withBody_blames {σ : Type} (v : Visit) (activity : Text) (b : Body σ) {next : σ → Act Reply}
    (hn : ∀ a, Blames (Call.Breaks unlisted) Reply.Failed (next a)) :
    Blames (Call.Breaks unlisted) Reply.Failed (withBody v activity b next) :=
  orFault_blames v _ (ofExcept_blames unlisted fun _ => Body.read_told) hn

end Blames

/-- The groups on the page, given those of the listing: there are none if there is nobody to list. -/
def pageGroups : Except Fault Groups → Except Fault Groups
  | .ok g => .ok g
  | .error f => if f.has .invalidInput then .ok [] else .error f

/-- The groups of the roster are those of all users, with the fault put as the page tells it. -/
theorem run_rosterGroups : rosterGroups.run = (Users.groupByRole false).run.bind fun r => .done (pageGroups r) := by
  show Program.bind _ _ = _
  congr
  funext r
  cases r <;> rfl

/-- The page's groups are missing if the users cannot be listed, unless that is because there are none. -/
theorem rosterGroups_blames {next : Except Fault Groups → Act Reply} (hfault : ∀ f, Ends Reply.Failed (next (.error f)))
    (hok : ∀ g, Blames (Call.Breaks Fault.unpaged) Reply.Failed (next (.ok g))) :
    Blames (Call.Breaks Fault.unpaged) Reply.Failed (rosterGroups.run.bind next) := by
  rw [run_rosterGroups, Program.bind_assoc, Users.run_groupByRole]
  intro r
  cases r with
  | error f =>
    -- the fault of the listing keeps its kinds on the way up
    have hkept : (Fault.during "list users" f).has .invalidInput = f.has .invalidInput := rfl
    constructor
    · intro hf
      have hinvalid : f.has .invalidInput = false := by
        simpa [Call.Breaks, Fault.unpaged] using hf
      simp only [done_bind, pageGroups, hkept, hinvalid, Bool.false_eq_true, if_false]
      exact hfault _
    · intro hf
      have hinvalid : f.has .invalidInput = true := by
        simpa [Call.Breaks, Fault.unpaged] using hf
      simp only [done_bind, pageGroups, hkept, hinvalid, if_true]
      exact hok _
  | ok us =>
    refine ⟨False.elim, fun _ => ?_⟩
    dsimp only
    cases hgroup : groupUsers (us.mergeSort fun a b => a.id ≤ b.id) false with
    | ok g => exact hok g
    | error f =>
      simp only [done_bind, pageGroups, groupUsers_told hgroup, if_true]
      exact hok _

/-- The faults of a listing that an endpoint does not tell. -/
def Endpoint.unlisted : Endpoint → Fault → Bool
  | rosterPage | rosterStream => Fault.unpaged
  | _ => Fault.unlisted

/-- Something goes wrong at an endpoint exactly if a call of the store is answered with a fault that clients are not told
about. -/
theorem serve_blames (s : Site) (v : Visit) {e : Endpoint} (hbatch : e ≠ .batch) (hpassword : e ≠ .setPassword) :
    Blames (Call.Breaks e.unlisted) Reply.Failed (e.serve s v) := by
  have hok : ∀ {unlisted} x, Blames (Call.Breaks unlisted) Reply.Failed (json 200 x) := fun x => json_blames (by decide) x
  have hdone : ∀ {unlisted} headers,
      Blames (Call.Breaks unlisted) Reply.Failed (.done { status := 204, headers } : Act Reply) := by
    intro unlisted headers hf
    cases hf
  cases e with
  | health | me => exact hok _
  | logout => exact hdone _
  | login =>
    intro admitted
    refine ⟨False.elim, fun _ => ?_⟩
    cases admitted with
    | false => exact json_blames (by decide) _
    | true =>
      refine withBody_blames v _ _ fun c => ?_
      refine orFault_blames v _ (s.signIn.login_blames _ c.email c.password) fun token => ?_
      refine orFault_blames v _ (s.signIn.authenticate_blames _ token) fun u => ?_
      exact (hok _).bind (fun _ h => h) fun _ h => h
  | listUsers => exact orFault_blames v _ Users.list_blames fun _ => hok _
  | usersByRole =>
    show Blames _ _ (usersByRole v)
    unfold usersByRole
    dsimp only
    split
    · exact json_blames (by decide) _
    · exact orFault_blames v _ (Users.groupByRole_blames _) fun _ => hok _
  | batch => exact absurd rfl hbatch
  | getUser => exact withId_blames v fun id => orFault_blames v _ (Users.get_blames _ s.cached id) fun _ => hok _
  | putUser =>
    refine withId_blames v fun id => withBody_blames v _ _ fun b => ?_
    refine orFault_blames v _ (ofExcept_blames _ fun _ => Role.parse_told) fun role => ?_
    exact orFault_blames v _ (Users.save_blames _ s.cached _) fun _ => hok _
  | deleteUser => exact withId_blames v fun id => orFault_blames v _ (Users.delete_blames _ s.cached id) fun _ => hdone _
  | deactivateUser =>
    exact withId_blames v fun id => orFault_blames v _ (Users.deactivate_blames _ s.cached id) fun _ => hok _
  | setPassword => exact absurd rfl hpassword
  | describeRole =>
    show Blames _ _ (describeRole v)
    unfold describeRole
    split
    · exact json_blames (by decide) _
    · exact hok _
  | counter =>
    refine withBody_blames v _ _ fun b => ?_
    split
    · exact json_blames (by decide) _
    · have hcount : Only Call.Plain (Counter.count b.workers b.iterations s.counterDelay fun _ => pure ()) :=
        Counter.count_plain _ _ _ fun _ => trivial
      have hnow : Only Call.Plain (Act.ask .now) := ⟨⟨rfl, rfl⟩, fun _ => trivial⟩
      refine .bind_only (not_breaks_of_plain hnow) fun start => .bind_only (not_breaks_of_plain hcount) fun count => ?_
      exact .bind_only (not_breaks_of_plain hnow) fun done => hok _
  | rosterPage =>
    show Blames _ _ (rosterPage v)
    rw [rosterPage_eq]
    refine rosterGroups_blames (fun f _ => fun _ => rfl) fun g => ?_
    refine .of_only (not_breaks_of_plain (showPage_plain _ _)) ((showPage_ok _ g).mono fun reply hs hf => ?_)
    cases hs.symm.trans hf
  | rosterStream =>
    show Blames _ _ (rosterStream s v)
    rw [rosterStream_eq]
    refine rosterGroups_blames (fun f _ => fun _ => rfl) fun g => ?_
    refine .of_only (not_breaks_of_plain (showStream_plain _ _ _)) ((showStream_ok _ _ g).mono fun reply hs hf => ?_)
    cases hs.symm.trans hf

/-- The same behind the guard of the endpoint. -/
theorem serveGuarded_blames (s : Site) (v : Visit) {e : Endpoint} (hbatch : e ≠ .batch) (hpassword : e ≠ .setPassword) :
    Blames (Call.Breaks e.unlisted) Reply.Failed (e.serveGuarded s v) := by
  have hguard := s.signIn.authenticate_blames e.unlisted (requestToken v.request)
  unfold Endpoint.serveGuarded
  split
  · exact serve_blames s v hbatch hpassword
  · exact orFault_blames v _ hguard fun u => serve_blames s _ hbatch hpassword
  · refine orFault_blames v _ hguard fun u => ?_
    split
    · exact serve_blames s _ hbatch hpassword
    · exact json_blames (by decide) _

/-! ## What is met on the way to an answer -/

/-- What is met by the route is met by the server. -/
theorem meets_serve {T : Call → World → Prop} {r : Request} {w : World} {id : Text} (hid : w.run (requestId r) = (id, w))
    {s : Site} (h : Meets World.answer T (dispatch s r id) w) : Meets World.answer T (serve s r) w := by
  refine meets_bind.mpr (.inr ?_)
  rw [World.run] at hid
  rw [hid]
  exact meets_bind.mpr (.inr (meets_bind.mpr (.inl h)))

/-- What the server meets and is not plain, the route meets. -/
theorem meets_dispatch {T : Call → World → Prop} (hT : ∀ c v, c.Plain → ¬T c v) {r : Request} {w : World} {id : Text}
    (hid : w.run (requestId r) = (id, w)) {s : Site} (h : Meets World.answer T (serve s r) w) :
    Meets World.answer T (dispatch s r id) w := by
  have hnow : Only Call.Plain (Act.ask .now) := ⟨⟨rfl, rfl⟩, fun _ => trivial⟩
  obtain h | h := meets_bind.mp h
  · exact absurd h (not_meets_of_plain hT (requestId_plain r) w)
  · rw [World.run] at hid
    rw [hid] at h
    obtain h | h := meets_bind.mp h
    · exact absurd h (not_meets_of_plain hT hnow w)
    · obtain h | h := meets_bind.mp h
      · exact h
      · refine absurd h (not_meets_of_plain hT ?_ _)
        exact ⟨⟨rfl, rfl⟩, fun _ => ⟨⟨rfl, rfl⟩, fun _ => trivial⟩⟩

end Http

end Roster
