import Roster.Proofs.AcceptedTokens
import Roster.Proofs.FailedOperations
import Roster.Proofs.Sessions

/-!
# Stored users are valid, whatever fails

Operations are carried out one after the other from an empty store, in memory or in a table, while any call to the store or
the cache may fail without effect and callers may give up at any moment. The store holds valid users only at every point of
such a history. So a table never has a reason to refuse a user: no operation fails because of its checks, and a user that is
reported absent is absent (`Fault.Justified`). And a token is only issued for a role that is accepted when it is shown.
-/

namespace Roster

open Program

/-! ## The causes of faults -/

namespace Fault

/-- The cause at the bottom of a fault, without what was being done when it was met. -/
def root : Fault → Fault
  | .store cause => cause.root
  | .during _ cause => cause.root
  | f => f

/-- A fault for which a store gives reason: it does not come from a table that has refused a user, for its role or for an id
beyond its range, and a user that it says is absent is not in the store. -/
structure Justified (st : Storage) (f : Fault) : Prop where
  role : f.root ≠ Sql.roleRefused
  id : ∀ id, f.root ≠ .idTooLarge id
  absent : ∀ id, f.root = .userAbsent id → ∃ g : Register, st.Holds g ∧ g id = none

/-- A store gives reason for a cause, whatever was being done. -/
theorem Justified.congr {st : Storage} {f g : Fault} (h : f.Justified st) (hroot : f.root = g.root) : g.Justified st := by
  obtain ⟨hrole, hid, habsent⟩ := h
  rw [hroot] at hrole hid habsent
  exact ⟨hrole, hid, habsent⟩

/-- A fault has been met where only some faults are to be expected: it comes from one of them, or there is reason for it. -/
def Founded (faults : Call → Fault → Prop) (st : Storage) (f : Fault) : Prop :=
  (∃ c g, faults c g ∧ g.root = f.root) ∨ f.Justified st

/-- A fault is founded by its cause, whatever was being done. -/
theorem Founded.congr {faults : Call → Fault → Prop} {st : Storage} {f g : Fault} (h : f.Founded faults st)
    (hroot : f.root = g.root) : g.Founded faults st := by
  rcases h with ⟨c, e, he, hsame⟩ | hjustified
  · exact .inl ⟨c, e, he, hsame.trans hroot⟩
  · exact .inr (hjustified.congr hroot)

end Fault

/-- The fault that an answer of the store gives reason for: the one it reports, or that there is no user under an id. -/
def Call.flaw? : (c : Call) → c.Answer → Option Fault
  | .findById _, .error f => some f
  | .findById id, .ok none => some (.userAbsent id)
  | .findByEmail _, .error f => some f
  | .save _, .error f => some f
  | .delete _, .error f => some f
  | .findAll, .error f => some f
  | _, _ => none

/-- Only answers of the store have flaws. -/
theorem Call.toStore_of_flaw {c : Call} {x : c.Answer} {f : Fault} (h : c.flaw? x = some f) : c.toStore = true := by
  cases c <;> first | rfl | cases h

/-- A call goes to the store or to the cache, not to both. -/
theorem Call.toCache_of_toStore {c : Call} (h : c.toStore = true) : c.toCache = false := by
  cases c <;> first | rfl | cases h

/-- A call of the store that is made to fail has that fault for its flaw. -/
theorem Call.flaw?_of_failed {c : Call} (hc : c.toCache = false) {x : c.Answer} {f : Fault} (h : c.failed f = some x) :
    c.flaw? x = some f := by
  cases c with
  | findById _ | findByEmail _ | save _ | delete _ | findAll =>
    obtain rfl := Option.some.inj h
    rfl
  | cacheGet _ | cacheSet _ _ | cacheRemove _ => cases hc
  | _ => cases h

section Accounts

variable {α β : Type}

/-- A program accounts for its errors: the cause of one is what is wrong with the answer to the last call, or else one that
no store has to give reason for. -/
def Accounts : Program Surroundings (Except Fault α) → Option Fault → Prop
  | .done r, last => ∀ e, r = .error e → (∀ st, e.Justified st) ∨ ∃ f, last = some f ∧ f.root = e.root
  | .call c next, _ => ∀ x, Accounts (next x) (c.flaw? x)

theorem Accounts.ok (a : α) (last : Option Fault) : Accounts (.done (.ok a)) last := nofun

/-- An error that no store has to give reason for is accounted for. -/
theorem Accounts.own {e : Fault} (h : ∀ st, e.Justified st) (last : Option Fault) :
    Accounts (.done (.error e) : Act (Except Fault α)) last := by
  rintro _ ⟨⟩
  exact .inl h

/-- An error that says what was wrong with the last answer, and perhaps what was being done. -/
theorem Accounts.last {f e : Fault} (h : f.root = e.root) : Accounts (.done (.error e) : Act (Except Fault α)) (some f) := by
  rintro _ ⟨⟩
  exact .inr ⟨f, rfl, h⟩

/-- After whatever calls, it is enough that the rest accounts for its errors. -/
theorem Accounts.bind_of_rest (p : Act β) {f : β → Act (Except Fault α)} (hf : ∀ b last, Accounts (f b) last)
    (last : Option Fault) : Accounts (p.bind f) last := by
  induction p generalizing last with
  | done b => exact hf b last
  | call c next ih => exact fun x => ih x _

/-- A task may be followed by another one, and what is added to its errors does not change their causes. -/
theorem Accounts.bind {p : Act (Except Fault β)} {last : Option Fault} (hp : Accounts p last)
    {f : Except Fault β → Act (Except Fault α)} (hok : ∀ b last, Accounts (f (.ok b)) last)
    (herror : ∀ e, ∃ e', f (.error e) = .done (.error e') ∧ e'.root = e.root) : Accounts (p.bind f) last := by
  induction p generalizing last with
  | done r =>
    cases r with
    | ok b => exact hok b last
    | error e =>
      obtain ⟨e', he', hroot⟩ := herror e
      show Accounts (f (.error e)) last
      rw [he']
      rcases hp e rfl with howned | ⟨g, rfl, hg⟩
      · exact .own (fun st => (howned st).congr hroot.symm) last
      · exact .last (hg.trans hroot.symm)
  | call c next ih => exact fun x => ih x (hp x)

/-- A task accounts for its errors also when its value is mapped. -/
theorem Accounts.task_map {t : Task α} {last : Option Fault} (h : Accounts t.run last) (g : α → β) :
    Accounts (g <$> t).run last := by
  rw [Task.run_map]
  exact h.bind (fun b last => .ok (g b) last) fun e => ⟨e, rfl, rfl⟩

end Accounts

/-! ## Every operation accounts for its errors -/

namespace Users

variable (cached : Bool)

/-- What is wrong with a user needs no reason from a store. -/
theorem check_justified {u : User} {e : Fault} (h : check u = .error e) (st : Storage) : e.Justified st := by
  unfold check at h
  split at h
  · cases h
    exact ⟨nofun, nofun, nofun⟩
  · split at h
    · cases h
      exact ⟨nofun, nofun, nofun⟩
    · unfold Role.parse at h
      split at h
      · cases h
      · cases h
        exact ⟨nofun, nofun, nofun⟩

/-- Getting a user accounts for its errors. -/
theorem get_accounts (id : UInt64) (last : Option Fault) : Accounts (get cached id).run last := by
  rw [run_get]
  refine .bind_of_rest _ (fun o last => ?_) last
  cases o with
  | some u => exact .ok u last
  | none =>
    intro r
    rcases r with e | _ | u
    · exact .last rfl
    · exact .last rfl
    · exact .bind_of_rest _ (fun _ last => .ok u last) _

/-- Listing accounts for its errors. -/
theorem list_accounts (last : Option Fault) : Accounts list.run last := by
  rw [run_list]
  intro r
  cases r with
  | error e => exact .last rfl
  | ok us => exact .ok _ _

/-- Grouping accounts for its errors. -/
theorem groupByRole_accounts (activeOnly : Bool) (last : Option Fault) : Accounts (groupByRole activeOnly).run last := by
  rw [run_groupByRole]
  intro r
  cases r with
  | error e => exact .last rfl
  | ok us =>
    dsimp only
    unfold groupUsers
    split
    · exact .own (e := .usersEmpty) (fun st => ⟨nofun, nofun, nofun⟩) _
    · exact .ok _ _

/-- Looking for the hash to keep accounts for its errors. -/
theorem keepHash_accounts (u : User) (last : Option Fault) : Accounts (keepHash u).run last := by
  rw [run_keepHash]
  split
  · intro r
    cases r with
    | error e => exact .last rfl
    | ok old => exact .ok _ _
  · exact .ok u last

/-- Storing a user accounts for its errors. -/
theorem store_accounts (u : User) (last : Option Fault) : Accounts (store cached u) last := by
  intro r
  cases r with
  | error e => exact .last rfl
  | ok v => exact .bind_of_rest _ (fun _ last => .ok v last) _

/-- Saving a user accounts for its errors. -/
theorem save_accounts (u : User) (last : Option Fault) : Accounts (save cached u).run last := by
  rw [run_save]
  cases hcheck : check u with
  | error e => exact .own (check_justified hcheck) last
  | ok _ => exact (keepHash_accounts u last).bind (fun v last => store_accounts cached v last) fun e => ⟨e, rfl, rfl⟩

/-- Deleting a user accounts for its errors. -/
theorem delete_accounts (id : UInt64) (last : Option Fault) : Accounts (delete cached id).run last := by
  rw [run_delete]
  intro r
  cases r with
  | error e => exact .last rfl
  | ok _ => exact .bind_of_rest _ (fun _ last => .ok () last) _

/-- Deactivating a user accounts for its errors. -/
theorem deactivate_accounts (id : UInt64) (last : Option Fault) : Accounts (deactivate cached id).run last := by
  rw [run_deactivate]
  intro r
  rcases r with e | _ | u
  · exact .last rfl
  · exact .last rfl
  · exact store_accounts cached u.deactivate _

/-- Saving several users accounts for its errors: naming the user does not change the cause. -/
theorem saveAll_accounts (us : List User) (last : Option Fault) : Accounts (saveAll cached us).run last := by
  induction us generalizing last with
  | nil => exact .ok () last
  | cons u rest ih =>
    rw [run_saveAll_cons]
    exact (save_accounts cached u last).bind (fun _ last => ih last) fun e => ⟨_, rfl, rfl⟩

/-- Seeding accounts for its errors. -/
theorem seed_accounts (us : List User) (last : Option Fault) : Accounts (seed cached us).run last := by
  rw [run_seed]
  intro r
  cases r with
  | error e => exact .last rfl
  | ok stored =>
    dsimp only
    split
    · exact (saveAll_accounts cached us _).bind (fun _ last => .ok true last) fun e => ⟨e, rfl, rfl⟩
    · exact .ok false _

end Users

/-- Passwords are refused for their length, and costs for their size. -/
theorem Password.hash_justified {cost : Int} {salt password : Text} {e : Fault}
    (h : Password.hash cost salt password = .error e) (st : Storage) : e.Justified st := by
  unfold Password.hash at h
  split at h
  · obtain rfl := Except.error.inj h
    exact ⟨nofun, nofun, nofun⟩
  · dsimp only at h
    generalize (if cost < minCost then defaultCost else cost) = tried at h
    split at h
    · obtain rfl := Except.error.inj h
      exact ⟨nofun, nofun, nofun⟩
    · cases h

namespace SignIn

variable (s : SignIn)

/-- That somebody is not let in needs no reason from a store. -/
theorem unauthorized_justified (st : Storage) : Fault.unauthorized.Justified st := ⟨nofun, nofun, nofun⟩

/-- Setting a password accounts for its errors, those of the hash among them. -/
theorem setPassword_accounts {cost : Int} (hs : s.passwords = Password.salted cost) (id : UInt64) (password : Text)
    (last : Option Fault) : Accounts (s.setPassword id password).run last := by
  rw [run_setPassword]
  split
  · exact .own (e := .passwordShort) (fun st => ⟨nofun, nofun, nofun⟩) last
  · intro r
    rcases r with e | _ | u
    · exact .last rfl
    · exact .last rfl
    · intro salt
      dsimp only
      split
      · rename_i e he
        rw [hs] at he
        exact .own (fun st => (Password.hash_justified he st).congr (g := .during "hash password" e) rfl) _
      · intro r
        cases r with
        | error e => exact .last rfl
        | ok _ => exact .bind_of_rest _ (fun _ last => .ok () last) _

/-- Signing in accounts for its errors. -/
theorem login_accounts (email password : Text) (last : Option Fault) : Accounts (s.login email password).run last := by
  rw [run_login]
  intro r
  rcases r with e | _ | u
  · exact .last rfl
  · exact .own unauthorized_justified _
  · dsimp only
    split
    · exact fun now => .ok _ _
    · exact .own unauthorized_justified _

/-- Validating a token accounts for its errors. -/
theorem validate_accounts (token : Text) (last : Option Fault) : Accounts (s.validate token).run last := by
  rw [run_validate]
  intro now
  dsimp only
  split
  · exact .ok _ _
  · exact .own unauthorized_justified _

/-- Authenticating accounts for its errors. -/
theorem authenticate_accounts (token : Text) (last : Option Fault) : Accounts (s.authenticate token).run last := by
  rw [run_authenticate]
  intro now
  dsimp only
  split
  · exact .own unauthorized_justified _
  · intro r
    rcases r with e | _ | u
    · exact .last rfl
    · exact .own unauthorized_justified _
    · dsimp only
      split
      · exact .ok u _
      · exact .own unauthorized_justified _

end SignIn

/-- Every operation accounts for its errors. -/
theorem Operation.task_accounts (s : SignIn) {cost : Int} (hs : s.passwords = Password.salted cost) (cached : Bool)
    (o : Operation) : Accounts (o.task s cached).run none := by
  cases o with
  | get id => exact (Users.get_accounts cached id none).task_map _
  | list => exact (Users.list_accounts none).task_map _
  | save u => exact (Users.save_accounts cached u none).task_map _
  | delete id => exact (Users.delete_accounts cached id none).task_map _
  | deactivate id => exact (Users.deactivate_accounts cached id none).task_map _
  | groupByRole activeOnly => exact (Users.groupByRole_accounts activeOnly none).task_map _
  | seed us => exact (Users.seed_accounts cached us none).task_map _
  | setPassword id password => exact (s.setPassword_accounts hs id password none).task_map _
  | login email password => exact (s.login_accounts email password none).task_map _
  | validate token => exact (s.validate_accounts token none).task_map _
  | authenticate token => exact (s.authenticate_accounts token none).task_map _

/-! ## What a sound store answers -/

namespace World

/-- A world whose store holds valid users only and in which nothing has been made to fail for good. -/
structure Sane (w : World) : Prop where
  sound : w.storage.Sound
  failing : w.failing = []

/-- A sane world is still so after some time. -/
theorem Sane.passes {w v : World} (h : w.Sane) (hv : w.Passes v) : v.Sane :=
  ⟨hv.storage ▸ h.sound, hv.failing.trans h.failing⟩

/-- A call that stores valid users only leaves a sane world sane. -/
theorem Sane.answer {w : World} (h : w.Sane) {c : Call} (hc : c.StoresValid) : (World.answer c w).2.Sane :=
  ⟨answer_sound h.sound hc, (answer_failing c w).trans h.failing⟩

/-- That a caller has given up needs no reason from a store. -/
theorem patience_justified {w : World} {e : Fault} (h : w.patience = .error e) (st : Storage) : e.Justified st := by
  unfold patience at h
  split at h
  · obtain rfl := Except.error.inj h
    exact ⟨nofun, nofun, nofun⟩
  · split at h
    · split at h
      · obtain rfl := Except.error.inj h
        exact ⟨nofun, nofun, nofun⟩
      · cases h
    · cases h

/-- What is wrong with an answer of a store that works, to a caller that waits: at most that a user is not there. -/
theorem Keeps.flaw_justified {w : World} {f : Register} (h : w.Keeps f) {c : Call} (hc : c.StoresValid) {e : Fault}
    (he : c.flaw? (answer c w).1 = some e) : e.Justified (answer c w).2.storage := by
  cases c with
  | findById id =>
    rw [h.findById id] at he
    cases hu : f id with
    | some u =>
      rw [hu] at he
      cases he
    | none =>
      rw [hu] at he
      obtain rfl := Option.some.inj he
      refine ⟨nofun, nofun, ?_⟩
      rintro _ ⟨⟩
      exact ⟨f, (h.of_reads (c := .findById id) rfl rfl).holds, hu⟩
  | findByEmail email =>
    obtain ⟨r, hr, -⟩ := h.findByEmail email
    rw [hr] at he
    cases he
  | findAll =>
    obtain ⟨us, hus, -⟩ := h.findAll
    rw [hus] at he
    cases he
  | save u =>
    obtain ⟨-, hid, -, -, hrole⟩ := User.valid_iff.mp (hc u rfl)
    rw [(h.save hid hrole).1] at he
    cases he
  | delete id =>
    obtain ⟨hanswer, hkeeps⟩ := h.delete id
    rw [hanswer] at he
    split at he
    · obtain rfl := Option.some.inj he
      refine ⟨nofun, nofun, ?_⟩
      rintro _ ⟨⟩
      exact ⟨f.drop id, hkeeps.holds, f.drop_self id⟩
    · cases he
  | _ => cases he

/-- What comes of an operation on a store: what comes of it without troubles, or a fault since the caller has given up. -/
def Undisturbed {α : Type} (w : World) (r calm : Except Fault α × World) : Prop :=
  r.1 = calm.1 ∧ r.2.storage = calm.2.storage ∨
    ∃ e activity, w.patience = .error e ∧ r.1 = .error (Sql.failure activity e)

/-- A script on an open database is undisturbed, if it fails with the caller's reason whenever statements are refused. -/
theorem script_undisturbed {α : Type} {w : World} {db : Sql.Database} (ho : db.closed = false) {s : Sql.Script α}
    (h : ∀ e, w.accepts db = .error e →
      ∃ activity, Program.run w.driverAnswer s.run (db, w.entries) = (.error (Sql.failure activity e), (db, w.entries))) :
    w.Undisturbed (w.script db s) (w.calm.script db s) := by
  cases hp : w.patience with
  | ok _ => exact .inl (script_calm hp db s)
  | error e =>
    have hrefused : w.accepts db = .error e := by
      rw [accepts, ho]
      exact hp
    obtain ⟨activity, hrun⟩ := h e hrefused
    exact .inr ⟨e, activity, hp, congrArg Prod.fst hrun⟩

/-- A call of the store is undisturbed where nothing is made to fail, if what it runs is. -/
theorem onStore_undisturbed {α : Type} {w : World} (hf : w.failing = []) {p : Point}
    {run run' : Storage → Except Fault α × World} (h : w.Undisturbed (run w.storage) (run' w.storage)) :
    w.Undisturbed (w.onStore p run) (w.calm.onStore p run') := by
  have hworks : w.onStore p run = run w.storage := by
    rw [onStore, failure?, hf]
    rfl
  rw [hworks]
  exact h

/-- A store that works answers as in a world without troubles, but for a caller that has given up. -/
theorem answer_undisturbed {w : World} (hf : w.failing = []) (ho : ∀ db, w.storage = .database db → db.closed = false)
    {c : Call} (hstore : c.toStore = true) (hc : c.StoresValid) :
    (answer c w).1 = (answer c w.calm).1 ∧ (answer c w).2.storage = (answer c w.calm).2.storage ∨
      ∃ e activity, w.patience = .error e ∧ c.failed (Sql.failure activity e) = some (answer c w).1 := by
  have given_up : ∀ {α : Type} {r : Except Fault α}, (∃ e activity, w.patience = .error e ∧ r = .error (Sql.failure activity e)) →
      ∃ e activity, w.patience = .error e ∧ some (.error (Sql.failure activity e)) = some r := by
    rintro α r ⟨e, activity, hp, rfl⟩
    exact ⟨e, activity, hp, rfl⟩
  cases c with
  | findById id =>
    refine (onStore_undisturbed hf ?_).imp_right given_up
    cases hs : w.storage with
    | memory m => exact .inl ⟨rfl, rfl⟩
    | database db =>
      by_cases hid : User.maxId < id
      · simp only [script, Sql.findById, if_pos hid]
        exact .inl ⟨rfl, rfl⟩
      · refine script_undisturbed (ho db hs) fun e he => ?_
        rw [Sql.findById, if_neg hid]
        exact ⟨_, run_query_refused he _ _ _ _⟩
  | findByEmail email =>
    refine (onStore_undisturbed hf ?_).imp_right given_up
    cases hs : w.storage with
    | memory m => exact .inl ⟨rfl, rfl⟩
    | database db => exact script_undisturbed (ho db hs) fun e he => ⟨_, run_query_refused he _ _ _ _⟩
  | findAll =>
    refine (onStore_undisturbed hf ?_).imp_right given_up
    cases hs : w.storage with
    | memory m => exact .inl ⟨rfl, rfl⟩
    | database db => exact script_undisturbed (ho db hs) fun e he => ⟨_, run_query_refused he _ _ _ _⟩
  | save u =>
    have hid : ¬User.maxId < u.id := UInt64.not_lt.mpr (User.valid_iff.mp (hc u rfl)).2.1
    refine (onStore_undisturbed hf ?_).imp_right given_up
    cases hs : w.storage with
    | memory m => exact .inl ⟨rfl, rfl⟩
    | database db =>
      refine script_undisturbed (ho db hs) fun e he => ?_
      rw [Sql.save, if_neg hid]
      exact ⟨_, run_exec_refused he _ _ (.upsertUser u w.now) _⟩
  | delete id =>
    refine (onStore_undisturbed hf ?_).imp_right given_up
    cases hs : w.storage with
    | memory m => exact .inl ⟨rfl, rfl⟩
    | database db =>
      by_cases hid : User.maxId < id
      · simp only [script, Sql.delete, if_pos hid]
        exact .inl ⟨rfl, rfl⟩
      · refine script_undisturbed (ho db hs) fun e he => ?_
        rw [Sql.delete, if_neg hid]
        exact ⟨_, run_exec_refused he _ _ (.deleteUser id) _⟩
  | _ => cases hstore

/-- Whatever is wrong with an answer of a sound store, there is reason for it. -/
theorem Sane.flaw_justified {w : World} (h : w.Sane) {c : Call} (hc : c.StoresValid) {e : Fault}
    (he : c.flaw? (World.answer c w).1 = some e) : e.Justified (World.answer c w).2.storage := by
  obtain ⟨f, hholds, -⟩ := h.sound
  have hopen : ∀ db, w.storage = .database db → db.closed = false := by
    intro db hs
    rw [hs] at hholds
    obtain ⟨us, ht, -⟩ := hholds
    exact ht.opened
  have hstore : c.toStore = true := Call.toStore_of_flaw he
  obtain ⟨hanswer, hstorage⟩ | ⟨e', activity, hp, hfailed⟩ := answer_undisturbed h.failing hopen hstore hc
  · rw [hanswer] at he
    rw [hstorage]
    exact (keeps_calm hholds).flaw_justified hc he
  · rw [Call.flaw?_of_failed (Call.toCache_of_toStore hstore) hfailed] at he
    obtain rfl := Option.some.inj he
    exact (patience_justified hp _).congr rfl

/-! ## Histories -/

section Shaky

variable {faults : Call → Fault → Prop} {c : Call} {w t : World} {x : c.Answer}

/-- One call in a shaky world: a sound store stays sound and brings valid users only, and there is reason for what is wrong
with its answer, unless the call has been made to fail. -/
theorem Sane.shaky (h : w.Sane) (hc : c.StoresValid) (hm : Shaky faults c w x t) :
    t.Sane ∧ c.BringsValid x ∧ ∀ e, c.flaw? x = some e → e.Founded faults t.storage := by
  obtain ⟨v, hv, hanswer | ⟨rfl, f, hf, hx⟩⟩ := hm
  · have hsane := h.passes hv
    have hflaw : ∀ e, c.flaw? (World.answer c v).1 = some e → e.Founded faults (World.answer c v).2.storage :=
      fun e he => .inr (hsane.flaw_justified hc he)
    have hnext : (World.answer c v).2.Sane ∧ c.BringsValid (World.answer c v).1 :=
      ⟨hsane.answer hc, brings_valid hsane.sound c⟩
    rw [hanswer] at hflaw hnext
    exact ⟨hnext.1, hnext.2, hflaw⟩
  · refine ⟨h.passes hv, ?_, fun e he => ?_⟩
    · cases c with
      | findById id =>
        obtain rfl := Option.some.inj hx
        exact nofun
      | _ => trivial
    · rw [Call.flaw?_of_failed (Call.toCache_of_toStore (Call.toStore_of_flaw he)) hx] at he
      obtain rfl := Option.some.inj he
      exact .inl ⟨c, f, hf, rfl⟩

end Shaky

/-- A run in a shaky world: a sound store stays sound. -/
theorem Sane.runs {α : Type} {faults : Call → Fault → Prop} {p : Act α}
    (hp : OnlyGiven Call.BringsValid Call.StoresValid p) {w v : World} (h : w.Sane) {r : α} (hr : Runs (Shaky faults) p w r v) :
    v.Sane := by
  have hensures : Ensures (Shaky faults) p (fun _ t => t.Sane) w := by
    refine hp.ensures (fun c s x t hc hs hm => ?_) h
    obtain ⟨hsane, hbrings, -⟩ := hs.shaky hc hm
    exact ⟨hbrings, hsane⟩
  exact hensures.of_runs hr

/-- The error that a program ends with which accounts for its errors. -/
theorem Sane.founded {α : Type} {faults : Call → Fault → Prop} {p : Act (Except Fault α)}
    (hp : OnlyGiven Call.BringsValid Call.StoresValid p) {last : Option Fault} (ha : Accounts p last) {w v : World}
    (h : w.Sane) (hlast : ∀ f, last = some f → f.Founded faults w.storage) {e : Fault}
    (hr : Runs (Shaky faults) p w (.error e) v) : e.Founded faults v.storage := by
  induction p generalizing last w with
  | done r =>
    cases hr
    rcases ha e rfl with hown | ⟨f, hf, hroot⟩
    · exact .inr (hown _)
    · exact (hlast f hf).congr hroot
  | call c next ih =>
    obtain _ | ⟨hm, hrest⟩ := hr
    obtain ⟨hsane, hbrings, hflaw⟩ := h.shaky hp.1 hm
    exact ih _ (hp.2 _ hbrings) (ha _) hsane hflaw hrest

/-- A sign-in that succeeds in a shaky world is answered with a token for a stored user with a known role. -/
theorem Sane.login {faults : Call → Fault → Prop} {s : SignIn} {w v : World} (h : w.Sane) {email password token : Text}
    (hr : Runs (Shaky faults) (s.login email password).run w (.ok token) v) :
    ∃ (f : Register) (u : User) (role : Role) (now : Timestamp), v.storage.Holds f ∧ f u.id = some u ∧
      Role.parse? u.role = some role ∧ token = Token.issue s.secret now u.role (User.key u.id) := by
  rw [SignIn.run_login] at hr
  obtain _ | @⟨_, _, _, t, _, x, _, hfind, hrest⟩ := hr
  rcases x with e | _ | u
  · cases hrest
  · cases hrest
  · dsimp only at hrest
    split at hrest
    · obtain _ | ⟨hnow, hdone⟩ := hrest
      have hlater := hnow.passes_of_quiet ⟨rfl, rfl⟩
      have hstored := hfind.passes_of_quiet ⟨rfl, rfl⟩
      cases hdone
      obtain ⟨f, hholds, hvalid⟩ := h.sound
      have hu : f u.id = some u := by
        obtain ⟨v', hv', hanswer | ⟨-, e, -, hfailed⟩⟩ := hfind
        · exact found_stored (hv'.storage ▸ hholds) (congrArg Prod.fst hanswer)
        · cases hfailed
      obtain ⟨role, hrole⟩ := Option.isSome_iff_exists.mp (User.valid_iff.mp (hvalid u.id u hu)).2.2.2.2
      refine ⟨f, u, role, _, ?_, hu, hrole, rfl⟩
      rw [hlater.storage, hstored.storage]
      exact hholds
    · cases hrest

/-- The worlds in which operations can be carried out one after the other, from an empty store on, where calls fail with the
given faults. -/
inductive Arises (faults : Call → Fault → Prop) (s : SignIn) (cached : Bool) : World → Prop where
  | start {w : World} : (w.storage.Holds fun _ => none) → w.failing = [] → Arises faults s cached w
  | passes {w v : World} : Arises faults s cached w → w.Passes v → Arises faults s cached v
  | operation {w v : World} {r : Except Fault Outcome} (o : Operation) : Arises faults s cached w →
      Runs (Shaky faults) (o.task s cached).run w r v → Arises faults s cached v

/-- Whatever operations have left is sane. -/
theorem Arises.sane {faults : Call → Fault → Prop} {s : SignIn} {cached : Bool} {w : World} (h : Arises faults s cached w) :
    w.Sane := by
  induction h with
  | start hempty hf => exact ⟨Storage.sound_of_empty hempty, hf⟩
  | passes _ hv ih => exact ih.passes hv
  | operation o _ hr ih => exact ih.runs (o.task_valid s cached) hr

/-- A sane store holds users under their ids who have all that the check asks for. -/
theorem Sane.users {w : World} (h : w.Sane) :
    ∃ f : Register, w.storage.Holds f ∧ ∀ id u, f id = some u →
      u.id = id ∧ 1 ≤ u.id ∧ u.id ≤ User.maxId ∧ u.name ≠ [] ∧ u.email ≠ [] ∧ ∃ role, Role.parse u.role = .ok role := by
  obtain ⟨f, hholds, hvalid⟩ := h.sound
  refine ⟨f, hholds, fun id u hu => ?_⟩
  obtain ⟨hzero, hmax, hname, hemail, hrole⟩ := User.valid_iff.mp (hvalid id u hu)
  obtain ⟨role, hrole⟩ := Option.isSome_iff_exists.mp hrole
  have hone : 1 ≤ u.id := by
    rw [UInt64.le_iff_toNat_le]
    exact Nat.one_le_iff_ne_zero.mpr fun hn => hzero (UInt64.toNat_inj.mp hn)
  exact ⟨(keeps_calm hholds).id_eq hu, hone, hmax, hname, hemail, role, by rw [Role.parse, hrole]⟩

end World

/-! ## Roles in tokens -/

namespace Token

/-- What is verified of a token are the claims of its payload. -/
theorem claims?_of_verify? {secret header payload : Text} {c : Claims} {now : Timestamp}
    (hheader : algorithm? header = some algorithm) (h : verify? secret now (sign secret header payload) = some c) :
    claims? payload = some c := by
  cases hclaims : claims? payload with
  | some c' =>
    rw [verify?_sign_eq hheader hclaims] at h
    split at h
    · exact h
    · cases h
  | none =>
    rw [verify?, split_sign] at h
    simp [Text.ofBase64_toBase64, hclaims] at h

/-- The claims of an issued token, if they can be read at all, name the role and the subject. -/
theorem role_of_claims? {role subject : Text} (hrole : role.repaired = role) (hsubject : subject.repaired = subject)
    {now : Timestamp} {c : Claims} (h : claims? (payload role subject now).render = some c) :
    c.role = role ∧ c.subject = subject := by
  have hparse : Json.parse (payload role subject now).render = .ok (payload role subject now) :=
    Json.parse_render (clean_payload hrole hsubject now)
      (by simp [payload, Json.height, Json.heightMembers, Json.Parse.maxDepth, Json.int])
  obtain ⟨hnull, -⟩ | ⟨members, hmembers, hread⟩ := claims?_eq_some.mp h
  · rw [hparse] at hnull
    cases hnull
  · rw [hparse] at hmembers
    obtain rfl := Json.object.inj (Except.ok.inj hmembers)
    obtain ⟨hr, hs, -, -⟩ := claims_of_readMembers hread
    exact ⟨hr, hs⟩

end Token

/-- Whenever the token of a user is accepted at all, it stands for the user and its role. -/
theorem SignIn.identity?_of_verify? (s : SignIn) (id : UInt64) (role : Role) {now later : Timestamp} {c : Token.Claims}
    (h : Token.verify? s.secret later (Token.issue s.secret now role.name (User.key id)) = some c) :
    s.identity? later (Token.issue s.secret now role.name (User.key id)) = some ⟨id, role⟩ := by
  have hkey : (User.key id).repaired = User.key id := Text.repaired_decimal id.toNat
  obtain ⟨hrole, hsubject⟩ := Token.role_of_claims? role.name_repaired hkey (Token.claims?_of_verify? Token.algorithm?_header h)
  rw [identity?, h]
  simp [hrole, hsubject, readId?_key, Role.parse?_name]

namespace World

/-- From an empty store, in memory or in a table, through any operations with any arguments, while calls to the store or the
cache fail without effect and callers give up.
1. Every stored user is stored under its own id, and is valid.
2. An operation that fails does so for the fault of a call that was made to fail, or else for a cause that is neither the
   table's check of roles nor its limit on ids; and where a user is reported absent, there is none.
3. A sign-in that succeeds gives a token for a stored user: whenever the token is accepted at all, it stands for that user and
   its role, and it is accepted until it expires. -/
theorem stored_users_are_valid {secret : Text} {cost : Int} {forgets cached : Bool} {faults : Call → Fault → Prop} {w : World}
    (h : Arises faults ⟨secret, Password.salted cost, forgets⟩ cached w) :
    (∃ f : Register, w.storage.Holds f ∧ ∀ id u, f id = some u →
      u.id = id ∧ 1 ≤ u.id ∧ u.id ≤ User.maxId ∧ u.name ≠ [] ∧ u.email ≠ [] ∧ ∃ role, Role.parse u.role = .ok role) ∧
    (∀ (o : Operation) (e : Fault) (v : World),
      Runs (Shaky faults) (o.task ⟨secret, Password.salted cost, forgets⟩ cached).run w (.error e) v →
        (∃ c f, faults c f ∧ f.root = e.root) ∨
          e.root ≠ Sql.roleRefused ∧ (∀ id, e.root ≠ .idTooLarge id) ∧
            ∀ id, e.root = .userAbsent id → ∃ g : Register, v.storage.Holds g ∧ g id = none) ∧
    ∀ (email password token : Text) (v : World),
      Runs (Shaky faults) (SignIn.login ⟨secret, Password.salted cost, forgets⟩ email password).run w (.ok token) v →
        ∃ (g : Register) (u : User) (role : Role) (now : Timestamp), v.storage.Holds g ∧ g u.id = some u ∧
          Role.parse u.role = .ok role ∧ token = Token.issue secret now u.role (User.key u.id) ∧
          (∀ later c, Token.verify? secret later token = some c →
            SignIn.identity? ⟨secret, Password.salted cost, forgets⟩ later token = some ⟨u.id, role⟩) ∧
          (Token.Datable now → ∀ later : Timestamp, later.instant < Token.expiry now →
            SignIn.identity? ⟨secret, Password.salted cost, forgets⟩ later token = some ⟨u.id, role⟩) := by
  refine ⟨h.sane.users, fun o e v hr => ?_, fun email password token v hr => ?_⟩
  · obtain hinjected | hjustified := h.sane.founded (o.task_valid _ cached) (o.task_accounts _ rfl cached) nofun hr
    · exact .inl hinjected
    · exact .inr ⟨hjustified.role, hjustified.id, hjustified.absent⟩
  · obtain ⟨g, u, role, now, hholds, hu, hrole, rfl⟩ := h.sane.login hr
    refine ⟨g, u, role, now, hholds, hu, by rw [Role.parse, hrole], rfl, fun later c hc => ?_, fun hdate later hlater => ?_⟩
    · rw [Role.name_of_parse? hrole] at hc ⊢
      exact SignIn.identity?_of_verify? ⟨secret, Password.salted cost, forgets⟩ u.id role hc
    · rw [Role.name_of_parse? hrole]
      rw [SignIn.identity?_issue ⟨secret, Password.salted cost, forgets⟩ hdate u.id role later, if_pos hlater]

/-- An empty table is seeded with Ann and with a user whose role is not known, while looking into the cache fails: seeding stops
at the second one, and what is stored, Ann alone, is valid. -/
theorem half_seeded_table_is_valid :
    let ann : User := { id := 1, name := "Ann", email := "ann@example.com", role := "viewer" }
    let s : SignIn := ⟨"secret", Password.salted 4, true⟩
    let empty : World := { clock := 0, storage := .database { users := some [] } }
    let r := empty.attempt ((Operation.seed [ann, { ann with id := 2, role := "owner" }]).task s true)
    r.1 = .error (.during "seed user 2" (.roleUnknown "owner")) ∧
      (Arises (fun c _ => c.toCache = true) s true r.2 ∧
        ∃ f : Register, r.2.storage.Holds f ∧ ∀ id u, f id = some u →
          u.id = id ∧ 1 ≤ u.id ∧ u.id ≤ User.maxId ∧ u.name ≠ [] ∧ u.email ≠ [] ∧ ∃ role, Role.parse u.role = .ok role) ∧
      (r.2.attempt (Users.get false 1)).1 = .ok { ann with createdAt := empty.now, updatedAt := empty.now } := by
  intro ann s empty r
  have hstart : Arises (fun c _ => c.toCache = true) s true empty :=
    .start ⟨[], ⟨rfl, rfl, .nil, nofun⟩, .nil⟩ rfl
  have hseeded : Arises (fun c _ => c.toCache = true) s true r.2 := .operation _ hstart (runs_attempt _ _ empty)
  exact ⟨rfl, ⟨hseeded, (stored_users_are_valid hseeded).1⟩, rfl⟩

end World

end Roster
