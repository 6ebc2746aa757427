import Roster.Proofs.Contract
import Roster.Proofs.Endpoints

/-!
# Stores hold valid users only

The services check a user before they store it, and what they store otherwise is a stored user with some fields changed that
the check does not look at. So whatever they are asked to do, a store that starts out empty holds valid users only, also when
calls fail in between: a call of a store that is in trouble has no effect at all.
-/

namespace Roster

open Program

/-! ## Valid users -/

/-- A user that passes the check made before it is stored. -/
def User.Valid (u : User) : Prop := Users.check u = .ok ()

namespace User

/-- What the check looks at: an id in range, a name, an email and a role that is known. -/
theorem valid_iff {u : User} :
    u.Valid ↔ u.id ≠ 0 ∧ u.id ≤ maxId ∧ u.name ≠ [] ∧ u.email ≠ [] ∧ (Role.parse? u.role).isSome = true := by
  have hrole : (Role.parse u.role).map (fun _ => ()) = .ok () ↔ (Role.parse? u.role).isSome = true := by
    unfold Role.parse
    cases Role.parse? u.role <;> simp [Except.map]
  simp only [Valid, Users.check, Bool.or_eq_true, beq_iff_eq, decide_eq_true_eq, List.isEmpty_iff]
  split
  · rename_i h
    simp only [reduceCtorEq, false_iff]
    rintro ⟨hzero, hmax, -⟩
    exact h.elim hzero (UInt64.not_lt.mpr hmax)
  · rename_i h
    split
    · rename_i h'
      simp only [reduceCtorEq, false_iff]
      rintro ⟨-, -, hname, hemail, -⟩
      exact h'.elim hname hemail
    · rename_i h'
      rw [hrole]
      rw [not_or] at h h'
      exact ⟨fun hr => ⟨h.1, UInt64.not_lt.mp h.2, h'.1, h'.2, hr⟩, fun hv => hv.2.2.2.2⟩

/-- The check looks at four fields. -/
theorem Valid.congr {u v : User} (h : u.Valid) (hid : v.id = u.id) (hname : v.name = u.name) (hemail : v.email = u.email)
    (hrole : v.role = u.role) : v.Valid := by
  rw [valid_iff] at h ⊢
  rwa [hid, hname, hemail, hrole]

/-- The check does not look at the hash, so a user that takes one over stays valid. -/
theorem Valid.withHashOf {u : User} (h : u.Valid) (old : Option User) : (Users.withHashOf u old).Valid := by
  cases old with
  | none => exact h
  | some v => exact h.congr rfl rfl rfl rfl

end User

/-! ## Calls with valid users -/

/-- A look-up by id finds valid users only. -/
def Call.BringsValid : (c : Call) → c.Answer → Prop
  | .findById _, x => ∀ u, x = .ok (some u) → u.Valid
  | _, _ => True

/-- A call that stores a user stores a valid one. -/
def Call.StoresValid (c : Call) : Prop := ∀ u, c = .save u → u.Valid

/-- A call that only reads stores nothing. -/
theorem Call.Reads.storesValid {c : Call} (h : c.Reads) : c.StoresValid := by
  rintro u rfl
  cases h

theorem Call.storesValid_delete (id : UInt64) : (Call.delete id).StoresValid := nofun

/-- Saving a valid user stores a valid user. -/
theorem Call.storesValid_save {u : User} (h : u.Valid) : (Call.save u).StoresValid := by
  intro v hv
  cases hv
  exact h

/-- A program that only reads stores valid users only. -/
theorem storesValid_of_reads {α : Type} {p : Act α} (h : Only Call.Reads p) : Only Call.StoresValid p :=
  h.mono fun _ hc => hc.storesValid

/-- A program that leaves the store alone stores valid users only. -/
theorem storesValid_of_idle {α : Type} {p : Act α} (h : Only Call.Idle p) : Only Call.StoresValid p :=
  h.mono fun _ hc => (Call.Idle.reads hc).storesValid

namespace Users

variable (cached : Bool)

/-- Storing a valid user, and remembering it, stores valid users only. -/
theorem store_valid {u : User} (h : u.Valid) : Only Call.StoresValid (store cached u) := by
  refine ⟨Call.storesValid_save h, fun r => ?_⟩
  cases r with
  | error f => trivial
  | ok v => exact (storesValid_of_idle (remember_idle cached v)).bind fun _ => trivial

/-- Whatever user is to be saved, one that is stored has passed the check. -/
theorem save_valid (u : User) : Only Call.StoresValid (save cached u).run := by
  rw [run_save]
  cases hcheck : check u with
  | error f => trivial
  | ok _ =>
    have hu : u.Valid := hcheck
    dsimp only
    rw [run_keepHash]
    split
    · refine ⟨nofun, fun r => ?_⟩
      cases r with
      | error f => trivial
      | ok old => exact store_valid cached (hu.withHashOf old)
    · exact store_valid cached hu

/-- Deleting a user stores nobody. -/
theorem delete_valid (id : UInt64) : Only Call.StoresValid (delete cached id).run := by
  rw [run_delete]
  refine ⟨Call.storesValid_delete id, fun r => ?_⟩
  cases r with
  | error f => trivial
  | ok _ => exact (storesValid_of_idle (forget_idle cached id)).bind fun _ => trivial

/-- Deactivating stores a valid user, if the store brings valid users: it stores the one it was brought, with the flag
cleared. -/
theorem deactivate_valid (id : UInt64) : OnlyGiven Call.BringsValid Call.StoresValid (deactivate cached id).run := by
  rw [run_deactivate]
  refine ⟨nofun, fun r hr => ?_⟩
  rcases r with f | _ | u
  · trivial
  · trivial
  · have hu : u.Valid := hr u rfl
    have hinactive : u.deactivate.Valid := hu.congr rfl rfl rfl rfl
    exact (store_valid cached hinactive).given

/-- Saving several users stores valid users only, also if one of them is refused on the way. -/
theorem saveAll_valid (us : List User) : Only Call.StoresValid (saveAll cached us).run := by
  induction us with
  | nil => trivial
  | cons u rest ih =>
    rw [run_saveAll_cons]
    refine (save_valid cached u).bind fun r => ?_
    cases r with
    | error f => trivial
    | ok _ => exact ih

/-- Seeding stores valid users only. -/
theorem seed_valid (us : List User) : Only Call.StoresValid (seed cached us).run := by
  rw [run_seed]
  refine ⟨nofun, fun r => ?_⟩
  cases r with
  | error f => trivial
  | ok stored =>
    dsimp only
    split
    · refine (saveAll_valid cached us).bind fun r => ?_
      cases r <;> trivial
    · trivial

end Users

/-- Setting a password stores a valid user, if the store brings valid users: the check does not look at the hash. -/
theorem SignIn.setPassword_valid (s : SignIn) (id : UInt64) (password : Text) :
    OnlyGiven Call.BringsValid Call.StoresValid (s.setPassword id password).run := by
  rw [run_setPassword]
  split
  · trivial
  · refine ⟨nofun, fun r hr => ?_⟩
    rcases r with f | _ | u
    · trivial
    · trivial
    · have hu : u.Valid := hr u rfl
      refine ⟨nofun, fun salt _ => ?_⟩
      dsimp only
      split
      · trivial
      · refine ⟨Call.storesValid_save (hu.congr rfl rfl rfl rfl), fun r _ => ?_⟩
        cases r with
        | error f => trivial
        | ok _ => exact (storesValid_of_idle (Users.forget_idle s.cached id)).given.bind fun _ => trivial

/-- As long as every user it is brought is valid, an operation stores valid users only. -/
theorem Operation.task_valid (s : SignIn) (cached : Bool) (o : Operation) :
    OnlyGiven Call.BringsValid Call.StoresValid (o.task s cached).run := by
  have quiet : ∀ {α : Type} {p : Act α}, Only Call.Quiet p → OnlyGiven Call.BringsValid Call.StoresValid p := fun h =>
    (storesValid_of_reads (h.mono fun _ hc => hc.1)).given
  cases o <;> rw [task, Task.run_map] <;> refine OnlyGiven.bind ?_ fun _ => trivial
  case get id => exact (storesValid_of_reads ((Users.get_looksUp cached id).mono fun _ hc => hc.reads)).given
  case list => exact quiet Users.list_quiet
  case save u => exact (Users.save_valid cached u).given
  case delete id => exact (Users.delete_valid cached id).given
  case deactivate id => exact Users.deactivate_valid cached id
  case groupByRole activeOnly => exact quiet (Users.groupByRole_quiet activeOnly)
  case seed us => exact (Users.seed_valid cached us).given
  case setPassword id password => exact s.setPassword_valid id password
  case login email password => exact quiet (s.login_quiet email password)
  case validate token => exact quiet (s.validate_quiet token)
  case authenticate token => exact quiet (s.authenticate_quiet token)

/-! ## Stores in trouble -/

namespace World

/-- The world without its troubles: nothing is made to fail, and the caller waits. -/
def calm (w : World) : World := { w with failing := [], canceled := false, deadline := none }

/-- A calm world holds the users of the world it was made of. -/
theorem keeps_calm {w : World} {f : Register} (h : w.storage.Holds f) : w.calm.Keeps f := ⟨⟨h, rfl⟩, rfl⟩

/-- What comes of an operation on a store is what comes of it without troubles, or else a fault and no change. -/
def Settles {α : Type} (w : World) (r calm : Except Fault α × World) : Prop :=
  r.1 = calm.1 ∧ r.2.storage = calm.2.storage ∨ (∃ f, r.1 = .error f) ∧ r.2.storage = w.storage

/-- To a caller that waits, a database answers as in a world without troubles. -/
theorem script_calm {α : Type} {w : World} (hp : w.patience = .ok ()) (db : Sql.Database) (s : Sql.Script α) :
    (w.script db s).1 = (w.calm.script db s).1 ∧ (w.script db s).2.storage = (w.calm.script db s).2.storage := by
  have hcalm : w.calm.driverAnswer = w.driverAnswer := (driverAnswer_of_patience rfl).trans (driverAnswer_of_patience hp).symm
  simp only [script, hcalm]
  exact ⟨rfl, rfl⟩

section Refused

variable {α : Type} {w : World} {db : Sql.Database} {e : Fault} (h : w.accepts db = .error e) (log : List Log.Entry)

include h

/-- A query that the database refuses ends the script that makes it, with the tables as they were. -/
theorem run_query_refused (activity : Text) (q : Sql.Query) (k : Sql.ResultSet → Sql.Script α) :
    Program.run w.driverAnswer (Sql.query activity q >>= k).run (db, log) = (.error (Sql.failure activity e), (db, log)) := by
  have hd : w.driverAnswer (.query q) (db, log) = (.error e, (db, log)) := by
    simp only [driverAnswer, h]
    rfl
  show Program.run w.driverAnswer (Program.call (I := Sql.Driver) (.query q) _) (db, log) = _
  rw [run_call, hd]
  rfl

/-- A command that the database refuses ends the script that makes it, with the tables as they were. -/
theorem run_exec_refused (activity : Text) (c : Sql.Command) (k : Except Fault Int → Sql.Script α) :
    Program.run w.driverAnswer (Sql.exec activity c >>= k).run (db, log) = (.error (Sql.failure activity e), (db, log)) := by
  have hd : w.driverAnswer (.exec c) (db, log) = (.error e, (db, log)) := by
    simp only [driverAnswer, h]
  show Program.run w.driverAnswer (Program.call (I := Sql.Driver) (.exec c) _) (db, log) = _
  rw [run_call, hd]
  rfl

/-- On a database that refuses every statement, saving fails and leaves the tables as they were. -/
theorem run_save_refused (u : User) :
    ∃ f, Program.run w.driverAnswer (Sql.save u).run (db, log) = (.error f, (db, log)) := by
  unfold Sql.save
  by_cases hid : User.maxId < u.id
  · rw [if_pos hid]
    exact ⟨_, rfl⟩
  · rw [if_neg hid]
    exact ⟨_, run_exec_refused h log _ (.upsertUser u w.now) _⟩

/-- On a database that refuses every statement, deleting fails and leaves the tables as they were. -/
theorem run_delete_refused (id : UInt64) :
    ∃ f, Program.run w.driverAnswer (Sql.delete id).run (db, log) = (.error f, (db, log)) := by
  unfold Sql.delete
  by_cases hid : User.maxId < id
  · rw [if_pos hid]
    exact ⟨_, rfl⟩
  · rw [if_neg hid]
    exact ⟨_, run_exec_refused h log _ (.deleteUser id) _⟩

end Refused

/-- A script settles, if it fails without effect whenever the database refuses its statements. -/
theorem script_settles {α : Type} {w : World} {db : Sql.Database} (hs : w.storage = .database db) {s : Sql.Script α}
    (h : ∀ e, w.accepts db = .error e → ∃ f, Program.run w.driverAnswer s.run (db, w.entries) = (.error f, (db, w.entries))) :
    w.Settles (w.script db s) (w.calm.script db s) := by
  cases hp : w.patience with
  | ok _ => exact .inl (script_calm hp db s)
  | error e =>
    have hrefused : ∃ e, w.accepts db = .error e := by
      unfold accepts
      split
      · exact ⟨_, rfl⟩
      · exact ⟨e, hp⟩
    obtain ⟨e, he⟩ := hrefused
    obtain ⟨f, hf⟩ := h e he
    refine .inr ⟨⟨f, ?_⟩, ?_⟩
    · simp only [script, hf]
    · simp only [script, hf, hs]

/-- A call of the store settles, if it does so wherever it does not fail at once. -/
theorem onStore_settles {α : Type} {w : World} {p : Point} {run run' : Storage → Except Fault α × World}
    (h : w.Settles (run w.storage) (run' w.storage)) : w.Settles (w.onStore p run) (w.calm.onStore p run') := by
  have hcalm : w.calm.onStore p run' = run' w.storage := rfl
  rw [hcalm]
  unfold onStore
  split
  · exact .inr ⟨⟨_, rfl⟩, rfl⟩
  · exact h

/-- Looking a user up by id fails without effect, or does what it does in a calm world. -/
theorem findById_settles (w : World) (id : UInt64) : w.Settles (answer (.findById id) w) (answer (.findById id) w.calm) := by
  refine onStore_settles ?_
  cases hs : w.storage with
  | memory m => exact .inl ⟨rfl, rfl⟩
  | database db =>
    by_cases hid : User.maxId < id
    · simp only [script, Sql.findById, if_pos hid]
      exact .inl ⟨rfl, rfl⟩
    · refine script_settles hs fun e he => ?_
      rw [Sql.findById, if_neg hid]
      exact ⟨_, run_query_refused he _ _ _ _⟩

/-- Looking a user up by email fails without effect, or does what it does in a calm world. -/
theorem findByEmail_settles (w : World) (email : Text) :
    w.Settles (answer (.findByEmail email) w) (answer (.findByEmail email) w.calm) := by
  refine onStore_settles ?_
  cases hs : w.storage with
  | memory m => exact .inl ⟨rfl, rfl⟩
  | database db => exact script_settles hs fun e he => ⟨_, run_query_refused he _ _ _ _⟩

/-- Saving fails without effect, or does what it does in a calm world. -/
theorem save_settles (w : World) (u : User) : w.Settles (answer (.save u) w) (answer (.save u) w.calm) := by
  refine onStore_settles ?_
  cases hs : w.storage with
  | memory m => exact .inl ⟨rfl, rfl⟩
  | database db => exact script_settles hs fun e he => run_save_refused he _ u

/-- Deleting fails without effect, or does what it does in a calm world. -/
theorem delete_settles (w : World) (id : UInt64) : w.Settles (answer (.delete id) w) (answer (.delete id) w.calm) := by
  refine onStore_settles ?_
  cases hs : w.storage with
  | memory m => exact .inl ⟨rfl, rfl⟩
  | database db => exact script_settles hs fun e he => run_delete_refused he _ id

end World

/-! ## Stores of valid users -/

/-- A store holds a register of valid users. -/
def Storage.Sound (st : Storage) : Prop := ∃ f : Register, st.Holds f ∧ f.All User.Valid

/-- An empty store is sound. -/
theorem Storage.sound_of_empty {st : Storage} (h : st.Holds fun _ => none) : st.Sound := ⟨_, h, nofun⟩

namespace World

/-- A sound store brings valid users only. -/
theorem brings_valid {w : World} (h : w.storage.Sound) (c : Call) : c.BringsValid (answer c w).1 := by
  cases c with
  | findById id =>
    intro u hu
    obtain ⟨f, hf, hvalid⟩ := h
    obtain ⟨hsame, -⟩ | ⟨⟨e, he⟩, -⟩ := w.findById_settles id
    · rw [hsame, (keeps_calm hf).findById id] at hu
      exact hvalid id u (Except.ok.inj hu)
    · rw [he] at hu
      cases hu
  | _ => trivial

/-- One call: storing valid users only keeps the store sound. -/
theorem answer_sound {w : World} (h : w.storage.Sound) {c : Call} (hc : c.StoresValid) : (answer c w).2.storage.Sound := by
  obtain ⟨f, hf, hvalid⟩ := h
  have hkeeps := keeps_calm hf
  cases c with
  | save u =>
    have hu : u.Valid := hc u rfl
    obtain ⟨-, hsame⟩ | ⟨-, hsame⟩ := w.save_settles u
    · obtain ⟨-, hid, -, -, hrole⟩ := User.valid_iff.mp hu
      rw [hsame]
      exact ⟨_, (hkeeps.save hid hrole).2.holds, hvalid.put (hu.congr rfl rfl rfl rfl)⟩
    · rw [hsame]
      exact ⟨f, hf, hvalid⟩
  | delete id =>
    obtain ⟨-, hsame⟩ | ⟨-, hsame⟩ := w.delete_settles id
    · rw [hsame]
      exact ⟨_, (hkeeps.delete id).2.holds, hvalid.drop id⟩
    · rw [hsame]
      exact ⟨f, hf, hvalid⟩
  | _ =>
    rw [answer_storage rfl w]
    exact ⟨f, hf, hvalid⟩

/-- A run of calls that stores valid users only keeps the store sound. -/
theorem run_sound {α : Type} {p : Act α} (hp : OnlyGiven Call.BringsValid Call.StoresValid p) {w : World}
    (h : w.storage.Sound) : (w.run p).2.storage.Sound :=
  hp.run_invariant (K := fun v => v.storage.Sound) (fun c _ hv => brings_valid hv c) (fun _ _ hc hv => answer_sound hv hc) h

end World

end Roster
