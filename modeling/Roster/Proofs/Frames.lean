import Roster.Proofs.Sessions
import Roster.Proofs.TableSaves

/-!
# Each operation touches what it names

Every write replaces a whole record by one that an operation has put together. Here, for the operations that name one id, which
fields of its record a success changes, and that no other record and no failure changes anything. What a single call does to a
store is said first, for a store that may be in trouble: it does what it does without troubles, or it fails and the store holds
what it held. Over a run of operations, the hash of a user can then be traced to the operations that set it.
-/

namespace Roster

open Program

/-! ## Stores in trouble -/

/-- A store in memory whose users have different ids holds what it finds. -/
theorem Store.Memory.holds_find? {m : Store.Memory} (h : (m.users.map User.id).Nodup) : (Storage.memory m).Holds m.find? :=
  Lists.of_nodup h

namespace World

/-- A table that does not take a user refuses it and stays as it is. -/
theorem run_save_of_not_takes (w : World) {db : Sql.Database} {u : User} (h : ¬db.Takes u) (log : List Log.Entry) :
    ∃ e, Program.run w.driverAnswer (Sql.save u).run (db, log) = (.error e, (db, log)) := by
  rw [Sql.run_save]
  by_cases hid : User.maxId < u.id
  · rw [if_pos hid]
    exact ⟨_, rfl⟩
  · have hexec : ∃ e, db.exec (.upsertUser u w.now) = (.error e, db) := by
      cases htable : db.table with
      | error e => exact ⟨e, by simp only [Sql.Database.exec, htable]⟩
      | ok rows =>
        have hrole : (Role.parse? u.role).isNone = true := by
          rw [← Option.not_isSome, Bool.not_eq_true', ← Bool.not_eq_true]
          intro hrole
          have hsome : db.users.isSome = true := by rw [Sql.Database.users_of_table htable]; rfl
          exact h ⟨UInt64.not_lt.mp hid, hsome, hrole⟩
        exact ⟨Sql.roleRefused, by simp only [Sql.Database.exec, htable, hrole, if_true]⟩
    have hanswer : ∃ e, w.driverAnswer (.exec (.upsertUser u w.now)) (db, log) = (.error e, (db, log)) := by
      obtain ⟨e, he⟩ := hexec
      simp only [driverAnswer]
      split
      · exact ⟨_, rfl⟩
      · exact ⟨e, by rw [he]; rfl⟩
    obtain ⟨e, he⟩ := hanswer
    have hnow : w.driverAnswer .now (db, log) = (w.now, (db, log)) := rfl
    rw [if_neg hid, run_call, hnow, run_call, he]
    exact ⟨_, rfl⟩

/-- A call that takes no time leaves the moment as it is. -/
theorem answer_now {c : Call} (h : c.timeless = true) (w : World) : (answer c w).2.now = w.now := by
  rw [now, answer_clock h, now]

variable {w : World} {f : Register}

/-- A look-up finds what the register says, or fails. -/
theorem findById_outcome (h : w.storage.Holds f) (id : UInt64) :
    (answer (.findById id) w).1 = .ok (f id) ∨ ∃ e, (answer (.findById id) w).1 = .error e := by
  obtain ⟨hsame, -⟩ | ⟨hfails, -⟩ := w.findById_settles id
  · exact .inl (hsame.trans ((keeps_calm h).findById id))
  · exact .inr hfails

/-- A user is stored with its times, and that is what is answered, or else nothing is stored. -/
theorem save_outcome (h : w.storage.Holds f) (u : User) :
    (answer (.save u) w).1 = .ok (f.stamped w.now u) ∧ (answer (.save u) w).2.storage.Holds (f.put (f.stamped w.now u)) ∨
      (∃ e, (answer (.save u) w).1 = .error e) ∧ (answer (.save u) w).2.storage = w.storage := by
  obtain ⟨hanswer, hstorage⟩ | hfails := w.save_settles u
  · rw [hanswer, hstorage]
    cases hs : w.storage with
    | memory m =>
      have hlists : Lists m.users f := by rwa [hs] at h
      have hsave := answer_save (w := w.calm) hs rfl u
      rw [hsave]
      exact .inl ⟨congrArg Except.ok (Store.Memory.save_eq_stamped hlists w.now u), Store.Memory.lists_save hlists w.now u⟩
    | database db =>
      by_cases htakes : db.Takes u
      · obtain ⟨hok, hkeeps⟩ := (keeps_calm h).save htakes.id htakes.role
        exact .inl ⟨hok, hkeeps.holds⟩
      · obtain ⟨e, he⟩ := w.calm.run_save_of_not_takes htakes w.calm.entries
        have hrun : answer (.save u) w.calm = (.error e, { w.calm with storage := .database db }) := by
          have hcalm : w.calm.storage = .database db := hs
          have hworks : w.calm.failure? .save = none := rfl
          simp only [answer, onStore, hworks, hcalm, script, he]
        rw [hrun]
        exact .inr ⟨⟨e, rfl⟩, rfl⟩
  · exact .inr hfails

/-- A user who is there is removed, or else nothing is. -/
theorem delete_outcome (h : w.storage.Holds f) (id : UInt64) :
    ((f id).isSome = true ∧ (answer (.delete id) w).1 = .ok ()) ∧ (answer (.delete id) w).2.storage.Holds (f.drop id) ∨
      (∃ e, (answer (.delete id) w).1 = .error e) ∧ (answer (.delete id) w).2.storage.Holds f := by
  obtain ⟨hanswer, hstorage⟩ | ⟨hfails, hstorage⟩ := w.delete_settles id
  · obtain ⟨hresult, hkeeps⟩ := (keeps_calm h).delete id
    rw [hanswer, hstorage, hresult]
    cases hu : f id with
    | none =>
      have hsame : f.drop id = f := Function.update_eq_self_iff.mpr hu.symm
      exact .inr ⟨⟨_, rfl⟩, hsame ▸ hkeeps.holds⟩
    | some u => exact .inl ⟨⟨rfl, rfl⟩, hkeeps.holds⟩
  · exact .inr ⟨hfails, hstorage ▸ h⟩

/-! ## Attempts at one record -/

/-- An attempt touches one record: every other one stays. If it fails, that one stays too; if it succeeds, it makes something of
it. -/
def Touches {α : Type} (f : Register) (id : UInt64) (makes : Option User → Option User → Prop)
    (x : Except Fault α × World) : Prop :=
  ∃ g : Register, x.2.storage.Holds g ∧ (∀ i, i ≠ id → g i = f i) ∧
    ((∃ e, x.1 = .error e) ∧ g = f ∨ (∃ a, x.1 = .ok a) ∧ makes (f id) (g id))

namespace Touches

variable {α β : Type} {id : UInt64} {makes : Option User → Option User → Prop}

theorem failed (h : w.storage.Holds f) (e : Fault) : Touches (α := α) f id makes (.error e, w) :=
  ⟨f, h, fun _ _ => rfl, .inl ⟨⟨e, rfl⟩, rfl⟩⟩

/-- What an attempt that has changed the record goes on to do aside does not matter. -/
theorem aside {p : Act β} {g : Register} (h : w.storage.Holds g) (hp : Only Call.Idle p) (a : α)
    (hframe : ∀ i, i ≠ id → g i = f i) (hmakes : makes (f id) (g id)) :
    Touches f id makes (w.run (p.bind fun _ => .done (.ok a))) := by
  have hsame : (w.run p).2.storage = w.storage := run_reads (hp.mono fun _ hc => Call.Idle.reads hc) w
  rw [run, run_bind]
  exact ⟨g, show (w.run p).2.storage.Holds g from hsame ▸ h, hframe, .inr ⟨⟨a, rfl⟩, hmakes⟩⟩

theorem map {t : Task α} (g : α → β) (h : Touches f id makes (w.attempt t)) : Touches f id makes (w.attempt (g <$> t)) := by
  obtain ⟨k, hk, hframe, hends⟩ := h
  rw [attempt, Task.run_map, run, run_bind]
  refine ⟨k, hk, hframe, ?_⟩
  obtain ⟨⟨e, he⟩, hsame⟩ | ⟨⟨a, ha⟩, hmakes⟩ := hends
  · exact .inl ⟨⟨e, congrArg (Except.map g) he⟩, hsame⟩
  · exact .inr ⟨⟨g a, congrArg (Except.map g) ha⟩, hmakes⟩

/-- Storing a user puts it with its times in the place of the record. -/
theorem store (h : w.storage.Holds f) {u : User} (hid : u.id = id) {next : Except Fault User → Act (Except Fault α)}
    (hfault : ∀ e, ∃ e', next (.error e) = .done (.error e'))
    (hnext : ∀ v, ∃ p : Act Unit, Only Call.Idle p ∧ ∃ a, next (.ok v) = p.bind fun _ => .done (.ok a))
    (hmakes : makes (f id) (some (f.stamped w.now u))) : Touches f id makes (w.run (.call (.save u) next)) := by
  subst hid
  rw [run, run_call]
  obtain ⟨hok, hholds⟩ | ⟨⟨e, he⟩, hstorage⟩ := save_outcome h u
  · rw [hok]
    obtain ⟨p, hp, a, hrest⟩ := hnext (f.stamped w.now u)
    rw [hrest]
    refine aside hholds hp a (fun i hi => f.put_of_ne hi) ?_
    rwa [show f.put (f.stamped w.now u) u.id = _ from f.put_self (f.stamped w.now u)]
  · rw [he]
    obtain ⟨e', he'⟩ := hfault e
    rw [he']
    exact failed (hstorage ▸ h) e'

end Touches

end World

/-! ## Operations that name an id -/

namespace Operation

/-- The id that an operation on one record names. -/
def names? : Operation → Option UInt64
  | .save u => some u.id
  | .deactivate id | .delete id | .setPassword id _ => some id
  | _ => none

/-- What an operation on one record makes of it when it succeeds at a moment. -/
def Makes (s : SignIn) (now : Timestamp) : Operation → Option User → Option User → Prop
  | .save u, old, new =>
    new = some { u with
      passwordHash := if u.passwordHash.isEmpty then (old.map User.passwordHash).getD [] else u.passwordHash
      createdAt := (old.map User.createdAt).getD now
      updatedAt := now }
  | .deactivate _, old, new => ∃ u, old = some u ∧ new = some { u with active := false, updatedAt := now }
  | .delete _, old, new => old.isSome = true ∧ new = none
  | .setPassword _ password, old, new => ∃ u salt hash, old = some u ∧ s.passwords.hash salt password = .ok hash ∧
      new = some { u with passwordHash := hash, updatedAt := now }
  | _, old, new => new = old

variable (s : SignIn) (cached : Bool) {w : World} {f : Register}

/-- The last part of saving and of deactivating. -/
theorem touches_store (h : w.storage.Holds f) {u : User} {id : UInt64} (hid : u.id = id)
    {makes : Option User → Option User → Prop} (hmakes : makes (f id) (some (f.stamped w.now u))) :
    World.Touches f id makes (w.run (Users.store cached u)) :=
  .store h hid (fun _ => ⟨_, rfl⟩) (fun v => ⟨_, Users.remember_idle cached v, v, rfl⟩) hmakes

theorem save_touches (h : w.storage.Holds f) (u : User) :
    World.Touches f u.id ((save u).Makes s w.now) (w.attempt (Users.save cached u)) := by
  rw [World.attempt, Users.run_save]
  cases Users.check u with
  | error e => exact .failed h e
  | ok _ =>
    dsimp only
    rw [Users.run_keepHash]
    by_cases hempty : u.passwordHash.isEmpty = true
    · rw [if_pos hempty, call_bind, World.run, run_call]
      have hstorage : (World.answer (.findById u.id) w).2.storage = w.storage := World.answer_storage rfl w
      obtain hfound | ⟨e, he⟩ := World.findById_outcome h u.id
      · have hnow : (World.answer (.findById u.id) w).2.now = w.now := World.answer_now rfl w
        rw [hfound]
        refine touches_store cached (hstorage ▸ h) (Users.id_withHashOf u (f u.id)) ?_
        rw [hnow, Makes, if_pos hempty, Register.stamped, Users.id_withHashOf]
        cases f u.id with
        | none =>
          have hnil : u.passwordHash = [] := List.isEmpty_iff.mp hempty
          simp [Users.withHashOf, hnil]
        | some old => rfl
      · rw [he]
        exact .failed (hstorage ▸ h) _
    · rw [if_neg hempty]
      refine touches_store cached h rfl ?_
      rw [Makes, if_neg hempty]
      rfl

theorem deactivate_touches (h : w.storage.Holds f) (id : UInt64) :
    World.Touches f id ((deactivate id).Makes s w.now) (w.attempt (Users.deactivate cached id)) := by
  have hstorage : (World.answer (.findById id) w).2.storage = w.storage := World.answer_storage rfl w
  have hnow : (World.answer (.findById id) w).2.now = w.now := World.answer_now rfl w
  rw [World.attempt, Users.run_deactivate, World.run, run_call]
  obtain hfound | ⟨e, he⟩ := World.findById_outcome h id
  · rw [hfound]
    cases hu : f id with
    | none => exact .failed (hstorage ▸ h) _
    | some u =>
      obtain rfl : u.id = id := World.findById_id (hfound.trans (congrArg Except.ok hu))
      refine touches_store cached (u := u.deactivate) (hstorage ▸ h) rfl ?_
      refine ⟨u, hu, ?_⟩
      rw [hnow, Register.stamped, show f u.deactivate.id = some u from hu]
      rfl
  · rw [he]
    exact .failed (hstorage ▸ h) _

theorem delete_touches (h : w.storage.Holds f) (id : UInt64) :
    World.Touches f id ((delete id).Makes s w.now) (w.attempt (Users.delete cached id)) := by
  rw [World.attempt, Users.run_delete, World.run, run_call]
  obtain ⟨⟨hsome, hok⟩, hholds⟩ | ⟨⟨e, he⟩, hholds⟩ := World.delete_outcome h id
  · rw [hok]
    exact .aside hholds (Users.forget_idle cached id) () (fun i hi => Function.update_of_ne hi ..) ⟨hsome, f.drop_self id⟩
  · rw [he]
    exact .failed hholds _

theorem setPassword_touches (h : w.storage.Holds f) (id : UInt64) (password : Text) :
    World.Touches f id ((setPassword id password).Makes s w.now) (w.attempt (s.setPassword id password)) := by
  rw [World.attempt, SignIn.run_setPassword]
  split
  · exact .failed h _
  · rw [World.run, run_call]
    have hstorage : (World.answer (.findById id) w).2.storage = w.storage := World.answer_storage rfl w
    have hsame : (World.answer (.findById id) w).2.now = w.now := World.answer_now rfl w
    generalize (World.answer (.findById id) w).2 = v at hstorage hsame ⊢
    obtain hfound | ⟨e, he⟩ := World.findById_outcome h id
    · rw [hfound]
      cases hu : f id with
      | none => exact .failed (hstorage ▸ h) _
      | some u =>
        obtain rfl : u.id = id := World.findById_id (hfound.trans (congrArg Except.ok hu))
        dsimp only
        rw [run_call]
        have hholds : (World.answer .salt v).2.storage.Holds f := World.answer_storage (c := .salt) rfl v ▸ hstorage ▸ h
        have hnow : (World.answer .salt v).2.now = w.now := (World.answer_now (c := .salt) rfl v).trans hsame
        cases hhash : s.passwords.hash (World.answer .salt v).1 password with
        | error e => exact .failed hholds _
        | ok hash =>
          refine .store (u := { u with passwordHash := hash }) hholds rfl (fun _ => ⟨_, rfl⟩)
            (fun _ => ⟨_, Users.forget_idle s.cached u.id, (), rfl⟩) ⟨u, _, hash, hu, hhash, ?_⟩
          rw [hnow, Register.stamped, show f ({ u with passwordHash := hash } : User).id = some u from hu]
          rfl
    · rw [he]
      exact .failed (hstorage ▸ h) _

/-- An operation that names an id touches the record of that id only. -/
theorem touches (h : w.storage.Holds f) {o : Operation} {id : UInt64} (hid : o.names? = some id) :
    World.Touches f id (o.Makes s w.now) (w.attempt (o.task s cached)) := by
  cases o with
  | save u =>
    obtain rfl := Option.some.inj hid
    exact (save_touches s cached h u).map _
  | deactivate i =>
    obtain rfl := Option.some.inj hid
    exact (deactivate_touches s cached h i).map _
  | delete i =>
    obtain rfl := Option.some.inj hid
    exact (delete_touches s cached h i).map _
  | setPassword i password =>
    obtain rfl := Option.some.inj hid
    exact (setPassword_touches s h i password).map _
  | _ => cases hid

/-! ## Runs -/

/-- Operations that name an id each, carried out one after the other with the results given. In between, anything may change
but the store. -/
inductive Performs : World → List (Operation × Except Fault Outcome) → World → Prop where
  | nil {w w' : World} : w'.storage = w.storage → Performs w [] w'
  | cons {w v w' : World} {o : Operation} {id : UInt64} {rest : List (Operation × Except Fault Outcome)} :
      v.storage = w.storage → o.names? = some id → Performs (v.attempt (o.task s cached)).2 rest w' →
      Performs w ((o, (v.attempt (o.task s cached)).1) :: rest) w'

/-- The operations that may change the hash of an id. -/
def SetsHash (id : UInt64) : Operation → Prop
  | .save u => u.id = id ∧ u.passwordHash ≠ []
  | .setPassword i _ | .delete i => i = id
  | _ => False

end Operation

/-- A user who had a hash has it still, and one who has come in has none. -/
def User.HashKept : Option User → Option User → Prop
  | some u, y => ∃ v, y = some v ∧ v.passwordHash = u.passwordHash
  | none, y => ∀ v, y = some v → v.passwordHash = []

namespace User.HashKept

theorem refl (x : Option User) : HashKept x x := by
  cases x with
  | none =>
    intro v hv
    cases hv
  | some u => exact ⟨u, rfl, rfl⟩

theorem trans {x y z : Option User} (h : HashKept x y) (h' : HashKept y z) : HashKept x z := by
  cases x with
  | some u =>
    obtain ⟨v, rfl, hv⟩ := h
    obtain ⟨v', rfl, hv'⟩ := h'
    exact ⟨v', rfl, hv'.trans hv⟩
  | none =>
    intro v' hv'
    cases y with
    | none => exact h' v' hv'
    | some v =>
      obtain ⟨_, hz, hhash⟩ := h'
      obtain rfl := Option.some.inj (hz.symm.trans hv')
      exact hhash.trans (h v rfl)

end User.HashKept

namespace Operation

variable {s : SignIn} {cached : Bool} {w : World} {f : Register}

/-- What an operation makes of the record it names has the hash of the record, unless the operation sets it. -/
theorem Makes.hashKept {o : Operation} {id : UInt64} (hid : o.names? = some id) (hsets : ¬o.SetsHash id) {now : Timestamp}
    {old new : Option User} (h : o.Makes s now old new) : User.HashKept old new := by
  cases o with
  | save u =>
    obtain rfl := Option.some.inj hid
    have hempty : u.passwordHash = [] := by
      by_contra hne
      exact hsets ⟨rfl, hne⟩
    obtain rfl : new = _ := h
    cases old with
    | none =>
      intro v hv
      obtain rfl := Option.some.inj hv
      simp [hempty]
    | some u' => exact ⟨_, rfl, by simp [hempty]⟩
  | deactivate i =>
    obtain ⟨u, rfl, rfl⟩ := h
    exact ⟨_, rfl, rfl⟩
  | delete i => exact absurd (Option.some.inj hid) hsets
  | setPassword i password => exact absurd (Option.some.inj hid) hsets
  | _ => cases hid

/-- One operation: unless it succeeds in setting it, the hash of an id is kept. -/
theorem hashKept_attempt (s : SignIn) (cached : Bool) (h : w.storage.Holds f) {o : Operation} {i : UInt64}
    (hi : o.names? = some i) :
    ∃ g : Register, (w.attempt (o.task s cached)).2.storage.Holds g ∧
      ∀ id, ((∃ a, (w.attempt (o.task s cached)).1 = .ok a) → ¬o.SetsHash id) → User.HashKept (f id) (g id) := by
  obtain ⟨g, hg, hframe, ⟨-, rfl⟩ | ⟨hok, hmakes⟩⟩ := touches s cached h hi
  · exact ⟨g, hg, fun id _ => .refl (g id)⟩
  · refine ⟨g, hg, fun id hsets => ?_⟩
    by_cases hid : id = i
    · subst hid
      exact hmakes.hashKept hi (hsets hok)
    · rw [hframe id hid]
      exact .refl (f id)

/-- A run of operations: unless one of them succeeds in setting it, the hash of an id is kept. -/
theorem Performs.hashKept {calls : List (Operation × Except Fault Outcome)} {w' : World} (hrun : Performs s cached w calls w')
    (h : w.storage.Holds f) :
    ∃ g : Register, w'.storage.Holds g ∧
      ∀ id, (∀ c ∈ calls, (∃ a, c.2 = .ok a) → ¬c.1.SetsHash id) → User.HashKept (f id) (g id) := by
  induction hrun generalizing f with
  | nil hsame => exact ⟨f, hsame ▸ h, fun id _ => .refl (f id)⟩
  | cons hsame hnames _ ih =>
    obtain ⟨k, hk, hstep⟩ := hashKept_attempt s cached (hsame ▸ h) hnames
    obtain ⟨g, hg, hrest⟩ := ih hk
    refine ⟨g, hg, fun id hcalls => ?_⟩
    obtain ⟨hfirst, hothers⟩ := List.forall_mem_cons.mp hcalls
    exact (hstep id hfirst).trans (hrest id hothers)

/-- An operation that names an id leaves the record of every other id as it is, and that of its own unless it succeeds. What it
makes of it then is said by `Makes`. So over a run of such operations the hash of an id changes only where one of them sets it. -/
theorem operation_touches_what_it_names (s : SignIn) (cached : Bool) {w : World} {f : Register} (h : w.storage.Holds f) :
    (∀ (o : Operation) (id : UInt64), o.names? = some id → ∃ g : Register,
      (w.attempt (o.task s cached)).2.storage.Holds g ∧ (∀ i, i ≠ id → g i = f i) ∧
      ((∃ e, (w.attempt (o.task s cached)).1 = .error e) ∧ g = f ∨
        (∃ a, (w.attempt (o.task s cached)).1 = .ok a) ∧ o.Makes s w.now (f id) (g id))) ∧
    ∀ (calls : List (Operation × Except Fault Outcome)) (w' : World), Performs s cached w calls w' →
      ∃ g : Register, w'.storage.Holds g ∧
        ∀ id, (∀ c ∈ calls, (∃ a, c.2 = .ok a) → ¬c.1.SetsHash id) → User.HashKept (f id) (g id) :=
  ⟨fun _ _ hid => touches s cached h hid, fun _ _ hrun => hrun.hashKept h⟩

/-- A password survives a deactivation, a save that brings no hash, and a new password of somebody else, all of which
succeed. -/
theorem password_survives_other_changes :
    let ann : User :=
      { id := 1, name := "Ann", email := "ann@example.com", role := "viewer", active := true, passwordHash := "old" }
    let bob : User := { id := 2, name := "Bob", email := "bob@example.com", role := "viewer", active := true }
    let anne : User := { ann with name := "Anne", passwordHash := [] }
    let s : SignIn := { secret := "key", passwords := Password.salted 10, cached := true }
    let w : World := { clock := 0, storage := .memory ⟨[ann, bob]⟩ }
    let w₁ := (w.attempt ((deactivate 1).task s true)).2
    let w₂ := (w₁.attempt ((save anne).task s true)).2
    let w₃ := (w₂.attempt ((setPassword 2 "password").task s true)).2
    w.storage.Holds (Store.Memory.find? ⟨[ann, bob]⟩) ∧
      (w.attempt ((deactivate 1).task s true)).1 = .ok (.user { ann with active := false }) ∧
      (w₁.attempt ((save anne).task s true)).1 = .ok (.user { ann with name := "Anne" }) ∧
      (w₂.attempt ((setPassword 2 "password").task s true)).1 = .ok .done ∧
      ∃ g : Register, w₃.storage.Holds g ∧ ∃ v, g 1 = some v ∧ v.passwordHash = "old" := by
  intro ann bob anne s w w₁ w₂ w₃
  have hholds : w.storage.Holds (Store.Memory.find? ⟨[ann, bob]⟩) := Store.Memory.holds_find? (by decide +kernel)
  have hrun : Performs s true w
      [(deactivate 1, (w.attempt ((deactivate 1).task s true)).1),
       (save anne, (w₁.attempt ((save anne).task s true)).1),
       (setPassword 2 "password", (w₂.attempt ((setPassword 2 "password").task s true)).1)] w₃ :=
    .cons rfl rfl (.cons rfl rfl (.cons rfl rfl (.nil rfl)))
  obtain ⟨g, hg, hkept⟩ := (operation_touches_what_it_names s true hholds).2 _ _ hrun
  have hann : Store.Memory.find? ⟨[ann, bob]⟩ 1 = some ann := by decide +kernel
  have hhash : User.HashKept (some ann) (g 1) := hann ▸ hkept 1 (by simp [SetsHash, anne])
  exact ⟨hholds, rfl, rfl, rfl, g, hg, hhash⟩

end Operation

end Roster
