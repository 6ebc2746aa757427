import Roster.Proofs.FailedOperations

/-!
# Saving into a table

Users in a table are saved by two statements, with no transaction around them: one that stores the row, and one that reads
the time of creation back. Either may fail. When the second one does, the save is reported as failed although the row has been
stored, and who asked for it does not touch the cache. Here, what a driver may do to the operations that save users, and what
is left behind by each failure.
-/

namespace Roster

open Program

namespace Sql

/-! ## Drivers -/

/-- How a driver may behave. Queries may be answered in any way and change nothing. A command is carried out as the tables
carry it out, whatever is then said about the number of rows, or else it fails without effect. -/
def Driven : (c : Call) → Database → c.Answer → Database → Prop
  | .query _, db, _, db' => db' = db
  | .exec c, db, x, db' => (∃ n, db.exec c = (.ok n, db') ∧ ∃ y, x = .ok y) ∨ db' = db ∧ ∃ f, x = .error f
  | .begin, db, x, db' => x = .ok () ∧ db' = db.begin ∨ db' = db ∧ ∃ f, x = .error f
  | .commit, db, x, db' => x = .ok () ∧ db' = db.commit ∨ db' = db ∧ ∃ f, x = .error f
  | .rollback, db, x, db' => x = .ok () ∧ db' = db.rollback ∨ db' = db ∧ ∃ f, x = .error f
  | .now, db, _, db' => db' = db
  | .log _, db, _, db' => db' = db

/-- A script that only reads leaves the tables alone, whatever the driver does. -/
theorem reads_of_runs {α : Type} {p : Program Driver α} (hp : Only Call.reads p) {db db' : Database} {a : α}
    (hr : Runs Driven p db a db') : db' = db := by
  induction hr with
  | done a db => rfl
  | @call c _ _ _ _ _ _ hm _ ih =>
    obtain ⟨hc, hrest⟩ := hp
    have hkept := ih (hrest _)
    cases c with
    | query _ | now | log _ => exact hkept.trans hm
    | _ => exact hc.elim

/-! ## Storing a row -/

/-- The statements of a save. -/
theorem run_save (u : User) :
    (save u).run = if User.maxId < u.id then .done (.error (.idTooLarge u.id))
      else .call .now fun now => .call (.exec (.upsertUser u now)) fun
        | .error f => .done (.error (failure "upsert user" f))
        | .ok _ => .call (.query (.createdAt u.id)) fun
          | .error f => .done (.error (failure "read back user" f))
          | .ok rs => .done ((((readFirst readCreated rs).bind present).mapError (failure "read back user")).map
              fun created => { u with createdAt := created, updatedAt := now }) := by
  unfold save
  split
  · rfl
  · show Program.call _ _ = _
    congr
    funext now
    show Program.call _ _ = _
    congr
    funext r
    cases r with
    | error f => rfl
    | ok n =>
      show Program.call _ _ = _
      congr
      funext r
      cases r with
      | error f => rfl
      | ok rs =>
        have hread : ∀ x : Except Fault Timestamp, (do
            let created ← reading "read back user" x
            pure { u with createdAt := created, updatedAt := now } : Script User).run =
              .done ((x.mapError (failure "read back user")).map fun created =>
                { u with createdAt := created, updatedAt := now }) := by
          intro x
          cases x <;> rfl
        exact hread _

/-- How a save may end: it is refused, its row cannot be stored, or its row has been stored and may or may not be read back. -/
theorem save_cases {u : User} {db db' : Database} {r : Except Fault User} (hr : Runs Driven (save u).run db r db') :
    User.maxId < u.id ∧ r = .error (.idTooLarge u.id) ∧ db' = db ∨
    ¬User.maxId < u.id ∧ ((∃ f, r = .error (failure "upsert user" f) ∧ db' = db) ∨
      ∃ now n, db.exec (.upsertUser u now) = (.ok n, db') ∧
        ((∃ f, r = .error (failure "read back user" f)) ∨ ∃ v, r = .ok v)) := by
  rw [run_save] at hr
  by_cases hid : User.maxId < u.id
  · rw [if_pos hid] at hr
    cases hr
    exact .inl ⟨hid, rfl, rfl⟩
  · rw [if_neg hid] at hr
    refine .inr ⟨hid, ?_⟩
    obtain _ | @⟨_, _, _, _, _, now, _, hnow, hr⟩ := hr
    obtain rfl := hnow
    obtain _ | ⟨hexec, hr⟩ := hr
    obtain ⟨n, hexec, y, rfl⟩ | ⟨rfl, f, rfl⟩ := hexec
    · refine .inr ⟨now, n, ?_⟩
      obtain _ | @⟨_, _, _, _, _, x, _, hquery, hr⟩ := hr
      obtain rfl := hquery
      refine ⟨by cases x <;> cases hr <;> exact hexec, ?_⟩
      cases x with
      | error f =>
        cases hr
        exact .inl ⟨f, rfl⟩
      | ok rs =>
        dsimp only at hr
        cases hr
        cases (readFirst readCreated rs).bind present with
        | error f => exact .inl ⟨f, rfl⟩
        | ok created => exact .inr ⟨_, rfl⟩
    · cases hr
      exact .inl ⟨f, rfl, rfl⟩

/-- A save whose row can be stored can fail after that, for any reason, and can succeed. -/
theorem save_runs {u : User} {db db' : Database} (hid : ¬User.maxId < u.id) {now : Timestamp} {n : Int}
    (hexec : db.exec (.upsertUser u now) = (.ok n, db')) :
    (∀ f, Runs Driven (save u).run db (.error (failure "read back user" f)) db') ∧
      ∃ v, Runs Driven (save u).run db (.ok v) db' := by
  rw [run_save, if_neg hid]
  have hnow : Driven .now db now db := rfl
  have hupsert : Driven (.exec (.upsertUser u now)) db (.ok (.ok n)) db' := .inl ⟨n, hexec, _, rfl⟩
  constructor
  · intro f
    have hquery : Driven (.query (.createdAt u.id)) db' (.error f) db' := rfl
    exact .call hnow (.call hupsert (.call hquery (.done _ _)))
  · have hquery : Driven (.query (.createdAt u.id)) db' (.ok ⟨["created_at"], [[.time now]], none⟩) db' := rfl
    exact ⟨_, .call hnow (.call hupsert (.call hquery (.done _ _)))⟩

/-- A row that leaves the rows as they are is the one they have under its id. -/
theorem find?_of_insertRow {r : Row} {rows : List Row} (h : insertRow r rows = rows) :
    (rows.find? fun s => s.id == r.id) = some r := by
  induction rows with
  | nil => cases h
  | cons s rest ih =>
    rw [insertRow] at h
    by_cases hlt : r.id < s.id
    · rw [if_pos hlt] at h
      have hlength := congrArg List.length h
      simp at hlength
    · rw [if_neg hlt] at h
      by_cases heq : r.id = s.id
      · rw [if_pos (beq_iff_eq.mpr heq)] at h
        obtain rfl : r = s := (List.cons.inj h).1
        simp
      · rw [if_neg (fun hb => heq (beq_iff_eq.mp hb))] at h
        rw [List.find?_cons_of_neg (by simpa using Ne.symm heq)]
        exact ih (List.cons.inj h).2

namespace Database

/-- Storing a user puts a row under its id that has been changed at the moment. -/
theorem exec_upsert {db : Database} {rows : List Row} (hrows : db.users = some rows) {u : User}
    (hrole : (Role.parse? u.role).isSome = true) (now : Timestamp) :
    ∃ row : Row, row.id = rowId u.id ∧ row.updatedAt = .time now ∧
      db.exec (.upsertUser u now) = (.ok 1, { db with users := some (insertRow row rows) }) := by
  have htable : db.table = .ok rows := by rw [table, hrows]
  have hnone : (Role.parse? u.role).isNone = false := by
    rw [Option.isNone_eq_false_iff]
    exact hrole
  cases hold : rows.find? fun r => r.id == (Row.ofUser u now).id with
  | none =>
    refine ⟨Row.ofUser u now, rfl, rfl, ?_⟩
    simp only [exec, htable, hnone, Bool.false_eq_true, if_false, hold]
  | some old =>
    refine ⟨{ Row.ofUser u now with createdAt := old.createdAt }, rfl, rfl, ?_⟩
    simp only [exec, htable, hnone, Bool.false_eq_true, if_false, hold]

/-- Storing a user that the table does not refuse changes the table, at one moment or another. -/
theorem upsert_changes {db : Database} {rows : List Row} (hrows : db.users = some rows) {u : User}
    (hrole : (Role.parse? u.role).isSome = true) :
    ∃ now n db', db.exec (.upsertUser u now) = (.ok n, db') ∧ db' ≠ db := by
  by_contra hsame
  -- otherwise the table would have had, under the one id, the rows of two different moments
  have hrow : ∀ now : Timestamp, ∃ row : Row, row.updatedAt = .time now ∧
      (rows.find? fun r => r.id == rowId u.id) = some row := by
    intro now
    obtain ⟨row, hid, hupdated, hexec⟩ := exec_upsert hrows hrole now
    have hdb : ({ db with users := some (insertRow row rows) } : Database) = db := by
      by_contra hne
      exact hsame ⟨now, 1, _, hexec, hne⟩
    have hkept : some (insertRow row rows) = some rows := (congrArg users hdb).trans hrows
    refine ⟨row, hupdated, ?_⟩
    rw [← hid]
    exact find?_of_insertRow (Option.some.inj hkept)
  obtain ⟨row, hupdated, hfind⟩ := hrow { instant := 0 }
  obtain ⟨row', hupdated', hfind'⟩ := hrow { instant := 1 }
  rw [hfind] at hfind'
  obtain rfl := Option.some.inj hfind'
  rw [hupdated] at hupdated'
  have hmoments : (0 : Instant) = 1 := congrArg Timestamp.instant (Datum.time.inj hupdated')
  exact absurd hmoments (by decide)

/-- A table takes a user: it is there, and refuses neither the id nor the role. -/
structure Takes (db : Database) (u : User) : Prop where
  id : u.id ≤ User.maxId
  table : db.users.isSome = true
  role : (Role.parse? u.role).isSome = true

/-- Only a table that takes a user stores its row. -/
theorem takes_of_exec {db db' : Database} {u : User} (hid : ¬User.maxId < u.id) {now : Timestamp} {n : Int}
    (hexec : db.exec (.upsertUser u now) = (.ok n, db')) : db.Takes u := by
  rw [exec] at hexec
  dsimp only at hexec
  split at hexec
  · cases hexec
  · rename_i rows hrows
    split at hexec
    · cases hexec
    · rename_i hrole
      refine ⟨UInt64.not_lt.mp hid, ?_, ?_⟩
      · rw [users_of_table hrows]
        rfl
      · rw [Option.isNone_iff_eq_none] at hrole
        exact Option.isSome_iff_ne_none.mpr hrole

/-- A table that takes a user is changed by storing it, at one moment or another. -/
theorem Takes.changes {db : Database} {u : User} (h : db.Takes u) :
    ¬User.maxId < u.id ∧ ∃ now n db', db.exec (.upsertUser u now) = (.ok n, db') ∧ db' ≠ db := by
  obtain ⟨rows, hrows⟩ := Option.isSome_iff_exists.mp h.table
  exact ⟨UInt64.not_lt.mpr h.id, upsert_changes hrows h.role⟩

end Database

/-- A save can be trusted to leave the tables as they were when it fails if they do not take the user, and only then. -/
theorem harmless_iff (u : User) (db : Database) :
    (∀ e db', Runs Driven (save u).run db (.error e) db' → db' = db) ↔ ¬db.Takes u := by
  constructor
  · intro hharmless htakes
    obtain ⟨hid, now, n, db', hexec, hne⟩ := htakes.changes
    exact hne (hharmless _ _ ((save_runs hid hexec).1 .canceled))
  · intro hrefused e db' hr
    obtain ⟨-, -, hdb⟩ | ⟨hid, ⟨f, -, hdb⟩ | ⟨now, n, hexec, -⟩⟩ := save_cases hr
    · exact hdb
    · exact hdb
    · exact absurd (Database.takes_of_exec hid hexec) hrefused

end Sql

/-! ## The services over a table -/

/-- The statements of a call to the store. -/
def Call.statements? : (c : Call) → Option (Program Sql.Driver c.Answer)
  | .findById id => some (Sql.findById id).run
  | .findByEmail email => some (Sql.findByEmail email).run
  | .save u => some (Sql.save u).run
  | .delete id => some (Sql.delete id).run
  | .findAll => some Sql.findAll.run
  | _ => none

namespace World

/-- How a call may end in a world whose users are in a table that is reached through some driver, and whose cache may fail. -/
def Frail (c : Call) (w : World) (x : c.Answer) (t : World) : Prop :=
  ∃ v, w.Passes v ∧ match c.statements? with
    | some p => ∃ db db', v.storage = .database db ∧ Runs Sql.Driven p db x db' ∧ t = { v with storage := .database db' }
    | none => answer c v = (x, t) ∨ t = v ∧ c.Failed x

/-- A call to the store that only reads leaves the world as it is, whatever the driver does. -/
theorem passes_of_reads_only {α : Type} {v t : World} {p : Program Sql.Driver α} (hp : Only Sql.Call.reads p) {x : α}
    (h : ∃ db db', v.storage = .database db ∧ Runs Sql.Driven p db x db' ∧ t = { v with storage := .database db' }) :
    v.Passes t := by
  obtain ⟨db, db', hdb, hr, rfl⟩ := h
  obtain rfl := Sql.reads_of_runs hp hr
  exact ⟨hdb.symm, rfl, rfl⟩

/-- A quiet call only lets things pass, also on a frail table. -/
theorem Frail.passes_of_quiet {c : Call} {w t : World} {x : c.Answer} (h : Frail c w x t) (hc : c.Quiet) : w.Passes t := by
  obtain ⟨v, hv, h⟩ := h
  refine hv.trans ?_
  have hother : (answer c v = (x, t) ∨ t = v ∧ c.Failed x) → v.Passes t := by
    rintro (hanswer | ⟨rfl, -⟩)
    · have hkept := passes_of_reads hc.1 (answer_caching (Call.toCache_of_idle hc.2) v)
      rwa [hanswer] at hkept
    · exact .refl t
  cases c with
  | findById id => exact passes_of_reads_only (Sql.only_findById id) h
  | findByEmail email => exact passes_of_reads_only (Sql.only_findByEmail email) h
  | findAll => exact passes_of_reads_only Sql.only_findAll h
  | save u => cases hc.1
  | delete id => cases hc.1
  | _ => exact hother h

/-- Calls of the cache and the log can always be answered. -/
theorem exists_runs_idle {α : Type} {p : Act α} (hp : Only Call.Idle p) (w : World) : ∃ a t, Runs Frail p w a t := by
  induction p generalizing w with
  | done a => exact ⟨a, w, .done a w⟩
  | call c next ih =>
    obtain ⟨a, t, hr⟩ := ih _ (hp.2 (answer c w).1) (answer c w).2
    have hc : Frail c w (answer c w).1 (answer c w).2 := by
      refine ⟨w, .refl w, ?_⟩
      cases c with
      | cacheGet _ | cacheSet _ _ | cacheRemove _ | log _ => exact .inl rfl
      | _ => cases hp.1
    exact ⟨a, t, .call hc hr⟩

theorem frail_save {w : World} {db db' : Sql.Database} (hdb : w.storage = .database db) {u : User} {r : Except Fault User}
    (hr : Runs Sql.Driven (Sql.save u).run db r db') : Frail (.save u) w r { w with storage := .database db' } :=
  ⟨w, .refl w, db, db', hdb, hr, rfl⟩

/-- How the call that saves a user may end. -/
theorem Frail.save_cases {u : User} {w t : World} {r : Except Fault User} (h : Frail (.save u) w r t) :
    ∃ db db', w.storage = .database db ∧ t.storage = .database db' ∧ t.caching = w.caching ∧
      ((∃ e, r = .error e) ∧ db' = db ∨ db.Takes u ∧ ∃ now n, db.exec (.upsertUser u now) = (.ok n, db') ∧
        ((∃ f, r = .error (Sql.failure "read back user" f)) ∨ ∃ v, r = .ok v)) := by
  obtain ⟨v, hv, db, db', hdb, hr, rfl⟩ := h
  refine ⟨db, db', hv.storage.symm.trans hdb, rfl, hv.caching, ?_⟩
  obtain ⟨-, hr, hsame⟩ | ⟨hid, ⟨f, hr, hsame⟩ | ⟨now, n, hexec, hends⟩⟩ := Sql.save_cases hr
  · exact .inl ⟨⟨_, hr⟩, hsame⟩
  · exact .inl ⟨⟨_, hr⟩, hsame⟩
  · exact .inr ⟨Sql.Database.takes_of_exec hid hexec, now, n, hexec, hends⟩

end World

/-! ## Operations that save one user -/

section SavesLast

variable {α β : Type}

/-- A program saves a user at its end: before that it changes nothing and may give up, an error of that call is its own, and
after success nothing can go wrong. -/
inductive SavesLast : Act (Except Fault α) → Prop where
  | fault (e : Fault) : SavesLast (.done (.error e))
  | ask {c : Call} {next : c.Answer → Act (Except Fault α)} :
      c.Quiet → (∀ x, SavesLast (next x)) → SavesLast (.call c next)
  | save {u : User} {next : Except Fault User → Act (Except Fault α)} :
      (∀ e, next (.error e) = .done (.error (.during "save user" e))) →
      (∀ v, ∃ (p : Act Unit) (a : α), Only Call.Idle p ∧ next (.ok v) = p.bind fun _ => .done (.ok a)) →
      SavesLast (.call (.save u) next)

theorem SavesLast.bind_quiet {p : Act β} (hp : Only Call.Quiet p) {f : β → Act (Except Fault α)}
    (hf : ∀ b, SavesLast (f b)) : SavesLast (p.bind f) := by
  induction p with
  | done b => exact hf b
  | call c next ih => exact .ask hp.1 fun x => ih x (hp.2 x)

theorem SavesLast.task_map {t : Task α} (h : SavesLast t.run) (g : α → β) : SavesLast (g <$> t).run := by
  rw [Task.run_map]
  generalize t.run = p at h
  induction h with
  | fault e => exact .fault e
  | ask hc _ ih => exact .ask hc ih
  | save herror hok =>
    refine .save (fun e => ?_) fun v => ?_
    · rw [herror e]
      rfl
    · obtain ⟨p, a, hp, hnext⟩ := hok v
      refine ⟨p, g a, hp, ?_⟩
      rw [hnext, bind_assoc]
      rfl

/-- The point of a run at which a program is about to save a user. The outcome of that call is the outcome of the program. -/
structure Saving (p : Act (Except Fault α)) (w : World) (u : User) (t : World) : Prop where
  passes : w.Passes t
  fails : ∀ e t', World.Frail (.save u) t (.error e) t' → Runs World.Frail p w (.error (.during "save user" e)) t'
  succeeds : ∀ v t', World.Frail (.save u) t (.ok v) t' → ∃ a t'', Runs World.Frail p w (.ok a) t''

/-- A run of a program that saves a user at its end gives up with nothing changed, or comes to that point. -/
theorem SavesLast.of_runs {p : Act (Except Fault α)} (h : SavesLast p) {w v : World} {r : Except Fault α}
    (hr : Runs World.Frail p w r v) :
    (∃ e, r = .error e) ∧ w.Passes v ∨ ∃ u t, Saving p w u t ∧
      ((∃ e, r = .error (.during "save user" e) ∧ World.Frail (.save u) t (.error e) v) ∨
        ∃ a x t', r = .ok a ∧ World.Frail (.save u) t (.ok x) t') := by
  induction h generalizing w with
  | fault e =>
    cases hr
    exact .inl ⟨⟨e, rfl⟩, .refl _⟩
  | ask hc _ ih =>
    obtain _ | ⟨hm, hrest⟩ := hr
    have hpassed := hm.passes_of_quiet hc
    obtain ⟨he, hkept⟩ | ⟨u, t, hsaving, hends⟩ := ih _ hrest
    · exact .inl ⟨he, hpassed.trans hkept⟩
    · refine .inr ⟨u, t, ⟨hpassed.trans hsaving.passes, fun e t' hfail => .call hm (hsaving.fails e t' hfail), ?_⟩, hends⟩
      intro x t' hok
      obtain ⟨a, t'', hdone⟩ := hsaving.succeeds x t' hok
      exact ⟨a, t'', .call hm hdone⟩
  | @save u next herror hok =>
    have hsaving : Saving (.call (.save u) next) w u w := by
      refine ⟨.refl w, fun e t' hfail => ?_, fun x t' hdone => ?_⟩
      · refine .call hfail ?_
        rw [herror e]
        exact .done _ _
      · obtain ⟨p, a, hp, hnext⟩ := hok x
        obtain ⟨_, t'', hidle⟩ := World.exists_runs_idle hp t'
        refine ⟨a, t'', .call hdone ?_⟩
        rw [hnext]
        exact hidle.bind (.done _ _)
    obtain _ | @⟨_, _, _, t, _, x, _, hm, hrest⟩ := hr
    refine .inr ⟨u, w, hsaving, ?_⟩
    cases x with
    | error e =>
      rw [herror e] at hrest
      cases hrest
      exact .inl ⟨e, rfl, hm⟩
    | ok x =>
      obtain ⟨p, a, -, hnext⟩ := hok x
      rw [hnext] at hrest
      have hends : Ends (fun r : Except Fault _ => r = .ok a) (p.bind fun _ => .done (.ok a)) := Ends.bind p fun _ => rfl
      exact .inr ⟨a, x, t, (hends.ensures t).of_runs hrest, hm⟩

end SavesLast

namespace Users

variable (cached : Bool)

theorem store_savesLast (u : User) : SavesLast (store cached u) :=
  .save (fun _ => rfl) fun v => ⟨remember cached v, v, remember_idle cached v, rfl⟩

/-- Saving a user saves last: nothing but the cache follows. -/
theorem save_savesLast (u : User) : SavesLast (save cached u).run := by
  rw [run_save]
  split
  · exact .fault _
  · refine .bind_quiet (keepHash_quiet u) fun r => ?_
    cases r with
    | error e => exact .fault e
    | ok v => exact store_savesLast cached v

theorem deactivate_savesLast (id : UInt64) : SavesLast (deactivate cached id).run := by
  rw [run_deactivate]
  refine .ask ⟨rfl, rfl⟩ fun r => ?_
  rcases r with e | _ | u
  · exact .fault _
  · exact .fault _
  · exact store_savesLast cached u.deactivate

end Users

theorem SignIn.setPassword_savesLast (s : SignIn) (id : UInt64) (password : Text) :
    SavesLast (s.setPassword id password).run := by
  rw [run_setPassword]
  split
  · exact .fault _
  · refine .ask ⟨rfl, rfl⟩ fun r => ?_
    rcases r with e | _ | u
    · exact .fault _
    · exact .fault _
    · refine .ask ⟨rfl, rfl⟩ fun salt => ?_
      dsimp only
      split
      · exact .fault _
      · exact .save (fun _ => rfl) fun _ => ⟨Users.forget s.cached id, (), Users.forget_idle s.cached id, rfl⟩

/-- An operation that saves one user. -/
def Operation.Saves : Operation → Prop
  | .save _ | .deactivate _ | .setPassword _ _ => True
  | _ => False

theorem Operation.task_savesLast (s : SignIn) (cached : Bool) {o : Operation} (ho : o.Saves) :
    SavesLast (o.task s cached).run := by
  cases o with
  | save u => exact (Users.save_savesLast cached u).task_map _
  | deactivate id => exact (Users.deactivate_savesLast cached id).task_map _
  | setPassword id password => exact (s.setPassword_savesLast id password).task_map _
  | _ => exact ho.elim

namespace World

section SavesLast

variable {α : Type} {p : Act (Except Fault α)} (hp : SavesLast p) {w v : World} {e : Fault}

include hp

/-- What a failed run has left behind: everything as it was, or a row that has been stored and not been read back. The cache is
as it was in both cases. -/
theorem left_behind (hr : Runs Frail p w (.error e) v) :
    v.caching = w.caching ∧ (v.storage = w.storage ∨ ∃ f db db' u now n,
      e = .during "save user" (Sql.failure "read back user" f) ∧ w.storage = .database db ∧ v.storage = .database db' ∧
        db.exec (.upsertUser u now) = (.ok n, db')) := by
  obtain ⟨-, hkept⟩ | ⟨u, t, hsaving, ⟨e', he, hm⟩ | ⟨a, x, t', he, -⟩⟩ := hp.of_runs hr
  · exact ⟨hkept.caching, .inl hkept.storage⟩
  · obtain rfl := Except.error.inj he
    obtain ⟨db, db', hdb, hdb', hcaching, ⟨-, hsame⟩ | ⟨-, now, n, hexec, hends⟩⟩ := hm.save_cases
    · exact ⟨hcaching.trans hsaving.passes.caching, .inl (by rw [hdb', hsame, ← hdb, hsaving.passes.storage])⟩
    · refine ⟨hcaching.trans hsaving.passes.caching, .inr ?_⟩
      obtain ⟨f, hf⟩ | ⟨x, hx⟩ := hends
      · obtain rfl := Except.error.inj hf
        exact ⟨f, db, db', u, now, n, rfl, hsaving.passes.storage.symm.trans hdb, hdb', hexec⟩
      · cases hx
  · cases he

/-- Where a program that saves a user can succeed, it can also fail with the user stored, and nowhere else. -/
theorem harmless_iff_hopeless :
    (∀ e v, Runs Frail p w (.error e) v → v.storage = w.storage) ↔ ¬∃ a v, Runs Frail p w (.ok a) v := by
  constructor
  · rintro hharmless ⟨a, v, hr⟩
    obtain ⟨⟨e, he⟩, -⟩ | ⟨u, t, hsaving, ⟨e, he, -⟩ | ⟨a', x, t', -, hm⟩⟩ := hp.of_runs hr
    · cases he
    · cases he
    · obtain ⟨db, _, hdb, -, -, ⟨⟨e, he⟩, -⟩ | ⟨htakes, -⟩⟩ := hm.save_cases
      · cases he
      · obtain ⟨hid, now, n, db', hexec, hne⟩ := htakes.changes
        have hfails := hsaving.fails _ _ (frail_save hdb ((Sql.save_runs hid hexec).1 .canceled))
        have hsame : Storage.database db' = .database db :=
          (hharmless _ _ hfails).trans (hsaving.passes.storage.symm.trans hdb)
        exact hne (Storage.database.inj hsame)
  · intro hhopeless e v hr
    by_contra hchanged
    obtain ⟨-, hkept⟩ | ⟨u, t, hsaving, ⟨e', -, hm⟩ | ⟨a, x, t', he, -⟩⟩ := hp.of_runs hr
    · exact hchanged hkept.storage
    · obtain ⟨db, db', hdb, hdb', -, ⟨-, hsame⟩ | ⟨htakes, now, n, hexec, -⟩⟩ := hm.save_cases
      · exact hchanged (by rw [hdb', hsame, ← hdb, hsaving.passes.storage])
      · obtain ⟨x, hok⟩ := (Sql.save_runs (UInt64.not_lt.mpr htakes.id) hexec).2
        exact hhopeless (hsaving.succeeds x _ (frail_save hdb hok))
    · cases he

end SavesLast

/-- When a failed save leaves the store as it was, over a table that is reached through a driver which may fail at any
statement. 1. A save into the table does so, whatever the driver does, exactly where the table does not take the user. 2. So
does an operation of the services that saves a user, exactly where it cannot succeed. 3. What such an operation changes when
it fails is the one row it stores, its error then says that the row could not be read back, and the cache is as it was. -/
theorem failed_save_harmless_iff (s : SignIn) (cached : Bool) {o : Operation} (ho : o.Saves) (w : World) :
    (∀ (u : User) (db : Sql.Database),
      (∀ e db', Runs Sql.Driven (Sql.save u).run db (.error e) db' → db' = db) ↔
        ¬(u.id ≤ User.maxId ∧ db.users.isSome = true ∧ (Role.parse? u.role).isSome = true)) ∧
    ((∀ e v, Runs Frail (o.task s cached).run w (.error e) v → v.storage = w.storage) ↔
      ¬∃ x v, Runs Frail (o.task s cached).run w (.ok x) v) ∧
    ∀ e v, Runs Frail (o.task s cached).run w (.error e) v →
      v.caching = w.caching ∧ (v.storage = w.storage ∨ ∃ f db db' u now n,
        e = .during "save user" (Sql.failure "read back user" f) ∧ w.storage = .database db ∧ v.storage = .database db' ∧
          db.exec (.upsertUser u now) = (.ok n, db')) := by
  have hlast := o.task_savesLast s cached ho
  refine ⟨fun u db => (Sql.harmless_iff u db).trans (not_congr ?_), harmless_iff_hopeless hlast, fun e v => left_behind hlast⟩
  exact ⟨fun h => ⟨h.id, h.table, h.role⟩, fun ⟨hid, htable, hrole⟩ => ⟨hid, htable, hrole⟩⟩

/-- Ann can be saved into an empty table, so to save her can also fail and leave her there. -/
theorem failed_save_may_store_user :
    let ann : User := { id := 1, name := "Ann", email := "ann@example.com", role := "viewer", passwordHash := "hash" }
    let s : SignIn := { secret := [], passwords := Password.salted 4, cached := true }
    let w : World := { clock := 0, storage := .database { users := some [] } }
    (Operation.save ann).Saves ∧
      ¬∀ e v, Runs Frail ((Operation.save ann).task s true).run w (.error e) v → v.storage = w.storage := by
  intro ann s w
  refine ⟨trivial, fun hharmless => ?_⟩
  refine (failed_save_harmless_iff s true (o := .save ann) trivial w).2.1.mp hharmless ?_
  have htaken : ({ users := some [] } : Sql.Database).exec (.upsertUser ann w.now) =
      (.ok 1, { users := some [Sql.Row.ofUser ann w.now] }) := rfl
  obtain ⟨x, hsaved⟩ := (Sql.save_runs (by decide) htaken).2
  obtain ⟨_, t, hcached⟩ := exists_runs_idle (Users.remember_idle true x) { w with storage := .database _ }
  have hstore : (Users.save true ann).run = Users.store true ann := by
    rw [Users.run_save]
    rfl
  have hrun : Runs Frail (Users.save true ann).run w (.ok x) t := by
    rw [hstore]
    exact .call (frail_save rfl hsaved) (hcached.bind (.done _ _))
  refine ⟨.user x, t, ?_⟩
  rw [Operation.task, Task.run_map]
  exact hrun.bind (.done _ _)

/-- The time of creation of Ann, a viewer who is cached, cannot be read. She is saved as an administrator with another password:
the operation fails, and the table now has the administrator while the cache still has the viewer. -/
theorem failed_save_makes_administrator :
    let ann : User := { id := 1, name := "Ann", email := "ann@example.com", role := "viewer", passwordHash := "old" }
    let anna : User := { ann with role := "admin", passwordHash := "new" }
    let row (u : User) : Sql.Row := { Sql.Row.ofUser u { instant := 0 } with createdAt := .text "yesterday" }
    let w : World :=
      { clock := 0, storage := .database { users := some [row ann] }
        caching := .inProcess (({} : Cache.Local User).set (User.key 1) ann.withoutHash) }
    let r := w.attempt (Users.save true anna)
    (∃ f, r.1 = .error (.during "save user" (Sql.failure "read back user" f))) ∧
      r.2.storage = .database { users := some [row anna] } ∧ r.2.storage ≠ w.storage ∧ r.2.caching = w.caching ∧
      (r.2.attempt (Users.get true 1)).1 = .ok ann.withoutHash := by
  intro ann anna row w r
  have hstorage : r.2.storage = .database { users := some [row anna] } := rfl
  refine ⟨⟨_, rfl⟩, hstorage, fun hsame => ?_, rfl, rfl⟩
  rw [hstorage] at hsame
  have hrows : [row anna] = [row ann] := Option.some.inj (congrArg Sql.Database.users (Storage.database.inj hsame))
  have hrole : utf8 "admin" = utf8 "viewer" := congrArg Sql.Row.role (List.cons.inj hrows).1
  exact absurd hrole (by decide)

end World

end Roster
