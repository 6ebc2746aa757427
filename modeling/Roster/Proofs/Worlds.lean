import Roster.World
import Roster.Proofs.Program
import Roster.Proofs.Stores

/-!
# What a call changes

A world answers calls one at a time. Here, for every call, which parts of the world it leaves alone: only two calls change
the store, and each of them the record of one id; only the calls of the cache change the cache; nothing changes which
operations fail. The statements hold for users in memory and for users in a table.
-/

namespace Roster

/-- The id whose stored record a call may change, if it may change one. -/
def Call.writes? : Call → Option UInt64
  | .save u => some u.id
  | .delete id => some id
  | _ => none

/-- A call that changes no stored record. -/
def Call.Reads (c : Call) : Prop := c.writes? = none

/-- Whether a call goes to the store. -/
def Call.toStore : Call → Bool
  | .findById _ | .findByEmail _ | .save _ | .delete _ | .findAll => true
  | _ => false

/-- Whether a call goes to the cache. -/
def Call.toCache : Call → Bool
  | .cacheGet _ | .cacheSet _ _ | .cacheRemove _ => true
  | _ => false

/-- Whether a call goes to the cache or to the log. -/
def Call.idle : Call → Bool
  | .log _ => true
  | c => c.toCache

/-- A call whose answer does not matter: one to the cache or to the log. -/
abbrev Call.Idle (c : Call) : Prop := c.idle = true

/-- A call that changes neither store nor cache nor log. -/
def Call.Quiet (c : Call) : Prop := c.writes? = none ∧ c.idle = false

/-- A call that goes neither to the store nor to the cache. -/
def Call.Plain (c : Call) : Prop := c.toStore = false ∧ c.toCache = false

/-- Whether a call takes no time. -/
def Call.timeless : Call → Bool
  | .wait _ | .pause _ => false
  | _ => true

/-- The answer to a look-up is a user of the id that was asked for. -/
def Call.Truthful : (c : Call) → c.Answer → Prop
  | .findById id, x => ∀ u, x = .ok (some u) → u.id = id
  | _, _ => True

/-- A call that does not go to the store changes no record. -/
theorem Call.Plain.reads {c : Call} (h : c.Plain) : c.Reads := by
  cases c <;> first | rfl | cases h.1

/-- A call that is neither of the cache nor of the log does not go to the cache. -/
theorem Call.toCache_of_idle {c : Call} (h : c.idle = false) : c.toCache = false := by
  cases c <;> first | rfl | cases h

/-! ## Scripts of the database -/

namespace Sql

/-- A call to the driver that leaves the tables alone. -/
def Call.reads : Call → Prop
  | .query _ | .now | .log _ => True
  | _ => False

open Program

/-- Putting faults in other words makes no calls. -/
theorem only_adapt {α : Type} {P : Call → Prop} (g : Fault → Fault) {s : Script α} (h : Only P s.run) :
    Only (I := Driver) P (ExceptT.adapt g s).run :=
  Only.bind h fun _ => trivial

/-- Two scripts in a row make the calls of both. -/
theorem only_bind {α β : Type} {P : Call → Prop} {s : Script α} {f : α → Script β} (h : Only P s.run)
    (hf : ∀ a, Only P (f a).run) : Only (I := Driver) P (s >>= f).run := by
  refine Only.bind h fun r => ?_
  cases r with
  | error e => trivial
  | ok a => exact hf a

/-- A query is one call. -/
theorem only_query (activity : Text) (q : Query) {P : Call → Prop} (h : P (.query q)) :
    Only (I := Driver) P (query activity q).run :=
  only_adapt _ ⟨h, fun _ => trivial⟩

/-- A command is one call. -/
theorem only_exec (activity : Text) (c : Command) {P : Call → Prop} (h : P (.exec c)) :
    Only (I := Driver) P (exec activity c).run :=
  only_adapt _ ⟨h, fun _ => trivial⟩

/-- A search for one user only reads. -/
theorem only_findOne (activity : Text) (q : Query) : Only Call.reads (findOne activity q).run :=
  only_bind (only_query activity q trivial) fun _ => only_adapt _ trivial

/-- A look-up by id only reads. -/
theorem only_findById (id : UInt64) : Only Call.reads (findById id).run := by
  unfold findById
  split
  · trivial
  · exact only_findOne _ _

theorem only_findByEmail (email : Text) : Only Call.reads (findByEmail email).run := only_findOne _ _

/-- A listing only reads. -/
theorem only_findAll : Only Call.reads findAll.run :=
  only_bind (only_query _ _ trivial) fun _ => trivial

/-! ### The id of a user that is found -/

theorem bind_eq_ok {α β : Type} {x : Except Fault α} {f : α → Except Fault β} {b : β} :
    x >>= f = .ok b ↔ ∃ a, x = .ok a ∧ f a = .ok b := by
  cases x with
  | error e => exact ⟨nofun, nofun⟩
  | ok a =>
    refine ⟨fun h => ⟨a, rfl, h⟩, ?_⟩
    rintro ⟨a', ha, h⟩
    rw [Except.ok.inj ha]
    exact h

/-- An id is read back from its row. -/
theorem readId_rowId (id : UInt64) : readId (.int (rowId id)) = .ok id := by
  have h : Numeral.natural (Datum.int (rowId id)).render = .ok id.toNat := Text.natural_decimal id.toNat_lt
  simp only [readId, h]
  simp

/-- A value that is there after faults have been put in other words was there before. -/
theorem ok_of_mapError {α : Type} {g : Fault → Fault} {x : Except Fault α} {a : α} (h : x.mapError g = .ok a) :
    x = .ok a := by
  cases x with
  | error f => cases h
  | ok b => exact h

/-- A value that is there after the column has been named was there before. -/
theorem ok_of_inColumn {α : Type} {columns : List Text} {i : Nat} {r : Except Fault α} {a : α}
    (h : inColumn columns i r = .ok a) : r = .ok a := by
  cases r with
  | error f => cases h
  | ok b => exact h

/-- The id of a user that is read from a row is the one in the row. -/
theorem readId_of_readUser {columns : List Text} {row : List Datum} {u : User} (h : readUser columns row = .ok u) :
    readId (row.getD 0 .null) = .ok u.id := by
  simp only [readUser, bind_eq_ok] at h
  obtain ⟨_, _, id, hid, _, _, _, _, _, _, _, _, _, _, _, _, _, _, hu⟩ := h
  rw [ok_of_inColumn hid, ← Except.ok.inj hu]

/-- A query by id finds a user of that id. -/
theorem id_of_readFirst {db : Database} {id : UInt64} {rs : ResultSet} {u : User} (hq : db.query (.userById id) = .ok rs)
    (hu : readFirst readUser rs = .ok (some u)) : u.id = id := by
  unfold Database.query at hq
  cases ht : db.table with
  | error f =>
    rw [ht] at hq
    cases hq
  | ok rows =>
    rw [ht] at hq
    obtain rfl := Except.ok.inj hq
    unfold readFirst at hu
    cases hf : rows.filter fun r => r.id == rowId id with
    | nil =>
      simp only [hf, brokenAt, List.map_nil] at hu
      cases hu
    | cons r rest =>
      have hr : r.id = rowId id := by
        have hm : r ∈ rows.filter fun r => r.id == rowId id := by simp [hf]
        simpa using (List.mem_filter.mp hm).2
      simp only [hf, brokenAt, List.map_cons] at hu
      cases hru : readUser userColumns r.values with
      | error f =>
        rw [hru] at hu
        cases hu
      | ok v =>
        rw [hru] at hu
        obtain rfl : v = u := Option.some.inj (Except.ok.inj hu)
        have hid : readId (.int r.id) = .ok v.id := readId_of_readUser hru
        rw [hr, readId_rowId] at hid
        exact (Except.ok.inj hid).symm

/-- A search for one user is one query, of which the first row is read. -/
theorem run_findOne (activity : Text) (q : Query) :
    (findOne activity q).run = .call (.query q) fun
      | .error f => .done (.error (failure activity f))
      | .ok rs => .done ((readFirst readUser rs).mapError (failure activity)) := by
  show Program.call _ _ = _
  congr
  funext r
  cases r with
  | error f => rfl
  | ok rs => rfl

/-! ### Changes of one id -/

/-- Putting a row among others leaves all rows of other ids. -/
theorem filter_insertRow (r : Row) (rows : List Row) :
    ((insertRow r rows).filter fun s => s.id != r.id) = rows.filter fun s => s.id != r.id := by
  induction rows with
  | nil => simp [insertRow]
  | cons s rest ih =>
    simp only [insertRow]
    split
    · simp
    · split
      · rename_i h
        have hs : s.id = r.id := (by simpa using h : r.id = s.id).symm
        simp [hs]
      · simp only [List.filter_cons, ih]

namespace Database

/-- Two states of the tables agree in everything but the rows of one id. -/
structure SameExcept (id : UInt64) (db db' : Database) : Prop where
  users : (db'.users.map fun rows => rows.filter fun r => r.id != rowId id) =
    db.users.map fun rows => rows.filter fun r => r.id != rowId id
  migrations : db'.migrations = db.migrations
  saved : db'.saved = db.saved
  closed : db'.closed = db.closed

theorem SameExcept.refl (id : UInt64) (db : Database) : SameExcept id db db := ⟨rfl, rfl, rfl, rfl⟩

/-- Two changes of the same record are one. -/
theorem SameExcept.trans {id : UInt64} {db db' db'' : Database} (h : SameExcept id db db') (h' : SameExcept id db' db'') :
    SameExcept id db db'' :=
  ⟨h'.users.trans h.users, h'.migrations.trans h.migrations, h'.saved.trans h.saved, h'.closed.trans h.closed⟩

/-- A table that can be read is there. -/
theorem users_of_table {db : Database} {rows : List Row} (h : db.table = .ok rows) : db.users = some rows := by
  unfold table at h
  split at h
  · rename_i hu
    rw [hu, Except.ok.inj h]
  · cases h

/-- Storing a user changes the rows of its id only. -/
theorem sameExcept_upsert (db : Database) (u : User) (now : Timestamp) :
    SameExcept u.id db (db.exec (.upsertUser u now)).2 := by
  unfold exec
  simp only
  split
  · exact .refl _ _
  · rename_i rows hr
    split
    · exact .refl _ _
    · refine ⟨?_, rfl, rfl, rfl⟩
      simp only [users_of_table hr, Option.map_some, Option.some.injEq]
      split
      · exact filter_insertRow { Row.ofUser u now with createdAt := _ } rows
      · exact filter_insertRow (Row.ofUser u now) rows

/-- Removing a user changes the rows of its id only. -/
theorem sameExcept_delete (db : Database) (id : UInt64) : SameExcept id db (db.exec (.deleteUser id)).2 := by
  unfold exec
  simp only
  split
  · exact .refl _ _
  · rename_i rows hr
    refine ⟨?_, rfl, rfl, rfl⟩
    simp only [users_of_table hr, Option.map_some, List.filter_filter, Bool.and_self]

end Database

/-- A call to the driver that changes the rows of one id at most. -/
def Call.changesOnly (id : UInt64) : Call → Prop
  | .query _ | .now | .log _ => True
  | .exec (.upsertUser u _) => u.id = id
  | .exec (.deleteUser i) => i = id
  | _ => False

/-- Saving changes the record of the user's id only. -/
theorem only_save (u : User) : Only (Call.changesOnly u.id) (save u).run := by
  unfold save
  split
  · trivial
  · refine only_bind ⟨trivial, fun _ => trivial⟩ fun now => ?_
    refine only_bind (only_exec _ _ rfl) fun _ => ?_
    refine only_bind (only_query _ _ trivial) fun r => ?_
    exact only_bind (only_adapt _ trivial) fun _ => trivial

/-- Deleting changes the record of its id only. -/
theorem only_delete (id : UInt64) : Only (Call.changesOnly id) (delete id).run := by
  unfold delete
  split
  · trivial
  · refine only_bind (only_exec _ _ rfl) fun affected => ?_
    refine only_bind (only_adapt _ trivial) fun n => ?_
    split <;> trivial

end Sql

/-! ## Stores -/

/-- Two states of a store agree on the records of all ids but one. -/
def Storage.SameExcept (id : UInt64) : Storage → Storage → Prop
  | .memory m, .memory m' => ∀ i, i ≠ id → m'.find? i = m.find? i
  | .database db, .database db' => db.SameExcept id db'
  | _, _ => False

theorem Storage.SameExcept.refl (id : UInt64) (s : Storage) : s.SameExcept id s := by
  cases s with
  | memory m => exact fun _ _ => rfl
  | database db => exact Sql.Database.SameExcept.refl id db

/-- Two changes of the same record are one. -/
theorem Storage.SameExcept.trans {id : UInt64} {s s' s'' : Storage} (h : s.SameExcept id s') (h' : s'.SameExcept id s'') :
    s.SameExcept id s'' := by
  cases s <;> cases s' <;> cases s'' <;> simp only [SameExcept] at h h' ⊢
  · exact fun i hi => (h' i hi).trans (h i hi)
  · exact h.trans h'

namespace World

open Program

/-- A script that only reads leaves the tables as they are. -/
theorem script_reads {α : Type} (w : World) (db : Sql.Database) {s : Sql.Script α} (h : Only Sql.Call.reads s.run) :
    (w.script db s).2.storage = .database db := by
  have keeps : ∀ (c : Sql.Call) (st : Sql.Database × List Log.Entry), c.reads → st.1 = db →
      (w.driverAnswer c st).2.1 = db := by
    rintro (_ | _ | _ | _ | _ | _ | _) ⟨db', log⟩ hc hs <;> first | exact hs | exact hc.elim
  have := h.run_keeps (K := fun st => st.1 = db) keeps (s := (db, w.entries)) rfl
  simp only [script]
  rw [this]

/-- A script that changes the rows of one id changes nothing else in the tables. -/
theorem script_changesOnly {α : Type} (w : World) (db : Sql.Database) (id : UInt64) {s : Sql.Script α}
    (h : Only (Sql.Call.changesOnly id) s.run) : (Storage.database db).SameExcept id (w.script db s).2.storage := by
  have keeps : ∀ (c : Sql.Call) (st : Sql.Database × List Log.Entry), c.changesOnly id → db.SameExcept id st.1 →
      db.SameExcept id (w.driverAnswer c st).2.1 := by
    rintro (_ | c | _ | _ | _ | _ | _) ⟨db', log⟩ hc hs
    case exec =>
      simp only [driverAnswer]
      split
      · exact hs
      · cases c with
        | upsertUser u now => exact hs.trans (hc ▸ db'.sameExcept_upsert u now)
        | deleteUser i => exact hs.trans (hc ▸ db'.sameExcept_delete i)
        | _ => exact hc.elim
    all_goals first | exact hs | exact hc.elim
  exact h.run_keeps (K := fun st => db.SameExcept id st.1) keeps (s := (db, w.entries)) (.refl id db)

/-! ## Frames -/

/-- What an operation of the store keeps whether or not it has been made to fail. -/
theorem onStore_keeps {α β : Type} {w : World} {p : Point} {run : Storage → Except Fault α × World} (K : World → β)
    (h : K (run w.storage).2 = K w) : K (w.onStore p run).2 = K w := by
  unfold onStore
  split
  · rfl
  · exact h

/-- A call of the cache changes the cache only. -/
theorem onCache_keeps {α β : Type} {w : World} {p : Point} {run : Caching → Except Fault α × Caching} (K : World → β)
    (h : ∀ k, K { w with caching := k } = K w) : K (w.onCache p run).2 = K w := by
  unfold onCache
  split
  · rfl
  · exact h _

/-- A wait ends at once or lets time pass. -/
theorem wait_cases (w : World) (d : Span) : (w.wait d).2 = w ∨ ∃ d', (w.wait d).2 = w.advance d' := by
  unfold wait
  split
  · exact .inl rfl
  · simp only
    split
    · split
      · exact .inr ⟨_, rfl⟩
      · exact .inr ⟨_, rfl⟩
    · exact .inr ⟨_, rfl⟩

/-- What the passing of time leaves alone, waiting leaves alone. -/
theorem wait_keeps {β : Type} (K : World → β) (h : ∀ w d, K (advance w d) = K w) (w : World) (d : Span) :
    K (w.wait d).2 = K w := by
  rcases w.wait_cases d with e | ⟨d', e⟩
  · rw [e]
  · rw [e, h]

/-- What does not depend on what has been sent, or on how much may still be, writing to the client leaves alone. -/
theorem write_keeps {β : Type} (K : World → β) (h : ∀ (w : World) left pieces,
    K { w with writesLeft := left, pieces } = K w) (w : World) (piece : Text) : K (w.write piece).2 = K w := by
  unfold write
  split
  · rfl
  · exact h _ _ _

/-- What does not depend on the limiter, an attempt leaves alone. -/
theorem mayTry_keeps {β : Type} (K : World → β) (h : ∀ (w : World) l, K { w with limiter := l } = K w) (w : World)
    (client : Text) : K (answer (.mayTry client) w).2 = K w := by
  simp only [answer]
  split
  · rfl
  · exact h _ _

/-- The terms on which calls are answered: which operations fail, and how long the caller waits. -/
def terms (w : World) : List (Point × Text) × Bool × Option Instant := (w.failing, w.canceled, w.deadline)

/-- No call changes the terms. -/
theorem answer_terms (c : Call) (w : World) : (answer c w).2.terms = w.terms := by
  cases c with
  | findById _ | findByEmail _ | save _ | delete _ | findAll =>
    refine onStore_keeps World.terms ?_
    split <;> rfl
  | cacheGet _ | cacheSet _ _ | cacheRemove _ => exact onCache_keeps World.terms fun _ => rfl
  | wait d => exact wait_keeps World.terms (fun _ _ => rfl) w d
  | write piece => exact write_keeps World.terms (fun _ _ _ => rfl) w piece
  | mayTry client => exact mayTry_keeps World.terms (fun _ _ => rfl) w client
  | _ => rfl

/-- No call changes which operations fail. -/
@[simp]
theorem answer_failing (c : Call) (w : World) : (answer c w).2.failing = w.failing := congrArg Prod.fst (answer_terms c w)

/-- A call that takes no time leaves the clock as it is. -/
theorem answer_clock {c : Call} (h : c.timeless = true) (w : World) : (answer c w).2.clock = w.clock := by
  cases c with
  | findById _ | findByEmail _ | save _ | delete _ | findAll =>
    refine onStore_keeps World.clock ?_
    split <;> rfl
  | cacheGet _ | cacheSet _ _ | cacheRemove _ => exact onCache_keeps World.clock fun _ => rfl
  | wait _ | pause _ => cases h
  | write piece => exact write_keeps World.clock (fun _ _ _ => rfl) w piece
  | mayTry client => exact mayTry_keeps World.clock (fun _ _ => rfl) w client
  | _ => rfl

/-- A call that takes no time leaves its caller as patient as before. -/
theorem answer_patience {c : Call} (h : c.timeless = true) (w : World) : (answer c w).2.patience = w.patience := by
  cases c with
  | findById _ | findByEmail _ | save _ | delete _ | findAll =>
    refine onStore_keeps World.patience ?_
    split <;> rfl
  | cacheGet _ | cacheSet _ _ | cacheRemove _ => exact onCache_keeps World.patience fun _ => rfl
  | wait _ | pause _ => cases h
  | write piece => exact write_keeps World.patience (fun _ _ _ => rfl) w piece
  | mayTry client => exact mayTry_keeps World.patience (fun _ _ => rfl) w client
  | _ => rfl

/-- Only calls of the cache change the cache. -/
theorem answer_caching {c : Call} (h : c.toCache = false) (w : World) : (answer c w).2.caching = w.caching := by
  cases c with
  | findById _ | findByEmail _ | save _ | delete _ | findAll =>
    refine onStore_keeps World.caching ?_
    split <;> rfl
  | cacheGet _ | cacheSet _ _ | cacheRemove _ => cases h
  | wait d => exact wait_keeps World.caching (fun _ _ => rfl) w d
  | write piece => exact write_keeps World.caching (fun _ _ _ => rfl) w piece
  | mayTry client => exact mayTry_keeps World.caching (fun _ _ => rfl) w client
  | _ => rfl

/-- A call that is not to change a record leaves the store as it is. -/
theorem answer_storage {c : Call} (h : c.writes? = none) (w : World) : (answer c w).2.storage = w.storage := by
  cases c with
  | findById id =>
    refine onStore_keeps World.storage ?_
    split <;> rename_i hs
    · rfl
    · rw [script_reads w _ (Sql.only_findById id), hs]
  | findByEmail email =>
    refine onStore_keeps World.storage ?_
    split <;> rename_i hs
    · rfl
    · rw [script_reads w _ (Sql.only_findByEmail email), hs]
  | findAll =>
    refine onStore_keeps World.storage ?_
    split <;> rename_i hs
    · rfl
    · rw [script_reads w _ Sql.only_findAll, hs]
  | save _ | delete _ => cases h
  | cacheGet _ | cacheSet _ _ | cacheRemove _ => exact onCache_keeps World.storage fun _ => rfl
  | wait d => exact wait_keeps World.storage (fun _ _ => rfl) w d
  | write piece => exact write_keeps World.storage (fun _ _ _ => rfl) w piece
  | mayTry client => exact mayTry_keeps World.storage (fun _ _ => rfl) w client
  | _ => rfl

/-- A look-up finds a user of the id that was asked for. -/
theorem findById_id {w : World} {id : UInt64} {u : User} (h : (answer (.findById id) w).1 = .ok (some u)) : u.id = id := by
  simp only [answer, onStore] at h
  split at h
  · cases h
  · split at h
    · exact Store.Memory.id_of_find? (Except.ok.inj h)
    · rename_i db _
      simp only [script, Sql.findById] at h
      split at h
      · cases h
      · rw [Sql.run_findOne, Program.run_call] at h
        cases hr : (w.driverAnswer (.query (.userById id)) (db, w.entries)).1 with
        | error f =>
          rw [hr] at h
          cases h
        | ok rs =>
          rw [hr] at h
          obtain ⟨_, _, hq⟩ := Sql.bind_eq_ok.mp hr
          exact Sql.id_of_readFirst hq (Sql.ok_of_mapError h)

/-- A world answers a look-up with a user of the id it was asked for. -/
theorem answer_truthful (c : Call) (w : World) : c.Truthful (answer c w).1 := by
  cases c with
  | findById id => exact fun u hu => findById_id hu
  | _ => trivial

/-- A call that is to change the record of an id changes no other record. -/
theorem answer_sameExcept {c : Call} {id : UInt64} (h : c.writes? = some id) (w : World) :
    w.storage.SameExcept id (answer c w).2.storage := by
  cases c with
  | save u =>
    obtain rfl : u.id = id := Option.some.inj h
    simp only [answer, onStore]
    split
    · exact .refl _ _
    · split <;> rename_i hs <;> rw [hs]
      · exact fun i hi => Store.Memory.find?_save_other _ _ _ hi
      · exact script_changesOnly w _ _ (Sql.only_save u)
  | delete i =>
    obtain rfl : i = id := Option.some.inj h
    simp only [answer, onStore]
    split
    · exact .refl _ _
    · split <;> rename_i hs <;> rw [hs]
      · exact fun j hj => Store.Memory.find?_delete_other _ hj
      · exact script_changesOnly w _ _ (Sql.only_delete i)
  | _ => cases h

/-! ## Log entries -/

/-- Two worlds that differ in their log entries at most. -/
def SameButLog (w v : World) : Prop := ∃ entries, v = { w with entries }

theorem SameButLog.refl (w : World) : SameButLog w w := ⟨w.entries, rfl⟩

theorem SameButLog.symm {w v : World} (h : SameButLog w v) : SameButLog v w := by
  obtain ⟨_, rfl⟩ := h
  exact ⟨w.entries, rfl⟩

theorem SameButLog.trans {w v u : World} (h : SameButLog w v) (h' : SameButLog v u) : SameButLog w u := by
  obtain ⟨_, rfl⟩ := h
  obtain ⟨l, rfl⟩ := h'
  exact ⟨l, rfl⟩

/-- Time passes alike. -/
theorem SameButLog.advance {w v : World} (h : SameButLog w v) (d : Span) : SameButLog (w.advance d) (v.advance d) := by
  obtain ⟨l, rfl⟩ := h
  exact ⟨l, rfl⟩

/-- What a driver answers and does to the tables does not depend on the log. -/
theorem run_driver_log {α : Type} (w : World) (p : Program Sql.Driver α) (db : Sql.Database) (l l' : List Log.Entry) :
    (Program.run w.driverAnswer p (db, l)).1 = (Program.run w.driverAnswer p (db, l')).1 ∧
      (Program.run w.driverAnswer p (db, l)).2.1 = (Program.run w.driverAnswer p (db, l')).2.1 := by
  induction p generalizing db l l' with
  | done a => exact ⟨rfl, rfl⟩
  | call c next ih =>
    cases c with
    | exec c =>
      simp only [run_call, driverAnswer]
      split
      · exact ih _ _ _ _
      · exact ih _ _ _ _
    | begin =>
      simp only [run_call, driverAnswer]
      split
      · exact ih _ _ _ _
      · exact ih _ _ _ _
    | _ => exact ih _ _ _ _

/-- What is in the log has no bearing on a script. -/
theorem script_log {α : Type} {w v : World} (h : SameButLog w v) (db : Sql.Database) (s : Sql.Script α) :
    (w.script db s).1 = (v.script db s).1 ∧ SameButLog (w.script db s).2 (v.script db s).2 := by
  obtain ⟨l, rfl⟩ := h
  obtain ⟨h1, h2⟩ := run_driver_log w s.run db w.entries l
  refine ⟨h1, (Program.run w.driverAnswer s.run (db, l)).2.2, ?_⟩
  exact congrArg (fun db' => ({ w with storage := .database db', entries := _ } : World)) h2.symm

/-- What is in the log has no bearing on a call of the store. -/
theorem onStore_log {α : Type} {w v : World} (h : SameButLog w v) (p : Point)
    {run run' : Storage → Except Fault α × World} (hr : ∀ s, (run s).1 = (run' s).1 ∧ SameButLog (run s).2 (run' s).2) :
    (w.onStore p run).1 = (v.onStore p run').1 ∧ SameButLog (w.onStore p run).2 (v.onStore p run').2 := by
  have hf : v.failure? p = w.failure? p := by
    obtain ⟨_, rfl⟩ := h
    rfl
  have hs : v.storage = w.storage := by
    obtain ⟨_, rfl⟩ := h
    rfl
  simp only [onStore, hf, hs]
  cases w.failure? p with
  | some t => exact ⟨rfl, h⟩
  | none => exact hr w.storage

/-- What is in the log has no bearing on a call of the cache. -/
theorem onCache_log {α : Type} {w v : World} (h : SameButLog w v) (p : Point)
    (run : Caching → Except Fault α × Caching) :
    (w.onCache p run).1 = (v.onCache p run).1 ∧ SameButLog (w.onCache p run).2 (v.onCache p run).2 := by
  obtain ⟨l, rfl⟩ := h
  have hf : World.failure? { w with entries := l } p = w.failure? p := rfl
  simp only [onCache, hf]
  cases w.failure? p with
  | some t => exact ⟨rfl, l, rfl⟩
  | none => exact ⟨rfl, l, rfl⟩

/-- What is in the log has no bearing on waiting. -/
theorem wait_log {w v : World} (h : SameButLog w v) (d : Span) :
    (w.wait d).1 = (v.wait d).1 ∧ SameButLog (w.wait d).2 (v.wait d).2 := by
  obtain ⟨l, rfl⟩ := h
  have hp : World.patience { w with entries := l } = w.patience := rfl
  simp only [wait, hp]
  cases w.patience with
  | error f => exact ⟨rfl, l, rfl⟩
  | ok _ =>
    obtain ⟨_, _, _, _, _, _, deadline, _, _, _, _, _⟩ := w
    cases deadline with
    | none => exact ⟨rfl, l, rfl⟩
    | some t =>
      dsimp only
      split
      · exact ⟨rfl, l, rfl⟩
      · exact ⟨rfl, l, rfl⟩

/-- What is in the log has no bearing on writing to the client. -/
theorem write_log {w v : World} (h : SameButLog w v) (piece : Text) :
    (w.write piece).1 = (v.write piece).1 ∧ SameButLog (w.write piece).2 (v.write piece).2 := by
  obtain ⟨l, rfl⟩ := h
  obtain ⟨_, _, _, _, _, _, _, _, _, _, left, _⟩ := w
  rcases left with _ | _ | n <;> exact ⟨rfl, l, rfl⟩

/-- A script that only reads leaves the world as it is, up to log entries. -/
theorem script_reads_log {α : Type} {w : World} {db : Sql.Database} (hs : w.storage = .database db) {s : Sql.Script α}
    (h : Only Sql.Call.reads s.run) : SameButLog w (w.script db s).2 := by
  have e : (w.script db s).2 = { w with storage := (w.script db s).2.storage, entries := (w.script db s).2.entries } := rfl
  rw [e, script_reads w db h, ← hs]
  exact ⟨_, rfl⟩

/-- Looking a user up leaves the world as it is, up to log entries. -/
theorem findById_log (w : World) (id : UInt64) : SameButLog w (answer (.findById id) w).2 := by
  simp only [answer, onStore]
  split
  · exact .refl w
  · split
    · exact .refl w
    · rename_i hs
      exact script_reads_log hs (Sql.only_findById id)

/-- Every call but the one that writes to the log is answered alike, and has like effects, in worlds that differ in their log
entries only. -/
theorem answer_log {w v : World} (h : SameButLog w v) {c : Call} (hc : ∀ e, c ≠ .log e) :
    (answer c w).1 = (answer c v).1 ∧ SameButLog (answer c w).2 (answer c v).2 := by
  cases c with
  | findById id =>
    refine onStore_log h _ fun s => ?_
    cases s with
    | memory m => exact ⟨rfl, h⟩
    | database db => exact script_log h db _
  | findByEmail email =>
    refine onStore_log h _ fun s => ?_
    cases s with
    | memory m => exact ⟨rfl, h⟩
    | database db => exact script_log h db _
  | findAll =>
    refine onStore_log h _ fun s => ?_
    cases s with
    | memory m => exact ⟨rfl, h⟩
    | database db => exact script_log h db _
  | save u =>
    refine onStore_log h _ fun s => ?_
    obtain ⟨l, rfl⟩ := h
    cases s with
    | memory m => exact ⟨rfl, l, rfl⟩
    | database db => exact script_log ⟨l, rfl⟩ db _
  | delete id =>
    refine onStore_log h _ fun s => ?_
    obtain ⟨l, rfl⟩ := h
    cases s with
    | memory m => exact ⟨rfl, l, rfl⟩
    | database db => exact script_log ⟨l, rfl⟩ db _
  | cacheGet _ | cacheSet _ _ | cacheRemove _ =>
    obtain ⟨l, rfl⟩ := h
    exact onCache_log ⟨l, rfl⟩ _ _
  | wait d => exact wait_log h d
  | write piece => exact write_log h piece
  | mayTry client =>
    obtain ⟨l, rfl⟩ := h
    obtain ⟨_, _, _, limiter, _, _, _, _, _, _, _, _⟩ := w
    cases limiter <;> exact ⟨rfl, l, rfl⟩
  | log e => exact absurd rfl (hc e)
  | now | salt | requestId | pause _ | patience =>
    obtain ⟨l, rfl⟩ := h
    exact ⟨rfl, l, rfl⟩

/-! ## Users in memory, cached in the process -/

section Memory

variable {w : World} {m : Store.Memory}

/-- A look-up by id in memory answers with what is there and changes nothing. -/
theorem answer_findById (hs : w.storage = .memory m) (hf : w.failure? .findById = none) (id : UInt64) :
    answer (.findById id) w = (.ok (m.find? id), w) := by
  simp only [answer, onStore, hf, hs]

/-- Saving in memory changes the memory and nothing else. -/
theorem answer_save (hs : w.storage = .memory m) (hf : w.failure? .save = none) (u : User) :
    answer (.save u) w = (.ok (m.save w.now u).1, { w with storage := .memory (m.save w.now u).2 }) := by
  simp only [answer, onStore, hf, hs]

/-- Deleting in memory changes the memory and nothing else. -/
theorem answer_delete (hs : w.storage = .memory m) (hf : w.failure? .delete = none) (id : UInt64) :
    answer (.delete id) w = ((m.delete id).1, { w with storage := .memory (m.delete id).2 }) := by
  simp only [answer, onStore, hf, hs]

variable {c : Cache.Local User}

/-- A look-up in the cache of the process answers with what is there and changes nothing. -/
theorem answer_cacheGet (hc : w.caching = .inProcess c) (hf : w.failure? .cacheGet = none) (key : Text) :
    answer (.cacheGet key) w = (.ok (c.get? key), w) := by
  simp only [answer, onCache, hf, hc]
  rw [← hc]

/-- Setting a key in the cache of the process changes the cache and nothing else. -/
theorem answer_cacheSet (hc : w.caching = .inProcess c) (hf : w.failure? .cacheSet = none) (key : Text) (u : User) :
    answer (.cacheSet key u) w = (.ok (), { w with caching := .inProcess (c.set key u) }) := by
  simp only [answer, onCache, hf, hc]

/-- Removing a key from the cache of the process answers with what was there and changes nothing else. -/
theorem answer_cacheRemove (hc : w.caching = .inProcess c) (hf : w.failure? .cacheRemove = none) (key : Text) :
    answer (.cacheRemove key) w = (.ok (c.get? key), { w with caching := .inProcess (c.erase key) }) := by
  simp only [answer, onCache, hf, hc, Cache.Local.remove]

end Memory

end World

end Roster
