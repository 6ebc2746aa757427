import Roster.Proofs.Worlds

/-!
# Worlds that differ in password hashes

Taking the password hashes out of a store, a table or a cache commutes with every operation on it. So if two worlds differ in
password hashes at most, then so do the answers they give to a call and the worlds that the call leaves.

Main statement: `World.answer_paired`, about a single call. `Program.Parallel` carries it over to whole computations.
-/

namespace Roster

open Program

/-! ## Users and results -/

/-- Two users who differ in their password hashes at most. -/
def User.SameButHash (u v : User) : Prop := u.withoutHash = v.withoutHash

/-- Two lists of users who differ, one by one, in their password hashes at most. -/
abbrev Users.SameButHashes (us vs : List User) : Prop := us.map User.withoutHash = vs.map User.withoutHash

/-- What does not depend on the password hash is the same for both. -/
theorem User.SameButHash.congr {β : Type} {u v : User} (h : u.SameButHash v) (g : User → β)
    (hg : ∀ u, g u.withoutHash = g u) : g u = g v := by
  rw [← hg u, ← hg v]
  exact congrArg g h

/-- The same fault on both sides, or two values that `Q` relates. -/
inductive FaultOr {α β : Type} (Q : α → β → Prop) : Except Fault α → Except Fault β → Prop where
  | fault (f : Fault) : FaultOr Q (.error f) (.error f)
  | value {a : α} {b : β} : Q a b → FaultOr Q (.ok a) (.ok b)

/-- A result is related to itself, if every value is. -/
theorem FaultOr.refl {α : Type} {Q : α → α → Prop} (hq : ∀ a, Q a a) (x : Except Fault α) : FaultOr Q x x := by
  cases x with
  | error f => exact .fault f
  | ok a => exact .value (hq a)

/-- Values may be related more loosely. -/
theorem FaultOr.mono {α β : Type} {Q Q' : α → β → Prop} (hq : ∀ a b, Q a b → Q' a b) {x : Except Fault α} {y : Except Fault β}
    (h : FaultOr Q x y) : FaultOr Q' x y := by
  cases h with
  | fault f => exact .fault f
  | value h => exact .value (hq _ _ h)

/-- Values may be mapped on both sides, if that leaves them related. -/
theorem FaultOr.map {α β α' β' : Type} {Q : α → β → Prop} {Q' : α' → β' → Prop} {f : α → α'} {g : β → β'}
    (hq : ∀ a b, Q a b → Q' (f a) (g b)) {x : Except Fault α} {y : Except Fault β} (h : FaultOr Q x y) :
    FaultOr Q' (x.map f) (y.map g) := by
  cases h with
  | fault e => exact .fault e
  | value h => exact .value (hq _ _ h)

/-- Two results that are equal after a map are the same fault, or values that are equal after it. -/
theorem FaultOr.of_map {α β : Type} {g : α → β} {x y : Except Fault α} (h : x.map g = y.map g) :
    FaultOr (fun a b => g a = g b) x y := by
  cases x with
  | error f =>
    cases y with
    | error f' =>
      obtain rfl := Except.error.inj h
      exact .fault f
    | ok b => cases h
  | ok a =>
    cases y with
    | error f' => cases h
    | ok b => exact .value (Except.ok.inj h)

/-- Two computations that may fail, followed side by side up to a common fault. -/
theorem Program.Parallel.attempt_bind {I : Interface} {like : (c c' : I.Call) → (I.Answer c → I.Answer c' → Prop) → Prop}
    {α β α' β' : Type} {Q : α → β → Prop} {Q' : α' → β' → Prop} {t : ExceptT Fault (Program I) α}
    {t' : ExceptT Fault (Program I) β} {f : α → ExceptT Fault (Program I) α'} {g : β → ExceptT Fault (Program I) β'}
    (h : Parallel like (FaultOr Q) t.run t'.run)
    (hf : ∀ a b, Q a b → Parallel like (FaultOr Q') (f a).run (g b).run) :
    Parallel like (FaultOr Q') (t >>= f).run (t' >>= g).run := by
  refine h.bind fun x y hxy => ?_
  cases hxy with
  | fault e => exact .done (.fault e)
  | value hab => exact hf _ _ hab

/-- Two tasks that go side by side still do so when their faults are put in other words. -/
theorem Program.Parallel.adapt {I : Interface} {like : (c c' : I.Call) → (I.Answer c → I.Answer c' → Prop) → Prop}
    {α β : Type} {Q : α → β → Prop} {t : ExceptT Fault (Program I) α} {t' : ExceptT Fault (Program I) β}
    (h : Parallel like (FaultOr Q) t.run t'.run) (g : Fault → Fault) :
    Parallel like (FaultOr Q) (ExceptT.adapt g t).run (ExceptT.adapt g t').run := by
  refine h.bind fun x y hxy => ?_
  cases hxy with
  | fault e => exact .done (.fault (g e))
  | value hab => exact .done (.value hab)

/-- Two options that are equal after a map are both empty, or hold values that are equal after it. -/
theorem rel_of_map {α β : Type} {g : α → β} {o o' : Option α} (h : o.map g = o'.map g) :
    Option.Rel (fun a b => g a = g b) o o' := by
  cases o with
  | none =>
    cases o' with
    | none => exact .none
    | some b => cases h
  | some a =>
    cases o' with
    | none => cases h
    | some b => exact .some (Option.some.inj h)

/-- Changing values under their keys changes what a look-up finds in the same way. -/
theorem lookup_map_value {κ α β : Type} [BEq κ] (g : α → β) (l : List (κ × α)) (key : κ) :
    (l.map fun e => (e.1, g e.2)).lookup key = (l.lookup key).map g := by
  induction l with
  | nil => rfl
  | cons e rest ih =>
    obtain ⟨k, a⟩ := e
    simp only [List.map_cons, List.lookup_cons, ih]
    cases key == k <;> rfl

/-! ## The store in memory -/

namespace Store.Memory

/-- The store without password hashes. -/
def withoutHashes (m : Memory) : Memory := ⟨m.users.map User.withoutHash⟩

/-- A look-up by id finds the same user without its hash. -/
theorem find?_withoutHashes (m : Memory) (id : UInt64) : m.withoutHashes.find? id = (m.find? id).map User.withoutHash :=
  List.find?_map

/-- A look-up by email finds the same user without its hash: the hash does not decide who is found. -/
theorem findEmail?_withoutHashes (m : Memory) (email : Text) :
    m.withoutHashes.findEmail? email = (m.findEmail? email).map User.withoutHash := by
  have hstep : ∀ (best : Option User) (u : User),
      lesser (best.map User.withoutHash) u.withoutHash = (lesser best u).map User.withoutHash := by
    intro best u
    cases best with
    | none => rfl
    | some b =>
      show (if u.id < b.id then _ else _) = _
      rw [lesser]
      split <;> rfl
  unfold findEmail? withoutHashes
  rw [List.filter_map, List.foldl_map]
  exact @List.foldl_hom _ _ _ (Option.map User.withoutHash) lesser (fun best u => lesser best (User.withoutHash u)) _ none hstep

/-- Saving commutes with taking the hashes out. -/
theorem save_withoutHashes (m : Memory) (now : Timestamp) (u : User) :
    m.withoutHashes.save now u.withoutHash = ((m.save now u).1.withoutHash, (m.save now u).2.withoutHashes) := by
  have hcreated : (m.withoutHashes.find? u.withoutHash.id).map User.createdAt = (m.find? u.id).map User.createdAt := by
    rw [find?_withoutHashes, Option.map_map]
    rfl
  simp only [save]
  rw [hcreated]
  simp only [withoutHashes, List.map_cons, List.filter_map]
  rfl

/-- Deleting commutes with taking the hashes out. -/
theorem delete_withoutHashes (m : Memory) (id : UInt64) :
    m.withoutHashes.delete id = ((m.delete id).1, (m.delete id).2.withoutHashes) := by
  unfold delete
  rw [find?_withoutHashes]
  cases m.find? id with
  | none => rfl
  | some u =>
    simp only [Option.map_some, withoutHashes, List.filter_map]
    rfl

variable {m m' : Memory}

/-- Saving users who differ in their hashes answers with such users and leaves memories that differ in hashes at most. -/
theorem save_congr (h : m.withoutHashes = m'.withoutHashes) {u v : User} (huv : u.SameButHash v) (now : Timestamp) :
    (m.save now u).1.SameButHash (m'.save now v).1 ∧ (m.save now u).2.withoutHashes = (m'.save now v).2.withoutHashes := by
  have hsave := save_withoutHashes m now u
  rw [h, show u.withoutHash = v.withoutHash from huv, save_withoutHashes] at hsave
  exact ⟨(Prod.mk.inj hsave).1.symm, (Prod.mk.inj hsave).2.symm⟩

/-- Deleting gives the same answer and leaves memories that differ in hashes at most. -/
theorem delete_congr (h : m.withoutHashes = m'.withoutHashes) (id : UInt64) :
    (m.delete id).1 = (m'.delete id).1 ∧ (m.delete id).2.withoutHashes = (m'.delete id).2.withoutHashes := by
  have hdelete := delete_withoutHashes m id
  rw [h, delete_withoutHashes] at hdelete
  exact ⟨(Prod.mk.inj hdelete).1.symm, (Prod.mk.inj hdelete).2.symm⟩

end Store.Memory

/-! ## The tables -/

namespace Sql

/-- The row without the password hash. -/
def Row.withoutHash (r : Row) : Row := { r with passwordHash := [] }

/-- The tables without password hashes, also in the state that a rollback would restore. -/
def Database.withoutHashes (db : Database) : Database :=
  { db with
    users := db.users.map (List.map Row.withoutHash)
    saved := db.saved.map fun s => (s.1.map (List.map Row.withoutHash), s.2) }

/-- The answer to a query for users. -/
def usersFound (rows : List Row) : ResultSet := { columns := userColumns, rows := rows.map Row.values }

/-- The answers to a query for users of which the rows differ in password hashes at most. -/
def SameUsersFound (rs rs' : ResultSet) : Prop :=
  ∃ rows rows', rows.map Row.withoutHash = rows'.map Row.withoutHash ∧ rs = usersFound rows ∧ rs' = usersFound rows'

theorem map_bind {α β γ : Type} (g : β → γ) (x : Except Fault α) (f : α → Except Fault β) :
    (x >>= f).map g = x >>= fun a => (f a).map g := by
  cases x <;> rfl

/-- A row without its hash reads as the user without its hash, and a row that cannot be read still cannot. -/
theorem readUser_withoutHash (r : Row) :
    readUser userColumns r.withoutHash.values = (readUser userColumns r.values).map User.withoutHash := by
  -- Every text is accepted as a hash, so it is the other columns that decide whether a row can be read.
  simp only [readUser, map_bind]
  rfl

/-- The first row found reads the same but for the hash. -/
theorem readFirst_withoutHash (rows : List Row) :
    readFirst readUser (usersFound (rows.map Row.withoutHash)) =
      (readFirst readUser (usersFound rows)).map (Option.map User.withoutHash) := by
  cases rows with
  | nil => rfl
  | cons r rest =>
    show (readUser userColumns r.withoutHash.values).map some = ((readUser userColumns r.values).map some).map _
    rw [readUser_withoutHash]
    cases readUser userColumns r.values <;> rfl

/-- Rows read the same but for the hashes, with the same fault at the same row. -/
theorem readRows_withoutHash (unread unfetched : Fault → Fault) (i : Nat) (rows : List Row) :
    readRows (readUser userColumns) unread unfetched none i ((rows.map Row.withoutHash).map Row.values) =
      (readRows (readUser userColumns) unread unfetched none i (rows.map Row.values)).map (List.map User.withoutHash) := by
  induction rows generalizing i with
  | nil => rfl
  | cons r rest ih =>
    simp only [List.map_cons, readRows, brokenAt, readUser_withoutHash, ih]
    cases readUser userColumns r.values with
    | error f => rfl
    | ok u => cases readRows (readUser userColumns) unread unfetched none (i + 1) (rest.map Row.values) <;> rfl

/-- Statements that ask for users. -/
def Query.forUsers : Query → Prop
  | .userById _ | .userByEmail _ | .allUsers => True
  | .createdAt _ | .migrations => False

/-- Calls to the driver that make a pair when two databases differ in password hashes at most, and how their answers are
related. -/
inductive Call.Paired : (c c' : Call) → (c.Answer → c'.Answer → Prop) → Prop where
  | users {q : Query} : q.forUsers → Paired (.query q) (.query q) (FaultOr SameUsersFound)
  | createdAt (id : UInt64) : Paired (.query (.createdAt id)) (.query (.createdAt id)) Eq
  | upsertUser {u v : User} (now : Timestamp) :
      u.SameButHash v → Paired (.exec (.upsertUser u now)) (.exec (.upsertUser v now)) Eq
  | deleteUser (id : UInt64) : Paired (.exec (.deleteUser id)) (.exec (.deleteUser id)) Eq
  | now : Paired .now .now Eq

namespace Database

/-- The table of users without hashes holds the rows without their hashes, if there is a table. -/
theorem table_withoutHashes (db : Database) : db.withoutHashes.table = db.table.map (List.map Row.withoutHash) := by
  unfold table withoutHashes
  cases db.users <;> rfl

/-- Every query for users picks rows without looking at password hashes. -/
theorem query_forUsers {q : Query} (hq : q.forUsers) :
    ∃ pick : List Row → List Row, (∀ db : Database, db.query q = db.table.map fun rows => usersFound (pick rows)) ∧
      ∀ rows, (pick rows).map Row.withoutHash = pick (rows.map Row.withoutHash) := by
  cases q with
  | userById id =>
    refine ⟨List.filter fun r => r.id == rowId id, fun _ => rfl, fun rows => ?_⟩
    rw [List.filter_map]
    rfl
  | userByEmail email =>
    refine ⟨fun rows => (rows.filter fun r => Text.equalNoCase r.email email).take 1, fun _ => rfl, fun rows => ?_⟩
    dsimp only
    rw [List.map_take, List.filter_map]
    rfl
  | allUsers => exact ⟨id, fun _ => rfl, fun _ => rfl⟩
  | createdAt id => exact hq.elim
  | migrations => exact hq.elim

/-- A row takes its place in the table by its key, whatever the hashes are. -/
theorem insertRow_withoutHash (r : Row) (rows : List Row) :
    insertRow r.withoutHash (rows.map Row.withoutHash) = (insertRow r rows).map Row.withoutHash := by
  induction rows with
  | nil => rfl
  | cons s rest ih =>
    show (if r.id < s.id then _ else if r.id == s.id then _ else _) = _
    simp only [insertRow]
    split
    · rfl
    · split
      · rfl
      · rw [List.map_cons, ← ih]

/-- Writing a user commutes with taking the hashes out of the tables. -/
theorem exec_upsert_withoutHash (db : Database) (u : User) (now : Timestamp) :
    db.withoutHashes.exec (.upsertUser u.withoutHash now) =
      ((db.exec (.upsertUser u now)).1, (db.exec (.upsertUser u now)).2.withoutHashes) := by
  simp only [exec, table_withoutHashes]
  cases db.table with
  | error f => rfl
  | ok rows =>
    have hold : (rows.map Row.withoutHash).find? (fun r => r.id == (Row.ofUser u.withoutHash now).id) =
        (rows.find? fun r => r.id == (Row.ofUser u now).id).map Row.withoutHash := List.find?_map
    have hsame : u.withoutHash.role = u.role := rfl
    simp only [Except.map, hold, hsame]
    by_cases hrole : (Role.parse? u.role).isNone = true
    · rw [if_pos hrole, if_pos hrole]
    · rw [if_neg hrole, if_neg hrole]
      cases rows.find? fun r => r.id == (Row.ofUser u now).id with
      | none => simp only [Option.map_none, withoutHashes, Option.map_some, ← insertRow_withoutHash]; rfl
      | some old => simp only [withoutHashes, Option.map_some, ← insertRow_withoutHash]; rfl

/-- Deleting a user commutes with taking the hashes out of the tables. -/
theorem exec_delete_withoutHash (db : Database) (id : UInt64) :
    db.withoutHashes.exec (.deleteUser id) =
      ((db.exec (.deleteUser id)).1, (db.exec (.deleteUser id)).2.withoutHashes) := by
  simp only [exec, table_withoutHashes]
  cases db.table with
  | error f => rfl
  | ok rows =>
    simp only [Except.map, List.filter_map, List.length_map]
    rfl

/-- When a user was created does not depend on any hash. -/
theorem query_createdAt_withoutHashes (db : Database) (id : UInt64) :
    db.withoutHashes.query (.createdAt id) = db.query (.createdAt id) := by
  simp only [query, table_withoutHashes]
  cases db.table with
  | error f => rfl
  | ok rows =>
    simp only [Except.map, List.filter_map, List.map_map]
    rfl

/-! ### Databases that differ in password hashes -/

variable {db db' : Database}

/-- A query for users fails alike or finds the same users but for their hashes. -/
theorem query_congr (h : db.withoutHashes = db'.withoutHashes) {q : Query} (hq : q.forUsers) :
    FaultOr SameUsersFound (db.query q) (db'.query q) := by
  obtain ⟨pick, hquery, hpick⟩ := query_forUsers hq
  have htable : db.table.map (List.map Row.withoutHash) = db'.table.map (List.map Row.withoutHash) := by
    rw [← table_withoutHashes, ← table_withoutHashes, h]
  rw [hquery, hquery]
  refine (FaultOr.of_map htable).map fun rows rows' hrows => ⟨pick rows, pick rows', ?_, rfl, rfl⟩
  rw [hpick, hpick, hrows]

theorem query_createdAt_congr (h : db.withoutHashes = db'.withoutHashes) (id : UInt64) :
    db.query (.createdAt id) = db'.query (.createdAt id) := by
  rw [← query_createdAt_withoutHashes, h, query_createdAt_withoutHashes]

/-- Writing users who differ in their hashes succeeds alike and leaves tables that differ in hashes at most. -/
theorem exec_upsert_congr (h : db.withoutHashes = db'.withoutHashes) {u v : User} (huv : u.SameButHash v) (now : Timestamp) :
    (db.exec (.upsertUser u now)).1 = (db'.exec (.upsertUser v now)).1 ∧
      (db.exec (.upsertUser u now)).2.withoutHashes = (db'.exec (.upsertUser v now)).2.withoutHashes := by
  have hexec := exec_upsert_withoutHash db u now
  rw [h, show u.withoutHash = v.withoutHash from huv, exec_upsert_withoutHash] at hexec
  exact ⟨(Prod.mk.inj hexec).1.symm, (Prod.mk.inj hexec).2.symm⟩

/-- Deleting succeeds alike and leaves tables that differ in hashes at most. -/
theorem exec_delete_congr (h : db.withoutHashes = db'.withoutHashes) (id : UInt64) :
    (db.exec (.deleteUser id)).1 = (db'.exec (.deleteUser id)).1 ∧
      (db.exec (.deleteUser id)).2.withoutHashes = (db'.exec (.deleteUser id)).2.withoutHashes := by
  have hexec := exec_delete_withoutHash db id
  rw [h, exec_delete_withoutHash] at hexec
  exact ⟨(Prod.mk.inj hexec).1.symm, (Prod.mk.inj hexec).2.symm⟩

end Database

/-! ### Scripts -/

/-- A query for users goes side by side with itself. -/
theorem query_paired (activity : Text) {q : Query} (hq : q.forUsers) :
    Parallel Call.Paired (FaultOr SameUsersFound) (query activity q).run (query activity q).run :=
  Parallel.adapt (.call (.users hq) fun _ _ hxy => .done hxy) _

/-- A search for one user finds nobody in both, or users who differ in their hashes at most. -/
theorem findOne_paired (activity : Text) {q : Query} (hq : q.forUsers) :
    Parallel Call.Paired (FaultOr (Option.Rel User.SameButHash)) (findOne activity q).run (findOne activity q).run := by
  refine Parallel.attempt_bind (query_paired activity hq) ?_
  rintro _ _ ⟨rows, rows', hrows, rfl, rfl⟩
  refine Parallel.adapt (.done ?_) _
  have hread : (readFirst readUser (usersFound rows)).map (Option.map User.withoutHash) =
      (readFirst readUser (usersFound rows')).map (Option.map User.withoutHash) := by
    rw [← readFirst_withoutHash, ← readFirst_withoutHash, hrows]
  exact (FaultOr.of_map hread).mono fun _ _ h => rel_of_map h

theorem findById_paired (id : UInt64) :
    Parallel Call.Paired (FaultOr (Option.Rel User.SameButHash)) (findById id).run (findById id).run := by
  unfold findById
  split
  · exact .done (.value .none)
  · exact findOne_paired _ trivial

theorem findByEmail_paired (email : Text) :
    Parallel Call.Paired (FaultOr (Option.Rel User.SameButHash)) (findByEmail email).run (findByEmail email).run :=
  findOne_paired "query user by email" (q := .userByEmail email) trivial

/-- A listing goes side by side with itself and finds users who differ in their hashes at most. -/
theorem findAll_paired : Parallel Call.Paired (FaultOr Users.SameButHashes) findAll.run findAll.run := by
  refine Parallel.attempt_bind (query_paired _ trivial) ?_
  rintro _ _ ⟨rows, rows', hrows, rfl, rfl⟩
  refine .done (FaultOr.of_map ?_)
  show (readRows (readUser userColumns) _ _ none 0 (rows.map Row.values)).map _ =
    (readRows (readUser userColumns) _ _ none 0 (rows'.map Row.values)).map _
  rw [← readRows_withoutHash, ← readRows_withoutHash, hrows]

/-- Saving users who differ in their hashes goes side by side, also through the question when they were created. -/
theorem save_paired {u v : User} (h : u.SameButHash v) :
    Parallel Call.Paired (FaultOr User.SameButHash) (save u).run (save v).run := by
  -- Both sides store under the same id, which is also the one whose time of creation is read back.
  have hid : u.id = v.id := h.congr User.id fun _ => rfl
  unfold save
  rw [hid]
  split
  · exact .done (.fault _)
  · refine Parallel.attempt_bind (Q := Eq) (.call .now fun _ _ hxy => .done (.value hxy)) ?_
    rintro now _ rfl
    refine Parallel.attempt_bind (Q := Eq) (Parallel.adapt (.call (.upsertUser now h) fun x _ hxy => .done ?_) _) ?_
    · exact hxy ▸ FaultOr.refl (fun _ => rfl) x
    · rintro _ _ -
      refine Parallel.attempt_bind (Q := Eq) (Parallel.adapt (.call (.createdAt v.id) fun x _ hxy => .done ?_) _) ?_
      · exact hxy ▸ FaultOr.refl (fun _ => rfl) x
      · rintro rs _ rfl
        refine Parallel.attempt_bind (Q := Eq) (Parallel.adapt (.done (FaultOr.refl (fun _ => rfl) _)) _) ?_
        rintro created _ rfl
        exact .done (.value (h.congr (fun x => User.withoutHash { x with id := v.id, createdAt := created, updatedAt := now })
          fun _ => rfl))

/-- Deleting goes side by side with itself, to the same result. -/
theorem delete_paired (id : UInt64) : Parallel Call.Paired Eq (delete id).run (delete id).run := by
  refine Only.parallel (P := fun c => Call.Paired c c Eq) (fun _ hc => hc) ?_
  unfold delete
  split
  · trivial
  · refine only_bind (only_exec _ _ (.deleteUser id)) fun affected => ?_
    refine only_bind (only_adapt _ trivial) fun n => ?_
    split <;> trivial

end Sql

/-! ## The caches -/

namespace Cache

/-- The cache without password hashes. -/
def Local.withoutHashes (c : Local User) : Local User := ⟨c.entries.map fun e => (e.1, e.2.withoutHash)⟩

/-- A look-up in the cache finds the same user without its hash. -/
theorem Local.get?_withoutHashes (c : Local User) (key : Text) :
    c.withoutHashes.get? key = (c.get? key).map User.withoutHash :=
  lookup_map_value User.withoutHash c.entries key

/-- Forgetting a key commutes with taking the hashes out of the cache. -/
theorem Local.erase_withoutHashes (c : Local User) (key : Text) : c.withoutHashes.erase key = (c.erase key).withoutHashes := by
  simp only [erase, withoutHashes, List.filter_map]
  rfl

/-- Keeping a user commutes with taking the hashes out of the cache. -/
theorem Local.set_withoutHashes (c : Local User) (key : Text) (u : User) :
    c.withoutHashes.set key u.withoutHash = (c.set key u).withoutHashes := by
  unfold set
  rw [erase_withoutHashes]
  rfl

/-- What content of a server stands for: a user without the password hash if it is read as one, and itself if not. -/
def Content.withoutHash (codec : Codec User) : Content → Content ⊕ User
  | .text t => match codec.decode t with
    | .ok u => .inr u.withoutHash
    | .error _ => .inl (.text t)
  | .list items => .inl (.list items)

/-- The entries of a server without password hashes. -/
def Server.withoutHashes (codec : Codec User) (s : Server) : List (Text × (Content ⊕ User) × Option Span) :=
  s.entries.map fun e => (e.1, e.2.content.withoutHash codec, e.2.left)

/-- What a server without hashes holds under a key is what it holds, without the hash, and for the same time. -/
theorem Server.lookup_withoutHashes (codec : Codec User) (s : Server) (key : Text) :
    (s.withoutHashes codec).lookup key = (s.entries.lookup key).map fun e => (e.content.withoutHash codec, e.left) :=
  lookup_map_value (fun e : Entry => (e.content.withoutHash codec, e.left)) s.entries key

/-- Erasing a key from a server erases it from the entries without hashes. -/
theorem Server.erase_withoutHashes (codec : Codec User) (s : Server) (key : Text) :
    (s.erase key).withoutHashes codec = (s.withoutHashes codec).filter fun e => e.1 != key := by
  simp only [erase, withoutHashes, List.filter_map]
  rfl

/-- Two servers that work or fail alike and differ at most in the password hashes of the users they keep. -/
structure Server.SameButHashes (codec : Codec User) (s s' : Server) : Prop where
  entries : s.withoutHashes codec = s'.withoutHashes codec
  fault : s.fault = s'.fault

/-- Two texts that stand for the same but for a password hash. -/
def SameText (codec : Codec User) (t t' : Text) : Prop :=
  Content.withoutHash codec (.text t) = Content.withoutHash codec (.text t')

/-- A text that reads as a user stands for that user without the hash. -/
theorem Content.withoutHash_of_ok {codec : Codec User} {t : Text} {u : User} (h : codec.decode t = .ok u) :
    Content.withoutHash codec (.text t) = .inr u.withoutHash := by
  simp only [withoutHash, h]

/-- A text that reads as no user stands for itself. -/
theorem Content.withoutHash_of_error {codec : Codec User} {t : Text} {e : Json.DecodeError} (h : codec.decode t = .error e) :
    Content.withoutHash codec (.text t) = .inl (.text t) := by
  simp only [withoutHash, h]

/-- A text is never taken for a list. -/
theorem Content.withoutHash_text_ne_list (codec : Codec User) (t : Text) (items : List Text) :
    Content.withoutHash codec (.text t) ≠ .inl (.list items) := by
  cases h : codec.decode t with
  | ok u => simp [withoutHash_of_ok h]
  | error e => simp [withoutHash_of_error h]

/-- Two texts that say the same but for the hash are read alike, as the same fault or as users who differ in their hashes
at most. -/
theorem SameText.decode {r : Remote User} {t t' : Text} (h : SameText r.codec t t') (key : Text) :
    FaultOr User.SameButHash (r.decode key t) (r.decode key t') := by
  unfold SameText at h
  unfold Remote.decode
  cases ht : r.codec.decode t with
  | ok u =>
    rw [Content.withoutHash_of_ok ht] at h
    cases ht' : r.codec.decode t' with
    | ok u' =>
      rw [Content.withoutHash_of_ok ht'] at h
      exact .value (Sum.inr.inj h)
    | error e' =>
      rw [Content.withoutHash_of_error ht'] at h
      cases h
  | error e =>
    rw [Content.withoutHash_of_error ht] at h
    cases ht' : r.codec.decode t' with
    | ok u' =>
      rw [Content.withoutHash_of_ok ht'] at h
      cases h
    | error e' =>
      rw [Content.withoutHash_of_error ht'] at h
      obtain rfl : t = t' := Content.text.inj (Sum.inl.inj h)
      obtain rfl : e = e' := Except.error.inj (ht.symm.trans ht')
      exact .fault _

namespace Server.SameButHashes

variable {codec : Codec User} {s s' : Server}

/-- Under a key the two have nothing, or entries that stand for the same and have the same time left. -/
theorem lookup (h : s.SameButHashes codec s') (key : Text) :
    (s.entries.lookup key).map (fun e => (e.content.withoutHash codec, e.left)) =
      (s'.entries.lookup key).map fun e => (e.content.withoutHash codec, e.left) := by
  rw [← lookup_withoutHashes, ← lookup_withoutHashes, h.entries]

/-- The texts under a key say the same but for the hash, or both servers fail alike. -/
theorem text? (h : s.SameButHashes codec s') (key : Text) :
    FaultOr (Option.Rel (SameText codec)) (s.text? key) (s'.text? key) := by
  have hlookup := h.lookup key
  unfold Server.text?
  generalize s.entries.lookup key = o at hlookup
  generalize s'.entries.lookup key = o' at hlookup
  cases rel_of_map hlookup with
  | none => exact .value .none
  | @some e e' he =>
    obtain ⟨content, left⟩ := e
    obtain ⟨content', left'⟩ := e'
    have hcontent : content.withoutHash codec = content'.withoutHash codec := (Prod.mk.inj he).1
    cases content with
    | text t =>
      cases content' with
      | text t' => exact .value (.some hcontent)
      | list items => exact absurd hcontent (Content.withoutHash_text_ne_list codec t items)
    | list items =>
      cases content' with
      | text t' => exact absurd hcontent.symm (Content.withoutHash_text_ne_list codec t' items)
      | list items' => exact .fault _

/-- A look-up on two servers that differ in hashes gets texts that say the same but for the hash. -/
theorem get (h : s.SameButHashes codec s') (key : Text) :
    FaultOr (Option.Rel (SameText codec)) (s.get key) (s'.get key) := by
  unfold Server.get
  rw [← h.fault]
  cases s.fault with
  | none => exact h.text? key
  | some t => exact .fault _

/-- Erasing a key from both servers leaves them different in hashes at most. -/
theorem erase (h : s.SameButHashes codec s') (key : Text) : (s.erase key).SameButHashes codec (s'.erase key) :=
  ⟨by rw [erase_withoutHashes, erase_withoutHashes, h.entries], h.fault⟩

/-- The same entry put on both servers leaves them different in hashes at most. -/
theorem put (h : s.SameButHashes codec s') (key : Text) (e : Entry) : (s.put key e).SameButHashes codec (s'.put key e) :=
  ⟨congrArg (List.cons _) (h.erase key).entries, h.fault⟩

/-- What is written has the same time left on both. -/
theorem lifetime (h : s.SameButHashes codec s') (key : Text) (ttl : Span) : s.lifetime key ttl = s'.lifetime key ttl := by
  have hleft : (s.entries.lookup key).bind Entry.left = (s'.entries.lookup key).bind Entry.left := by
    have hlookup := h.lookup key
    generalize s.entries.lookup key = o at hlookup
    generalize s'.entries.lookup key = o' at hlookup
    cases rel_of_map hlookup with
    | none => rfl
    | some he => exact (Prod.mk.inj he).2
  rw [Server.lifetime, Server.lifetime, hleft]

/-- A text written on both leaves them different in hashes at most, and the command fails on both or on neither. -/
theorem set (h : s.SameButHashes codec s') (key value : Text) (ttl : Span) :
    (s.set key value ttl).1 = (s'.set key value ttl).1 ∧
      (s.set key value ttl).2.SameButHashes codec (s'.set key value ttl).2 := by
  rw [Server.set, Server.set, ← h.fault, h.lifetime key ttl]
  cases s.fault with
  | some t => exact ⟨rfl, h⟩
  | none => exact ⟨rfl, h.put _ _⟩

end Server.SameButHashes

namespace Remote

variable {r : Remote User} {s s' : Server}

/-- What a client makes of two answers that say the same but for the hash differs in the hash at most. -/
theorem found_paired {x x' : Except Fault (Option Text)} (h : FaultOr (Option.Rel (SameText r.codec)) x x')
    (command key : Text) : FaultOr (Option.Rel User.SameButHash) (r.found command key x) (r.found command key x') := by
  cases h with
  | fault f => exact .fault _
  | value h =>
    cases h with
    | none => exact .value .none
    | some h => exact (h.decode key).map fun _ _ => Option.Rel.some

/-- A look-up through a client finds users who differ in their hashes at most, or fails alike. -/
theorem get_paired (h : s.SameButHashes r.codec s') (key : Text) (patience : Except Fault Unit) :
    FaultOr (Option.Rel User.SameButHash) (r.get s key patience) (r.get s' key patience) := by
  cases patience with
  | error f => exact .fault _
  | ok _ => exact found_paired (h.get _) "get" key

/-- Writing a user through a client succeeds alike and leaves servers that differ in hashes at most. -/
theorem set_paired (h : s.SameButHashes r.codec s') (key : Text) (u : User) (patience : Except Fault Unit) :
    (r.set s key u patience).1 = (r.set s' key u patience).1 ∧
      (r.set s key u patience).2.SameButHashes r.codec (r.set s' key u patience).2 := by
  unfold set
  cases r.codec.encode u with
  | error t => exact ⟨rfl, h⟩
  | ok t =>
    cases patience with
    | error f => exact ⟨rfl, h⟩
    | ok _ =>
      simp only [Server.send]
      obtain ⟨hresult, hserver⟩ := h.set (r.fullKey key) t r.ttl
      generalize s.set (r.fullKey key) t r.ttl = x at hresult hserver
      generalize s'.set (r.fullKey key) t r.ttl = x' at hresult hserver
      obtain ⟨result, server⟩ := x
      obtain ⟨result', server'⟩ := x'
      obtain rfl : result = result' := hresult
      cases result with
      | error f => exact ⟨rfl, hserver⟩
      | ok _ => exact ⟨rfl, hserver⟩

/-- Removing a key through a client gives users who differ in their hashes at most, and leaves such servers. -/
theorem remove_paired (h : s.SameButHashes r.codec s') (key : Text) (patience : Except Fault Unit) :
    FaultOr (Option.Rel User.SameButHash) (r.remove s key patience).1 (r.remove s' key patience).1 ∧
      (r.remove s key patience).2.SameButHashes r.codec (r.remove s' key patience).2 := by
  cases patience with
  | error f => exact ⟨.fault _, h⟩
  | ok _ =>
    simp only [remove, Server.send, Server.getDel]
    have hget := h.get (r.fullKey key)
    generalize s.get (r.fullKey key) = x at hget
    generalize s'.get (r.fullKey key) = x' at hget
    cases hget with
    | fault f => exact ⟨.fault _, h⟩
    | value ht => exact ⟨found_paired (.value ht) "getdel" key, h.erase _⟩

end Remote

end Cache

/-! ## Worlds -/

/-- Two stores that differ in password hashes at most. -/
def Storage.SameButHashes : Storage → Storage → Prop
  | .memory m, .memory m' => m.withoutHashes = m'.withoutHashes
  | .database db, .database db' => db.withoutHashes = db'.withoutHashes
  | _, _ => False

/-- Stores that differ in hashes are of the same kind. -/
theorem Storage.SameButHashes.cases {s s' : Storage} (h : s.SameButHashes s') :
    (∃ m m', s = .memory m ∧ s' = .memory m' ∧ m.withoutHashes = m'.withoutHashes) ∨
      ∃ db db', s = .database db ∧ s' = .database db' ∧ db.withoutHashes = db'.withoutHashes := by
  cases s with
  | memory m =>
    cases s' with
    | memory m' => exact .inl ⟨m, m', rfl, rfl, h⟩
    | database db' => exact h.elim
  | database db =>
    cases s' with
    | memory m' => exact h.elim
    | database db' => exact .inr ⟨db, db', rfl, rfl, h⟩

/-- Two caches that differ in password hashes at most. -/
def Caching.SameButHashes : Caching → Caching → Prop
  | .absent, .absent => True
  | .inProcess c, .inProcess c' => c.withoutHashes = c'.withoutHashes
  | .onServer r s, .onServer r' s' => r = r' ∧ s.SameButHashes r.codec s'
  | _, _ => False

/-- Caches that differ in hashes are of the same kind, and clients are equal. -/
theorem Caching.SameButHashes.cases {k k' : Caching} (h : k.SameButHashes k') :
    (k = .absent ∧ k' = .absent) ∨
      (∃ c c', k = .inProcess c ∧ k' = .inProcess c' ∧ c.withoutHashes = c'.withoutHashes) ∨
      ∃ r s s', k = .onServer r s ∧ k' = .onServer r s' ∧ s.SameButHashes r.codec s' := by
  cases k with
  | absent =>
    cases k' with
    | absent => exact .inl ⟨rfl, rfl⟩
    | inProcess c' => exact h.elim
    | onServer r' s' => exact h.elim
  | inProcess c =>
    cases k' with
    | absent => exact h.elim
    | inProcess c' => exact .inr (.inl ⟨c, c', rfl, rfl, h⟩)
    | onServer r' s' => exact h.elim
  | onServer r s =>
    cases k' with
    | absent => exact h.elim
    | inProcess c' => exact h.elim
    | onServer r' s' =>
      obtain ⟨rfl, hs⟩ := h
      exact .inr (.inr ⟨r, s, s', rfl, rfl, hs⟩)

/-- Answers to a call that differ in password hashes at most. -/
def Call.SameAnswers : (c : Call) → c.Answer → c.Answer → Prop
  | .findById _ | .findByEmail _ | .cacheGet _ | .cacheRemove _ => FaultOr (Option.Rel User.SameButHash)
  | .save _ => FaultOr User.SameButHash
  | .findAll => FaultOr Users.SameButHashes
  | _ => Eq

/-- Calls that make a pair when two worlds differ in password hashes at most: the same call on both sides, or saving users who
differ in password hashes at most. -/
inductive Call.Paired : (c c' : Call) → (c.Answer → c'.Answer → Prop) → Prop where
  | same (c : Call) : Paired c c c.SameAnswers
  | save {u v : User} : u.SameButHash v → Paired (.save u) (.save v) (FaultOr User.SameButHash)

/-- A call that goes neither to the store nor to the cache is its own partner, with equal answers. -/
theorem Call.Plain.paired {c : Call} (h : c.Plain) : Call.Paired c c Eq := by
  obtain ⟨hstore, hcache⟩ := h
  cases c <;> first | exact .same _ | (cases hcache; done) | cases hstore

namespace World

/-- Two worlds that differ in the password hashes of stored and cached users at most. -/
def SameButHashes (w w' : World) : Prop :=
  ∃ storage caching, w' = { w with storage, caching } ∧
    w.storage.SameButHashes storage ∧ w.caching.SameButHashes caching

/-- Two runs that end with values that `Q` relates, in worlds that differ in password hashes at most. -/
def Agree {α β : Type} (Q : α → β → Prop) (x : α × World) (y : β × World) : Prop := Q x.1 y.1 ∧ x.2.SameButHashes y.2

variable {w w' : World}

/-- Worlds that differ in hashes agree in all else. -/
theorem SameButHashes.body (h : w.SameButHashes w') : w.body = w'.body := by
  obtain ⟨_, _, rfl, -⟩ := h
  rfl

/-- The caller waits in both, or has given up in both. -/
theorem SameButHashes.patience (h : w.SameButHashes w') : w'.patience = w.patience := by
  obtain ⟨_, _, rfl, -⟩ := h
  rfl

/-- A store that has not been made to fail answers from memory in both worlds, or from tables in both. -/
theorem onStore_paired (h : w.SameButHashes w') (p : Point) {α β : Type} {Q : Except Fault α → Except Fault β → Prop}
    (hfault : ∀ f, Q (.error f) (.error f)) {run : Storage → Except Fault α × World} {run' : Storage → Except Fault β × World}
    (hmemory : ∀ m m' : Store.Memory, m.withoutHashes = m'.withoutHashes → Agree Q (run (.memory m)) (run' (.memory m')))
    (hdatabase : ∀ db db' : Sql.Database, db.withoutHashes = db'.withoutHashes →
      Agree Q (run (.database db)) (run' (.database db'))) :
    Agree Q (w.onStore p run) (w'.onStore p run') := by
  obtain ⟨storage, caching, rfl, hs, -⟩ := id h
  have hf : failure? { w with storage, caching } p = w.failure? p := rfl
  simp only [onStore, hf]
  cases w.failure? p with
  | some t => exact ⟨hfault _, h⟩
  | none =>
    dsimp only
    obtain ⟨m, m', hm, rfl, hsame⟩ | ⟨db, db', hd, rfl, hsame⟩ := hs.cases
    · rw [hm]
      exact hmemory m m' hsame
    · rw [hd]
      exact hdatabase db db' hsame

/-- A cache that has not been made to fail answers in both worlds from the same kind of cache. -/
theorem onCache_paired (h : w.SameButHashes w') (p : Point) {α β : Type} {Q : Except Fault α → Except Fault β → Prop}
    (hfault : ∀ f, Q (.error f) (.error f)) {run : Caching → Except Fault α × Caching}
    {run' : Caching → Except Fault β × Caching}
    (hrun : ∀ k k' : Caching, k.SameButHashes k' → Q (run k).1 (run' k').1 ∧ (run k).2.SameButHashes (run' k').2) :
    Agree Q (w.onCache p run) (w'.onCache p run') := by
  obtain ⟨storage, caching, rfl, hs, hk⟩ := id h
  have hf : failure? { w with storage, caching } p = w.failure? p := rfl
  simp only [onCache, hf]
  cases w.failure? p with
  | some t => exact ⟨hfault _, h⟩
  | none =>
    obtain ⟨hresult, hcache⟩ := hrun w.caching caching hk
    exact ⟨hresult, storage, _, rfl, hs, hcache⟩

/-- Databases that differ in hashes take statements, or refuse them, alike. -/
theorem accepts_congr (h : w.SameButHashes w') {db db' : Sql.Database} (hdb : db.withoutHashes = db'.withoutHashes) :
    w'.accepts db' = w.accepts db := by
  have hclosed : db'.closed = db.closed := (congrArg Sql.Database.closed hdb).symm
  obtain ⟨_, _, rfl, -⟩ := h
  unfold accepts
  rw [hclosed]
  rfl

/-- Tables that differ in password hashes at most, with the same log. -/
def SameTables (st st' : Sql.Database × List Log.Entry) : Prop := st.1.withoutHashes = st'.1.withoutHashes ∧ st.2 = st'.2

/-- A pair of calls to the driver is answered as its relation says, and the tables still differ in password hashes at most. -/
theorem driverAnswer_paired (h : w.SameButHashes w') {c c' : Sql.Call} {A : c.Answer → c'.Answer → Prop}
    (hc : Sql.Call.Paired c c' A) {st st' : Sql.Database × List Log.Entry} (hst : SameTables st st') :
    A (w.driverAnswer c st).1 (w'.driverAnswer c' st').1 ∧ SameTables (w.driverAnswer c st).2 (w'.driverAnswer c' st').2 := by
  obtain ⟨db, log⟩ := st
  obtain ⟨db', log'⟩ := st'
  obtain ⟨hdb, rfl⟩ : db.withoutHashes = db'.withoutHashes ∧ log = log' := hst
  have haccepts := accepts_congr h hdb
  cases hc with
  | users hq =>
    refine ⟨?_, hdb, rfl⟩
    simp only [driverAnswer, haccepts]
    cases w.accepts db with
    | error f => exact .fault f
    | ok _ => exact Sql.Database.query_congr hdb hq
  | createdAt id =>
    refine ⟨?_, hdb, rfl⟩
    simp only [driverAnswer, haccepts]
    rw [Sql.Database.query_createdAt_congr hdb]
  | upsertUser now huv =>
    obtain ⟨hcount, hrows⟩ := Sql.Database.exec_upsert_congr hdb huv now
    simp only [driverAnswer, haccepts]
    cases w.accepts db with
    | error f => exact ⟨rfl, hdb, rfl⟩
    | ok _ => exact ⟨congrArg (Except.map Except.ok) hcount, hrows, rfl⟩
  | deleteUser id =>
    obtain ⟨hcount, hrows⟩ := Sql.Database.exec_delete_congr hdb id
    simp only [driverAnswer, haccepts]
    cases w.accepts db with
    | error f => exact ⟨rfl, hdb, rfl⟩
    | ok _ => exact ⟨congrArg (Except.map Except.ok) hcount, hrows, rfl⟩
  | now =>
    obtain ⟨_, _, rfl, -⟩ := h
    exact ⟨rfl, hdb, rfl⟩

/-- Two scripts that go side by side agree when they are run in worlds that differ in hashes. -/
theorem script_paired (h : w.SameButHashes w') {α β : Type} {Q : Except Fault α → Except Fault β → Prop} {s : Sql.Script α}
    {s' : Sql.Script β} (hs : Parallel Sql.Call.Paired Q s.run s'.run) {db db' : Sql.Database}
    (hdb : db.withoutHashes = db'.withoutHashes) :
    Agree Q (w.script db s) (w'.script db' s') := by
  have hentries : w.entries = w'.entries := by
    obtain ⟨_, _, rfl, -⟩ := h
    rfl
  have hstart : SameTables (db, w.entries) (db', w'.entries) := ⟨hdb, hentries⟩
  obtain ⟨hresult, htables, hlog⟩ := hs.run (driverAnswer_paired h) hstart
  refine ⟨hresult, ?_⟩
  obtain ⟨storage, caching, rfl, -, hk⟩ := h
  refine ⟨.database _, caching, ?_, htables, hk⟩
  simp only [script]
  rw [hlog]

/-! ### Calls -/

/-- A look-up by id agrees in worlds that differ in hashes. -/
theorem findById_paired (h : w.SameButHashes w') (id : UInt64) :
    Agree (FaultOr (Option.Rel User.SameButHash)) (answer (.findById id) w) (answer (.findById id) w') := by
  refine onStore_paired h .findById FaultOr.fault (fun m m' hm => ⟨.value (rel_of_map ?_), h⟩) fun db db' hdb => ?_
  · rw [← Store.Memory.find?_withoutHashes, ← Store.Memory.find?_withoutHashes, hm]
  · exact script_paired h (Sql.findById_paired id) hdb

/-- A look-up by email agrees in worlds that differ in hashes. -/
theorem findByEmail_paired (h : w.SameButHashes w') (email : Text) :
    Agree (FaultOr (Option.Rel User.SameButHash)) (answer (.findByEmail email) w) (answer (.findByEmail email) w') := by
  refine onStore_paired h .findByEmail FaultOr.fault (fun m m' hm => ⟨.value (rel_of_map ?_), h⟩) fun db db' hdb => ?_
  · rw [← Store.Memory.findEmail?_withoutHashes, ← Store.Memory.findEmail?_withoutHashes, hm]
  · exact script_paired h (Sql.findByEmail_paired email) hdb

/-- A listing agrees in worlds that differ in hashes. -/
theorem findAll_paired (h : w.SameButHashes w') :
    Agree (FaultOr Users.SameButHashes) (answer .findAll w) (answer .findAll w') :=
  onStore_paired h .findAll FaultOr.fault (fun _ _ hm => ⟨.value (congrArg Store.Memory.users hm), h⟩) fun _ _ hdb =>
    script_paired h Sql.findAll_paired hdb

/-- Saving users who differ in their hashes agrees in worlds that differ in hashes. -/
theorem save_paired (h : w.SameButHashes w') {u v : User} (huv : u.SameButHash v) :
    Agree (FaultOr User.SameButHash) (answer (.save u) w) (answer (.save v) w') := by
  refine onStore_paired h .save FaultOr.fault (fun m m' hm => ?_) fun db db' hdb => ?_
  · obtain ⟨_, caching, rfl, -, hk⟩ := h
    obtain ⟨huser, hstore⟩ := Store.Memory.save_congr hm huv w.now
    exact ⟨.value huser, _, caching, rfl, hstore, hk⟩
  · exact script_paired h (Sql.save_paired huv) hdb

/-- Deleting agrees in worlds that differ in hashes, to the same result. -/
theorem delete_paired (h : w.SameButHashes w') (id : UInt64) :
    Agree Eq (answer (.delete id) w) (answer (.delete id) w') := by
  refine onStore_paired h .delete (fun _ => rfl) (fun m m' hm => ?_) fun db db' hdb => ?_
  · obtain ⟨_, caching, rfl, -, hk⟩ := h
    obtain ⟨hresult, hstore⟩ := Store.Memory.delete_congr hm id
    exact ⟨hresult, _, caching, rfl, hstore, hk⟩
  · exact script_paired h (Sql.delete_paired id) hdb

/-- A look-up in the cache agrees in worlds that differ in hashes. -/
theorem cacheGet_paired (h : w.SameButHashes w') (key : Text) :
    Agree (FaultOr (Option.Rel User.SameButHash)) (answer (.cacheGet key) w) (answer (.cacheGet key) w') := by
  refine onCache_paired h .cacheGet FaultOr.fault fun k k' hk => ?_
  obtain ⟨rfl, rfl⟩ | ⟨c, c', rfl, rfl, hc⟩ | ⟨r, s, s', rfl, rfl, hs⟩ := hk.cases
  · exact ⟨.value .none, trivial⟩
  · refine ⟨.value (rel_of_map ?_), hc⟩
    rw [← Cache.Local.get?_withoutHashes, ← Cache.Local.get?_withoutHashes, hc]
  · refine ⟨?_, rfl, hs⟩
    show FaultOr _ (r.get s key w.patience) (r.get s' key w'.patience)
    rw [h.patience]
    exact Cache.Remote.get_paired hs key _

/-- Writing the same user to the cache agrees in worlds that differ in hashes, to the same result. -/
theorem cacheSet_paired (h : w.SameButHashes w') (key : Text) (u : User) :
    Agree Eq (answer (.cacheSet key u) w) (answer (.cacheSet key u) w') := by
  refine onCache_paired h .cacheSet (fun _ => rfl) fun k k' hk => ?_
  obtain ⟨rfl, rfl⟩ | ⟨c, c', rfl, rfl, hc⟩ | ⟨r, s, s', rfl, rfl, hs⟩ := hk.cases
  · exact ⟨rfl, trivial⟩
  · refine ⟨rfl, ?_⟩
    show (c.set key u).withoutHashes = (c'.set key u).withoutHashes
    rw [← Cache.Local.set_withoutHashes, ← Cache.Local.set_withoutHashes, hc]
  · obtain ⟨hresult, hserver⟩ := Cache.Remote.set_paired hs key u w.patience
    dsimp only
    rw [h.patience]
    exact ⟨hresult, rfl, hserver⟩

/-- Removing a key from the cache agrees in worlds that differ in hashes. -/
theorem cacheRemove_paired (h : w.SameButHashes w') (key : Text) :
    Agree (FaultOr (Option.Rel User.SameButHash)) (answer (.cacheRemove key) w) (answer (.cacheRemove key) w') := by
  refine onCache_paired h .cacheRemove FaultOr.fault fun k k' hk => ?_
  obtain ⟨rfl, rfl⟩ | ⟨c, c', rfl, rfl, hc⟩ | ⟨r, s, s', rfl, rfl, hs⟩ := hk.cases
  · exact ⟨.value .none, trivial⟩
  · refine ⟨.value (rel_of_map ?_), ?_⟩
    · show (c.get? key).map User.withoutHash = (c'.get? key).map User.withoutHash
      rw [← Cache.Local.get?_withoutHashes, ← Cache.Local.get?_withoutHashes, hc]
    · show (c.erase key).withoutHashes = (c'.erase key).withoutHashes
      rw [← Cache.Local.erase_withoutHashes, ← Cache.Local.erase_withoutHashes, hc]
  · obtain ⟨hresult, hserver⟩ := Cache.Remote.remove_paired hs key w.patience
    dsimp only
    rw [h.patience]
    exact ⟨hresult, rfl, hserver⟩

/-- A call that goes neither to the store nor to the cache sees neither. -/
theorem answer_plain {c : Call} (hc : c.Plain) (w : World) (storage : Storage) (caching : Caching) :
    answer c { w with storage, caching } = ((answer c w).1, { (answer c w).2 with storage, caching }) := by
  obtain ⟨hstore, hcache⟩ := hc
  obtain ⟨clock, _, _, limiter, failing, canceled, deadline, entries, salts, freshId, writesLeft, pieces⟩ := w
  cases c with
  | wait d =>
    simp only [answer, wait, patience]
    cases canceled with
    | true => rfl
    | false =>
      cases deadline with
      | none => rfl
      | some t =>
        by_cases hover : t ≤ clock
        · simp only [Bool.false_eq_true, if_false, if_pos hover]
        · by_cases hlate : t < clock + max d 0
          · simp only [Bool.false_eq_true, if_false, if_neg hover, if_pos hlate, advance]
          · simp only [Bool.false_eq_true, if_false, if_neg hover, if_neg hlate, advance]
  | mayTry client => cases limiter <;> rfl
  | write piece => rcases writesLeft with _ | _ | n <;> rfl
  | _ => first | rfl | (cases hcache; done) | cases hstore

/-- A call that goes neither to the store nor to the cache gets the same answer in worlds that differ in hashes. -/
theorem plain_paired (h : w.SameButHashes w') {c : Call} (hc : c.Plain) :
    Agree Eq (answer c w) (answer c w') := by
  obtain ⟨storage, caching, rfl, hs, hk⟩ := h
  rw [answer_plain hc w storage caching]
  refine ⟨rfl, storage, caching, rfl, ?_, ?_⟩
  · rw [answer_storage hc.reads]
    exact hs
  · rw [answer_caching hc.2]
    exact hk

/-- A pair of calls is answered as its relation says, and the worlds still differ in password hashes at most. -/
theorem answer_paired {c c' : Call} {A : c.Answer → c'.Answer → Prop} (hc : Call.Paired c c' A) (h : w.SameButHashes w') :
    Agree A (answer c w) (answer c' w') := by
  cases hc with
  | save huv => exact save_paired h huv
  | same =>
    cases c with
    | findById id => exact findById_paired h id
    | findByEmail email => exact findByEmail_paired h email
    | save u => exact save_paired h rfl
    | delete id => exact delete_paired h id
    | findAll => exact findAll_paired h
    | cacheGet key => exact cacheGet_paired h key
    | cacheSet key u => exact cacheSet_paired h key u
    | cacheRemove key => exact cacheRemove_paired h key
    | _ => exact plain_paired h ⟨rfl, rfl⟩

/-- Computations that go side by side end alike in worlds that differ in password hashes at most, and leave such worlds. -/
theorem run_paired {α β : Type} {Q : α → β → Prop} {p : Act α} {q : Act β} (hp : Parallel Call.Paired Q p q)
    (h : w.SameButHashes w') : Agree Q (w.run p) (w'.run q) := by
  have hstep : ∀ {c c' : Call} {A : c.Answer → c'.Answer → Prop}, Call.Paired c c' A → ∀ {w w' : World}, w.SameButHashes w' →
      A (answer c w).1 (answer c' w').1 ∧ (answer c w).2.SameButHashes (answer c' w').2 :=
    fun hc _ _ hw => answer_paired hc hw
  exact hp.run hstep h

end World
end Roster
