import Roster.Proofs.Worlds
import Mathlib.Data.List.Nodup
import Mathlib.Logic.Function.Basic

/-!
# The contract of a store

What a store holds is a register: a record for some of the ids. Users in memory are listed in any order, users in a table
by id, with the times in columns of their own; both can hold the same register. Here, for every call of a store that has not
been made to fail, what it answers and which register it leaves behind. The statements do not depend on where the users are
kept, so two stores that hold the same register cannot be told apart by calls.
-/

namespace Roster

/-! ## Registers -/

/-- The record that is kept under each id, where there is one. -/
abbrev Register := UInt64 → Option User

namespace Register

/-- A user as it is kept when it is stored at a moment: changed then, and created then too unless it replaces a record. -/
def stamped (f : Register) (now : Timestamp) (u : User) : User :=
  { u with createdAt := ((f u.id).map User.createdAt).getD now, updatedAt := now }

/-- The register after a user has been stored. -/
def put (f : Register) (u : User) : Register := Function.update f u.id (some u)

/-- The register after the record of an id has been removed. -/
def drop (f : Register) (id : UInt64) : Register := Function.update f id none

theorem put_self (f : Register) (u : User) : f.put u u.id = some u := Function.update_self ..

theorem put_of_ne (f : Register) {u : User} {id : UInt64} (h : id ≠ u.id) : f.put u id = f id := Function.update_of_ne h ..

theorem drop_self (f : Register) (id : UInt64) : f.drop id id = none := Function.update_self ..

/-- The choice of the record with the least id among those that pass a test. -/
def Picks (f : Register) (p : User → Bool) : Option User → Prop
  | none => ∀ u, f u.id = some u → p u = false
  | some u => f u.id = some u ∧ p u = true ∧ ∀ v, f v.id = some v → p v = true → u.id ≤ v.id

/-- At most one choice is the right one. -/
theorem Picks.unique {f : Register} {p : User → Bool} {r r' : Option User} (h : f.Picks p r) (h' : f.Picks p r') :
    r = r' := by
  cases r with
  | none =>
    cases r' with
    | none => rfl
    | some v => exact absurd h'.2.1 (by simp [h v h'.1])
  | some u =>
    cases r' with
    | none => exact absurd h.2.1 (by simp [h' u h.1])
    | some v =>
      obtain ⟨hu, hpu, hleast⟩ := h
      obtain ⟨hv, hpv, hleast'⟩ := h'
      have hid : u.id = v.id := UInt64.le_antisymm (hleast v hv hpv) (hleast' u hu hpu)
      rw [← hu, hid, hv]

/-- Tests that agree on the records of a register pick the same one. -/
theorem Picks.congr {f : Register} {p q : User → Bool} {r : Option User} (h : f.Picks p r)
    (hpq : ∀ u, f u.id = some u → p u = q u) : f.Picks q r := by
  cases r with
  | none => exact fun u hu => hpq u hu ▸ h u hu
  | some u => exact ⟨h.1, hpq u h.1 ▸ h.2.1, fun v hv hv' => h.2.2 v hv (hpq v hv ▸ hv')⟩

/-- Every record of a register satisfies a property. -/
def All (f : Register) (p : User → Prop) : Prop := ∀ id u, f id = some u → p u

/-- Putting a user of a kind keeps all users of that kind. -/
theorem All.put {f : Register} {p : User → Prop} (h : f.All p) {u : User} (hu : p u) : (f.put u).All p := by
  intro id v hv
  rw [Register.put, Function.update_apply] at hv
  split at hv
  · rwa [← Option.some.inj hv]
  · exact h id v hv

/-- Dropping a user keeps all users of a kind. -/
theorem All.drop {f : Register} {p : User → Prop} (h : f.All p) (id : UInt64) : (f.drop id).All p := by
  intro i v hv
  rw [Register.drop, Function.update_apply] at hv
  split at hv
  · cases hv
  · exact h i v hv

end Register

/-- A list of users has exactly the records of a register, each once. -/
structure Lists (us : List User) (f : Register) : Prop where
  nodup : (us.map User.id).Nodup
  mem : ∀ id u, f id = some u ↔ u ∈ us ∧ u.id = id

namespace Lists

variable {us vs : List User} {f : Register}

theorem nil : Lists [] fun _ => none := ⟨List.nodup_nil, by simp⟩

/-- A user is listed exactly if it is the record of its id. -/
theorem mem_iff (h : Lists us f) (u : User) : u ∈ us ↔ f u.id = some u := by simp [h.mem]

/-- A record is kept under its own id. -/
theorem id_eq (h : Lists us f) {id : UInt64} {u : User} (hu : f id = some u) : u.id = id := ((h.mem id u).mp hu).2

/-- An id that nobody in the list has is not on record. -/
theorem eq_none (h : Lists us f) {id : UInt64} (hid : ∀ u ∈ us, u.id ≠ id) : f id = none := by
  rw [Option.eq_none_iff_forall_ne_some]
  intro u hu
  exact hid u ((h.mem id u).mp hu).1 ((h.mem id u).mp hu).2

/-- A list of the records of a register is empty if the register is. -/
theorem isEmpty_iff (h : Lists us f) : us.isEmpty = true ↔ ∀ id, f id = none := by
  rw [List.isEmpty_iff]
  constructor
  · rintro rfl id
    exact h.eq_none nofun
  · intro hnone
    rw [List.eq_nil_iff_forall_not_mem]
    intro u hu
    have hsome := (h.mem_iff u).mp hu
    rw [hnone] at hsome
    cases hsome

/-- Users with different ids make a register. -/
theorem of_nodup (h : (us.map User.id).Nodup) : Lists us fun id => us.find? fun u => u.id == id := by
  refine ⟨h, fun id u => ⟨fun hu => ⟨List.mem_of_find?_eq_some hu, by simpa using List.find?_some hu⟩, ?_⟩⟩
  rintro ⟨hu, rfl⟩
  have hfound : (us.find? fun v => v.id == u.id).isSome = true := List.find?_isSome.mpr ⟨u, hu, beq_self_eq_true u.id⟩
  obtain ⟨v, hv⟩ := Option.isSome_iff_exists.mp hfound
  have hid : v.id = u.id := by simpa using List.find?_some hv
  rw [hv, List.inj_on_of_nodup_map h (List.mem_of_find?_eq_some hv) hu hid]

/-- Lists of the same records differ in their order only. -/
theorem perm (h : Lists us f) (h' : Lists vs f) : us.Perm vs := by
  rw [List.perm_ext_iff_of_nodup h.nodup.of_map h'.nodup.of_map]
  intro u
  rw [h.mem_iff, h'.mem_iff]

/-- Looking an id up in the list finds its record. -/
theorem find? (h : Lists us f) (id : UInt64) : (us.find? fun u => u.id == id) = f id := by
  cases hf : us.find? fun u => u.id == id with
  | none =>
    refine (h.eq_none fun u hu => ?_).symm
    simpa using List.find?_eq_none.mp hf u hu
  | some u =>
    have hid : u.id = id := by simpa using List.find?_some hf
    exact ((h.mem id u).mpr ⟨List.mem_of_find?_eq_some hf, hid⟩).symm

/-- Leaving a user out of the list drops its record. -/
theorem drop (h : Lists us f) (id : UInt64) : Lists (us.filter fun v => v.id != id) (f.drop id) := by
  refine ⟨(List.filter_sublist.map User.id).nodup h.nodup, fun i u => ?_⟩
  rw [List.mem_filter, Register.drop, Function.update_apply]
  by_cases hi : i = id
  · subst hi
    simp only [if_true]
    constructor
    · exact nofun
    · rintro ⟨⟨_, hne⟩, heq⟩
      simp [heq] at hne
  · rw [if_neg hi, h.mem]
    constructor
    · rintro ⟨hu, rfl⟩
      exact ⟨⟨hu, by simpa using hi⟩, rfl⟩
    · rintro ⟨⟨hu, _⟩, rfl⟩
      exact ⟨hu, rfl⟩

/-- A list that has a user in place of any with its id. -/
theorem put (h : Lists us f) {u : User} (hn : (vs.map User.id).Nodup)
    (hm : ∀ v, v ∈ vs ↔ v = u ∨ v ∈ us ∧ v.id ≠ u.id) : Lists vs (f.put u) := by
  refine ⟨hn, fun i v => ?_⟩
  rw [hm, Register.put, Function.update_apply]
  by_cases hi : i = u.id
  · subst hi
    simp only [if_true, Option.some.injEq]
    constructor
    · rintro rfl
      exact ⟨.inl rfl, rfl⟩
    · rintro ⟨rfl | ⟨_, hne⟩, heq⟩
      · rfl
      · exact absurd heq hne
  · rw [if_neg hi, h.mem]
    constructor
    · rintro ⟨hv, rfl⟩
      exact ⟨.inr ⟨hv, hi⟩, rfl⟩
    · rintro ⟨rfl | ⟨hv, _⟩, heq⟩
      · exact absurd heq.symm hi
      · exact ⟨hv, heq⟩

/-- The first match in a list that is ordered by id is the one to pick. -/
theorem picks_find? (h : Lists us f) (ho : us.Pairwise fun u v => u.id < v.id) (p : User → Bool) :
    f.Picks p (us.find? p) := by
  cases hf : us.find? p with
  | none =>
    intro u hu
    simpa using List.find?_eq_none.mp hf u ((h.mem_iff u).mpr hu)
  | some u =>
    obtain ⟨hpu, before, after, rfl, hbefore⟩ := List.find?_eq_some_iff_append.mp hf
    refine ⟨(h.mem_iff u).mp (by simp), hpu, fun v hv hpv => ?_⟩
    rcases List.mem_append.mp ((h.mem_iff v).mpr hv) with hvb | hvr
    · exact absurd hpv (by simpa using hbefore v hvb)
    · rcases List.mem_cons.mp hvr with rfl | hva
      · exact UInt64.le_refl _
      · exact UInt64.le_of_lt (List.rel_of_pairwise_cons (List.pairwise_append.mp ho).2.1 hva)

end Lists

/-! ## Users in memory -/

namespace Store.Memory

/-- The best of the users seen so far is one of them, of least id. -/
def Best (seen : List User) : Option User → Prop
  | none => seen = []
  | some u => u ∈ seen ∧ ∀ v ∈ seen, u.id ≤ v.id

/-- One more user is compared with the best so far. -/
theorem Best.step {seen : List User} {best : Option User} (h : Best seen best) (v : User) :
    Best (seen ++ [v]) (lesser best v) := by
  cases best with
  | none =>
    obtain rfl : seen = [] := h
    exact ⟨by simp, by simp⟩
  | some b =>
    obtain ⟨hb, hleast⟩ := h
    by_cases hlt : v.id < b.id
    · rw [lesser, if_pos hlt]
      refine ⟨by simp, fun x hx => ?_⟩
      rcases List.mem_append.mp hx with hx | hx
      · exact UInt64.le_trans (UInt64.le_of_lt hlt) (hleast x hx)
      · rw [List.mem_singleton.mp hx]
        exact UInt64.le_refl _
    · rw [lesser, if_neg hlt]
      refine ⟨List.mem_append_left _ hb, fun x hx => ?_⟩
      rcases List.mem_append.mp hx with hx | hx
      · exact hleast x hx
      · rw [List.mem_singleton.mp hx]
        exact UInt64.not_lt.mp hlt

/-- The best of a list is found one user after the other. -/
theorem Best.foldl {seen : List User} {best : Option User} (h : Best seen best) (us : List User) :
    Best (seen ++ us) (us.foldl lesser best) := by
  induction us generalizing seen best with
  | nil => simpa using h
  | cons v us ih => simpa using ih (h.step v)

variable {m : Memory} {f : Register}

/-- A look-up by email picks the match of least id, whatever the order of the users. -/
theorem picks_findEmail? (h : Lists m.users f) (email : Text) :
    f.Picks (fun u => Text.equalFold u.email email) (m.findEmail? email) := by
  have hbest : Best ([] ++ m.users.filter fun u => Text.equalFold u.email email) (m.findEmail? email) :=
    Best.foldl (show Best [] none from rfl) _
  rw [List.nil_append] at hbest
  cases hr : m.findEmail? email with
  | none =>
    rw [hr] at hbest
    intro u hu
    simpa using List.filter_eq_nil_iff.mp hbest u ((h.mem_iff u).mpr hu)
  | some u =>
    rw [hr] at hbest
    obtain ⟨hu, hp⟩ := List.mem_filter.mp hbest.1
    exact ⟨(h.mem_iff u).mp hu, hp, fun v hv hpv => hbest.2 v (List.mem_filter.mpr ⟨(h.mem_iff v).mpr hv, hpv⟩)⟩

/-- Saving in memory answers with the user stamped. -/
theorem save_eq_stamped (h : Lists m.users f) (now : Timestamp) (u : User) :
    (m.save now u).1 = f.stamped now u := by
  simp only [save, Register.stamped, Memory.find?, h.find?]

/-- Saving in memory puts the stamped user on record. -/
theorem lists_save (h : Lists m.users f) (now : Timestamp) (u : User) :
    Lists (m.save now u).2.users (f.put (f.stamped now u)) := by
  have hsave : (m.save now u).2.users = f.stamped now u :: m.users.filter fun v => v.id != u.id := by
    rw [← save_eq_stamped h now u]
    rfl
  rw [hsave]
  refine h.put ?_ fun v => ?_
  · rw [List.map_cons, List.nodup_cons]
    refine ⟨?_, (h.drop u.id).nodup⟩
    rw [List.mem_map]
    rintro ⟨v, hv, hid⟩
    have hne := (List.mem_filter.mp hv).2
    simp [hid, Register.stamped] at hne
  · simp [Register.stamped]

end Store.Memory

/-! ## Users in a table -/

namespace Sql

/-- The row of a user with the times that it carries. -/
def Row.stored (u : User) : Row := { Row.ofUser u u.updatedAt with createdAt := .time u.createdAt }

/-- Distinct ids have distinct numbers in a table. -/
theorem rowId_inj {i j : UInt64} : rowId i = rowId j ↔ i = j := by
  rw [rowId, rowId, Int.natCast_inj, UInt64.toNat_inj]

/-- Ids are in a table in their order. -/
theorem rowId_lt {i j : UInt64} : rowId i < rowId j ↔ i < j := by
  rw [rowId, rowId, Int.ofNat_lt, UInt64.lt_iff_toNat_lt]

/-- A row has the number of an id exactly if its user has the id. -/
theorem Row.stored_id_beq (u : User) (id : UInt64) : ((Row.stored u).id == rowId id) = (u.id == id) := by
  rw [Bool.eq_iff_iff, beq_iff_eq, beq_iff_eq]
  exact rowId_inj

/-- A flag is read back from its number. -/
theorem readBool_flag (b : Bool) : readBool (.int (if b then 1 else 0)) = .ok b := by
  cases b <;> rfl

/-- A user is read back from its row as it is. -/
theorem readUser_stored (u : User) : readUser userColumns (Row.stored u).values = .ok u := by
  have hid : readId (.int (rowId u.id)) = .ok u.id := readId_rowId u.id
  have hactive : readBool (.int (if u.active then 1 else 0)) = .ok u.active := readBool_flag u.active
  simp only [readUser, Row.values, Row.stored, Row.ofUser, List.getD_cons_zero, List.getD_cons_succ, hid, hactive]
  rfl

/-- Stored rows are read back as the users they were made of. -/
theorem readRows_stored (us : List User) (unread unfetched : Fault → Fault) (i : Nat) :
    readRows (readUser userColumns) unread unfetched none i ((us.map Row.stored).map Row.values) = .ok us := by
  induction us generalizing i with
  | nil => rfl
  | cons u us ih =>
    simp only [List.map_cons, readRows, brokenAt, readUser_stored, ih]
    rfl

/-- The first of the stored rows is read back as its user. -/
theorem readFirst_stored (us : List User) :
    readFirst readUser { columns := userColumns, rows := (us.map Row.stored).map Row.values } = .ok us.head? := by
  cases us with
  | nil => rfl
  | cons u us =>
    simp only [readFirst, brokenAt, List.map_cons, readUser_stored]
    rfl

/-- Rows are selected by the ids of their users. -/
theorem filter_stored (us : List User) (id : UInt64) :
    ((us.map Row.stored).filter fun r => r.id == rowId id) = (us.filter fun u => u.id == id).map Row.stored := by
  rw [List.filter_map]
  simp only [Function.comp_def, Row.stored_id_beq]

/-- Putting the row of a user among rows puts the user among users. -/
theorem insertRow_stored (u : User) {us : List User} (h : us.Pairwise fun v v' => v.id < v'.id) :
    ∃ vs : List User, insertRow (Row.stored u) (us.map Row.stored) = vs.map Row.stored ∧
      (vs.Pairwise fun v v' => v.id < v'.id) ∧ ∀ v, v ∈ vs ↔ v = u ∨ v ∈ us ∧ v.id ≠ u.id := by
  induction us with
  | nil => exact ⟨[u], rfl, List.pairwise_singleton _ _, by simp⟩
  | cons s us ih =>
    obtain ⟨hs, hus⟩ := List.pairwise_cons.mp h
    rw [List.map_cons, insertRow]
    by_cases hlt : u.id < s.id
    · rw [if_pos (show (Row.stored u).id < (Row.stored s).id from rowId_lt.mpr hlt)]
      have hall : ∀ v ∈ s :: us, u.id < v.id :=
        List.forall_mem_cons.mpr ⟨hlt, fun v hv => UInt64.lt_trans hlt (hs v hv)⟩
      refine ⟨u :: s :: us, rfl, List.pairwise_cons.mpr ⟨hall, h⟩, fun v => ?_⟩
      rw [List.mem_cons]
      exact or_congr_right ⟨fun hv => ⟨hv, (UInt64.ne_of_lt (hall v hv)).symm⟩, And.left⟩
    · rw [if_neg (fun hr : (Row.stored u).id < (Row.stored s).id => hlt (rowId_lt.mp hr))]
      have hbeq : ((Row.stored u).id == (Row.stored s).id) = (u.id == s.id) := Row.stored_id_beq u s.id
      rw [hbeq]
      by_cases heq : u.id = s.id
      · rw [if_pos (beq_iff_eq.mpr heq)]
        refine ⟨u :: us, rfl, List.pairwise_cons.mpr ⟨fun v hv => heq ▸ hs v hv, hus⟩, fun v => ?_⟩
        rw [List.mem_cons, List.mem_cons]
        refine or_congr_right ⟨fun hv => ⟨.inr hv, heq ▸ (UInt64.ne_of_lt (hs v hv)).symm⟩, ?_⟩
        rintro ⟨rfl | hv, hne⟩
        · exact absurd heq.symm hne
        · exact hv
      · rw [if_neg (fun hb => heq (beq_iff_eq.mp hb))]
        obtain ⟨vs, hins, hvs, hmem⟩ := ih hus
        refine ⟨s :: vs, by rw [hins, List.map_cons], List.pairwise_cons.mpr ⟨fun v hv => ?_, hvs⟩, fun v => ?_⟩
        · rcases (hmem v).mp hv with rfl | ⟨hv, _⟩
          · exact UInt64.lt_of_le_of_ne (UInt64.not_lt.mp hlt) (Ne.symm heq)
          · exact hs v hv
        · rw [List.mem_cons, List.mem_cons, hmem]
          constructor
          · rintro (rfl | rfl | ⟨hv, hne⟩)
            · exact .inr ⟨.inl rfl, Ne.symm heq⟩
            · exact .inl rfl
            · exact .inr ⟨.inr hv, hne⟩
          · rintro (rfl | ⟨rfl | hv, hne⟩)
            · exact .inr (.inl rfl)
            · exact .inl rfl
            · exact .inr (.inr ⟨hv, hne⟩)

namespace Database

/-- The table of users is there, open, and has the rows of the given users, by id. -/
structure Tabulates (db : Database) (us : List User) : Prop where
  opened : db.closed = false
  users : db.users = some (us.map Row.stored)
  ordered : us.Pairwise fun u v => u.id < v.id
  bounded : ∀ u ∈ us, u.id ≤ User.maxId

variable {db : Database} {us : List User} {f : Register}

/-- The table has a row for each user. -/
theorem Tabulates.table (h : db.Tabulates us) : db.table = .ok (us.map Row.stored) := by
  rw [Database.table, h.users]

/-- A query by id finds the rows of the users with that id. -/
theorem Tabulates.userById (h : db.Tabulates us) (id : UInt64) : db.query (.userById id) =
    .ok { columns := userColumns, rows := ((us.filter fun u => u.id == id).map Row.stored).map Row.values } := by
  rw [query, h.table, ← filter_stored]
  rfl

/-- A query by email finds the rows of the users with that email, by id. -/
theorem Tabulates.userByEmail (h : db.Tabulates us) (email : Text) : db.query (.userByEmail email) =
    .ok { columns := userColumns
          rows := (((us.filter fun u => Text.equalNoCase u.email email).take 1).map Row.stored).map Row.values } := by
  rw [query, h.table, List.map_take]
  have hf : ((us.map Row.stored).filter fun r => Text.equalNoCase r.email email) =
      (us.filter fun u => Text.equalNoCase u.email email).map Row.stored := List.filter_map
  rw [← hf]
  rfl

/-- A query for the time of creation finds it for the users with that id. -/
theorem Tabulates.createdAt (h : db.Tabulates us) (id : UInt64) : db.query (.createdAt id) =
    .ok { columns := ["created_at"]
          rows := (us.filter fun u => u.id == id).map fun u => [.time u.createdAt] } := by
  rw [query, h.table]
  simp only [Except.map, filter_stored, List.map_map]
  rfl

/-- Storing a user in the table stores it in the register. -/
theorem Tabulates.upsert (h : db.Tabulates us) (hf : Lists us f) {u : User} (now : Timestamp) (hid : u.id ≤ User.maxId)
    (hrole : (Role.parse? u.role).isSome = true) :
    ∃ db' vs, db.exec (.upsertUser u now) = (.ok 1, db') ∧ db'.Tabulates vs ∧ Lists vs (f.put (f.stamped now u)) := by
  obtain ⟨vs, hins, hord, hmem⟩ := insertRow_stored (f.stamped now u) h.ordered
  have hnone : (Role.parse? u.role).isNone = false := by
    rw [Option.isNone_eq_false_iff]
    exact hrole
  have hfind : ((us.map Row.stored).find? fun r => r.id == (Row.ofUser u now).id) = (f u.id).map Row.stored := by
    rw [List.find?_map, ← hf.find?]
    exact congrArg (Option.map Row.stored) (congrArg (us.find? ·) (funext fun v => Row.stored_id_beq v u.id))
  have hexec : db.exec (.upsertUser u now) = (.ok 1, { db with users := some (vs.map Row.stored) }) := by
    rw [exec]
    simp only [h.table, hnone, Bool.false_eq_true, if_false, hfind]
    rw [← hins]
    cases hu : f u.id with
    | none => simp only [Row.stored, Register.stamped, hu]; rfl
    | some old => simp only [Row.stored, Register.stamped, hu]; rfl
  have hbound : ∀ v ∈ vs, v.id ≤ User.maxId := by
    intro v hv
    rcases (hmem v).mp hv with rfl | ⟨hv, _⟩
    · exact hid
    · exact h.bounded v hv
  refine ⟨_, vs, hexec, ⟨h.opened, rfl, hord, hbound⟩, hf.put ?_ hmem⟩
  exact List.pairwise_map.mpr (hord.imp fun hlt => UInt64.ne_of_lt hlt)

/-- Removing a user from the table removes it from the register; the number of rows says whether there was one. -/
theorem Tabulates.delete (h : db.Tabulates us) (hf : Lists us f) (id : UInt64) :
    ∃ n db' vs, db.exec (.deleteUser id) = (.ok n, db') ∧ ((n == 0) = (f id).isNone) ∧ db'.Tabulates vs ∧
      Lists vs (f.drop id) := by
  have hkept : ((us.map Row.stored).filter fun r => r.id != rowId id) = (us.filter fun u => u.id != id).map Row.stored := by
    rw [List.filter_map]
    exact congrArg (List.map Row.stored) (List.filter_congr fun u _ => congrArg (!·) (Row.stored_id_beq u id))
  have hcount : (us.filter fun u => u.id != id).length ≤ us.length := List.length_filter_le _ _
  have hexec : db.exec (.deleteUser id) = (.ok (us.length - (us.filter fun u => u.id != id).length),
      { db with users := some ((us.filter fun u => u.id != id).map Row.stored) }) := by
    rw [exec]
    simp only [h.table, hkept, List.length_map]
  refine ⟨_, _, us.filter fun u => u.id != id, hexec, ?_, ?_, hf.drop id⟩
  · rw [Bool.eq_iff_iff, beq_iff_eq, Option.isNone_iff_eq_none, ← hf.find?, List.find?_eq_none]
    have hall : (us.filter fun u => u.id != id).length = us.length ↔ ∀ u ∈ us, (u.id != id) = true :=
      List.length_filter_eq_length_iff
    simp only [bne_iff_ne, ne_eq] at hall
    simp only [beq_iff_eq]
    rw [← hall]
    omega
  · exact ⟨h.opened, rfl, h.ordered.filter _, fun u hu => h.bounded u (List.mem_of_mem_filter hu)⟩

end Database

end Sql

namespace World

open Program

/-! ## Scripts whose calls succeed -/

/-- To a caller that waits, a database answers as to one that has nothing else in the world. -/
theorem driverAnswer_of_patience {w : World} (h : w.patience = .ok ()) :
    w.driverAnswer = driverAnswer { clock := w.clock } := by
  funext c s
  have haccepts : w.accepts = accepts { clock := w.clock } := by
    funext db
    simp only [accepts, h]
    rfl
  cases c with
  | now => rfl
  | _ => simp only [driverAnswer, haccepts]

section Scripts

variable {α : Type} {w : World} {db db' : Sql.Database} (hp : w.patience = .ok ()) (ho : db.closed = false)
  (log : List Log.Entry)

include hp ho

/-- An open database takes statements from a caller that waits. -/
theorem accepts_of_patience : w.accepts db = .ok () := by
  rw [accepts, ho]
  exact hp

/-- A script goes on with the answer to its query. -/
theorem run_query {q : Sql.Query} {r : Sql.ResultSet} (hq : db.query q = .ok r) (activity : Text)
    (k : Sql.ResultSet → Sql.Script α) :
    Program.run w.driverAnswer (Sql.query activity q >>= k).run (db, log) = Program.run w.driverAnswer (k r).run (db, log) := by
  have hd : w.driverAnswer (.query q) (db, log) = (.ok r, (db, log)) := by
    simp only [driverAnswer, accepts_of_patience hp ho, hq]
    rfl
  show Program.run w.driverAnswer (Program.call (I := Sql.Driver) (.query q) _) (db, log) = _
  rw [run_call, hd]
  rfl

/-- A script goes on with the number of rows that its command affected. -/
theorem run_exec {c : Sql.Command} {n : Int} (hc : db.exec c = (.ok n, db')) (activity : Text)
    (k : Except Fault Int → Sql.Script α) :
    Program.run w.driverAnswer (Sql.exec activity c >>= k).run (db, log) = Program.run w.driverAnswer (k (.ok n)).run (db', log) := by
  have hd : w.driverAnswer (.exec c) (db, log) = (.ok (.ok n), (db', log)) := by
    simp only [driverAnswer, accepts_of_patience hp ho, hc]
    rfl
  show Program.run w.driverAnswer (Program.call (I := Sql.Driver) (.exec c) _) (db, log) = _
  rw [run_call, hd]
  rfl

/-- A look-up reads the first row of the answer to its query. -/
theorem run_findOne {q : Sql.Query} {us : List User} (hq : db.query q =
      .ok { columns := Sql.userColumns, rows := (us.map Sql.Row.stored).map Sql.Row.values }) (activity : Text) :
    Program.run w.driverAnswer (Sql.findOne activity q).run (db, log) = (.ok us.head?, (db, log)) := by
  rw [Sql.findOne, run_query hp ho log hq, Sql.readFirst_stored]
  rfl

end Scripts

section Scripts

variable {w : World} {db : Sql.Database} {us : List User} {f : Register} (hp : w.patience = .ok ()) (ht : db.Tabulates us)
  (hl : Lists us f) (log : List Log.Entry)

include hp ht hl

/-- The script that stores a user keeps it in the table and answers with what it keeps. -/
theorem run_save {u : User} (hid : u.id ≤ User.maxId) (hrole : (Role.parse? u.role).isSome = true) :
    ∃ db' vs, Program.run w.driverAnswer (Sql.save u).run (db, log) = (.ok (f.stamped w.now u), (db', log)) ∧
      db'.Tabulates vs ∧ Lists vs (f.put (f.stamped w.now u)) := by
  obtain ⟨db', vs, hexec, ht', hl'⟩ := ht.upsert hl w.now hid hrole
  refine ⟨db', vs, ?_, ht', hl'⟩
  have hself : (vs.filter fun v => v.id == u.id).head? = some (f.stamped w.now u) := by
    rw [List.head?_filter, hl'.find?]
    exact f.put_self _
  have hread : (Sql.readFirst Sql.readCreated
      ⟨["created_at"], (vs.filter fun v => v.id == u.id).map fun v => [.time v.createdAt], none⟩).bind Sql.present =
        .ok (f.stamped w.now u).createdAt := by
    obtain ⟨rest, hrest⟩ := List.head?_eq_some_iff.mp hself
    rw [hrest]
    rfl
  unfold Sql.save
  rw [if_neg (UInt64.not_lt.mpr hid)]
  show Program.run w.driverAnswer (Sql.exec _ (.upsertUser u w.now) >>= _).run (db, log) = _
  rw [run_exec hp ht.opened log hexec, run_query hp ht'.opened log (ht'.createdAt u.id), hread]
  rfl

/-- The script that removes a user leaves nothing of it in the table, and answers whether there was anything. -/
theorem run_delete (id : UInt64) :
    ∃ db' vs, Program.run w.driverAnswer (Sql.delete id).run (db, log) =
        (if (f id).isNone then .error (.userAbsent id) else .ok (), (db', log)) ∧
      db'.Tabulates vs ∧ Lists vs (f.drop id) := by
  unfold Sql.delete
  by_cases hid : User.maxId < id
  · have hnone : f id = none := hl.eq_none fun u hu heq => UInt64.not_lt.mpr (heq ▸ ht.bounded u hu) hid
    have hsame : f.drop id = f := Function.update_eq_self_iff.mpr hnone.symm
    rw [if_pos hid, hnone, hsame]
    exact ⟨db, us, rfl, ht, hl⟩
  · obtain ⟨n, db', vs, hexec, hn, ht', hl'⟩ := ht.delete hl id
    refine ⟨db', vs, ?_, ht', hl'⟩
    rw [if_neg hid]
    show Program.run w.driverAnswer (Sql.exec _ (.deleteUser id) >>= _).run (db, log) = _
    rw [run_exec hp ht.opened log hexec, ← hn]
    show Program.run w.driverAnswer (if _ then _ else _ : Sql.Script Unit).run (db', log) = _
    split <;> rfl

end Scripts

end World

/-! ## Stores of either kind -/

/-- A store holds the records of a register. -/
def Storage.Holds : Storage → Register → Prop
  | .memory m, f => Lists m.users f
  | .database db, f => ∃ us, db.Tabulates us ∧ Lists us f

/-- The equality of emails by which a store looks users up. -/
def Storage.sameEmail : Storage → Text → Text → Bool
  | .memory _ => Text.equalFold
  | .database _ => Text.equalNoCase

namespace World

open Program

/-- The store of a world works and holds a register. -/
structure Stocks (w : World) (f : Register) : Prop where
  holds : w.storage.Holds f
  failing : w.failing = []

/-- The store of a world works and holds a register, and its caller is waiting. -/
structure Keeps (w : World) (f : Register) : Prop extends w.Stocks f where
  patience : w.patience = .ok ()

namespace Keeps

variable {w : World} {f : Register}

/-- A store that keeps a register has not been made to fail. -/
theorem failure? (h : w.Keeps f) (p : Point) : w.failure? p = none := by
  rw [World.failure?, h.failing]
  rfl

/-- Users are on record under their own ids. -/
theorem id_eq (h : w.Keeps f) {id : UInt64} {u : User} (hu : f id = some u) : u.id = id := by
  have hholds := h.holds
  cases hs : w.storage with
  | memory m =>
    rw [hs] at hholds
    exact hholds.id_eq hu
  | database db =>
    rw [hs] at hholds
    obtain ⟨us, _, hl⟩ := hholds
    exact hl.id_eq hu

/-- A look-up by id finds the record of the id. -/
theorem findById (h : w.Keeps f) (id : UInt64) : (answer (.findById id) w).1 = .ok (f id) := by
  have hholds := h.holds
  simp only [answer, onStore, h.failure?]
  cases hs : w.storage with
  | memory m =>
    rw [hs] at hholds
    exact congrArg Except.ok (hholds.find? id)
  | database db =>
    rw [hs] at hholds
    obtain ⟨us, ht, hl⟩ := hholds
    simp only [script, Sql.findById]
    by_cases hid : User.maxId < id
    · have hnone : f id = none := hl.eq_none fun u hu heq => UInt64.not_lt.mpr (heq ▸ ht.bounded u hu) hid
      rw [if_pos hid, hnone]
      rfl
    · rw [if_neg hid, run_findOne h.patience ht.opened w.entries (ht.userById id), List.head?_filter, hl.find?]

/-- A look-up by email picks the match of least id. -/
theorem findByEmail (h : w.Keeps f) (email : Text) :
    ∃ r, (answer (.findByEmail email) w).1 = .ok r ∧ f.Picks (fun u => w.storage.sameEmail u.email email) r := by
  have hholds := h.holds
  simp only [answer, onStore, h.failure?]
  cases hs : w.storage with
  | memory m =>
    rw [hs] at hholds
    exact ⟨_, rfl, Store.Memory.picks_findEmail? hholds email⟩
  | database db =>
    rw [hs] at hholds
    obtain ⟨us, ht, hl⟩ := hholds
    simp only [script, Sql.findByEmail]
    rw [run_findOne h.patience ht.opened w.entries (ht.userByEmail email), List.head?_take, if_neg Nat.one_ne_zero,
      List.head?_filter]
    exact ⟨_, rfl, hl.picks_find? ht.ordered _⟩

/-- A listing has every record once. -/
theorem findAll (h : w.Keeps f) : ∃ us, (answer .findAll w).1 = .ok us ∧ Lists us f := by
  have hholds := h.holds
  simp only [answer, onStore, h.failure?]
  cases hs : w.storage with
  | memory m =>
    rw [hs] at hholds
    exact ⟨_, rfl, hholds⟩
  | database db =>
    rw [hs] at hholds
    obtain ⟨us, ht, hl⟩ := hholds
    refine ⟨us, ?_, hl⟩
    have hq : db.query .allUsers =
        .ok { columns := Sql.userColumns, rows := (us.map Sql.Row.stored).map Sql.Row.values } := by
      rw [Sql.Database.query, ht.table]
      rfl
    simp only [script, Sql.findAll]
    rw [run_query h.patience ht.opened w.entries hq]
    exact Sql.readRows_stored us _ _ 0

/-- A call that changes no record and takes no time leaves everything as it is kept. -/
theorem of_reads (h : w.Keeps f) {c : Call} (ht : c.timeless = true) (hc : c.Reads) : (answer c w).2.Keeps f :=
  ⟨⟨answer_storage hc w ▸ h.holds, (answer_failing c w).trans h.failing⟩, (answer_patience ht w).trans h.patience⟩

/-- Storing a user keeps it with its times, and answers with what it keeps. -/
theorem save (h : w.Keeps f) {u : User} (hid : u.id ≤ User.maxId) (hrole : (Role.parse? u.role).isSome = true) :
    (answer (.save u) w).1 = .ok (f.stamped w.now u) ∧ (answer (.save u) w).2.Keeps (f.put (f.stamped w.now u)) := by
  suffices hsave : (answer (.save u) w).1 = .ok (f.stamped w.now u) ∧
      (answer (.save u) w).2.storage.Holds (f.put (f.stamped w.now u)) from
    ⟨hsave.1, ⟨hsave.2, (answer_failing _ w).trans h.failing⟩, (answer_patience rfl w).trans h.patience⟩
  have hholds := h.holds
  simp only [answer, onStore, h.failure?]
  cases hs : w.storage with
  | memory m =>
    rw [hs] at hholds
    exact ⟨congrArg Except.ok (Store.Memory.save_eq_stamped hholds w.now u), Store.Memory.lists_save hholds w.now u⟩
  | database db =>
    rw [hs] at hholds
    obtain ⟨us, ht, hl⟩ := hholds
    obtain ⟨db', vs, hrun, hkept⟩ := run_save h.patience ht hl w.entries hid hrole
    simp only [script, hrun]
    exact ⟨trivial, vs, hkept⟩

/-- Removing a user succeeds when it is there, and leaves nothing under its id. -/
theorem delete (h : w.Keeps f) (id : UInt64) :
    (answer (.delete id) w).1 = (if (f id).isNone then .error (.userAbsent id) else .ok ()) ∧
      (answer (.delete id) w).2.Keeps (f.drop id) := by
  suffices hdelete : (answer (.delete id) w).1 = (if (f id).isNone then .error (.userAbsent id) else .ok ()) ∧
      (answer (.delete id) w).2.storage.Holds (f.drop id) from
    ⟨hdelete.1, ⟨hdelete.2, (answer_failing _ w).trans h.failing⟩, (answer_patience rfl w).trans h.patience⟩
  have hholds := h.holds
  simp only [answer, onStore, h.failure?]
  cases hs : w.storage with
  | memory m =>
    rw [hs] at hholds
    have hfind : m.find? id = f id := hholds.find? id
    cases hu : f id with
    | none =>
      rw [hu] at hfind
      have hsame : f.drop id = f := Function.update_eq_self_iff.mpr hu.symm
      simp only [Store.Memory.delete_absent hfind, hsame]
      exact ⟨rfl, hholds⟩
    | some u =>
      rw [hu] at hfind
      simp only [Store.Memory.delete_stored hfind]
      exact ⟨rfl, hholds.drop id⟩
  | database db =>
    rw [hs] at hholds
    obtain ⟨us, ht, hl⟩ := hholds
    obtain ⟨db', vs, hrun, hkept⟩ := run_delete h.patience ht hl w.entries id
    simp only [script, hrun]
    exact ⟨trivial, vs, hkept⟩

end Keeps

end World

end Roster
