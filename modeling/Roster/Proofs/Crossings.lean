import Roster.Proofs.Interleaving
import Mathlib.Data.List.Induction
import Mathlib.Logic.Function.Basic

/-!
# Crossing calls

An operation that changes a user changes the store first and tells the cache afterwards, in two calls, and a look-up reads the
store first and fills the cache afterwards. While operations run side by side the cache may therefore be told an old record
after a newer one has been stored. `Grip` says what a program holds of the record of one id, and `Minds` which calls it may
then make; both are about one program. What its calls do to the stored and to the cached record is said once (`Shift`), and
`Tracks` follows the two records through a whole schedule. When every program has ended, a cached record is the stored one,
or else two operations have crossed (`System.Crossed`): between reading or writing a record and caching it, another operation
has written it.
-/

namespace Roster

open Program
open scoped List

/-! ## What a program holds of a record -/

/-- What a program holds of the record of one id: nothing, a record it has read, or the record it has left in the store and has
yet to tell the cache. -/
inductive Grip where
  | free
  | seen (v : User)
  | due (x : Option User)

namespace Grip

/-- The record that a program may cache. -/
def holds : Grip → Option User
  | .free => none
  | .seen v => some v
  | .due x => x

/-- Whether a program has yet to tell the cache what it has written. -/
def isDue : Grip → Bool
  | .due _ => true
  | _ => false

end Grip

/-- Whether a call reads or writes the stored record of an id. -/
def Call.touches (id : UInt64) (c : Call) : Prop := c = .findById id ∨ c.writes? = some id

/-- Whether a call sets or drops the cached record of an id. -/
def Call.settles (id : UInt64) (c : Call) : Prop :=
  c = .cacheRemove (User.key id) ∨ ∃ u, c = .cacheSet (User.key id) u

/-- A call that neither reads nor changes the stored record of an id and does not change the cached one. What it puts into the
cache stands under the key of another id. -/
def Call.elsewhere (id : UInt64) : Call → Prop
  | .findById i | .delete i => i ≠ id
  | .save u => u.id ≠ id
  | .cacheSet key _ => ∃ i, i ≠ id ∧ key = User.key i
  | .cacheRemove key => key ≠ User.key id
  | _ => True

/-- The calls that a program may make for an id, given what it holds of its record: while it has yet to tell the cache what it has
written, nothing but that; what it caches is the record it holds. -/
def Grip.allows (id : UInt64) (g : Grip) (c : Call) : Prop :=
  c.elsewhere id ∨ c = .cacheRemove (User.key id) ∨ (c.touches id ∧ g.isDue = false) ∨
    ∃ v, g.holds = some v ∧ c = .cacheSet (User.key id) v.withoutHash

/-- What a program holds after a call has been answered. -/
def Grip.after (id : UInt64) (g : Grip) : (c : Call) → c.Answer → Grip
  | .findById i, .ok (some v) => if i = id then .seen v else g
  | .save u, .ok v => if u.id = id then .due (some v) else g
  | .delete i, .ok _ => if i = id then .due none else g
  | .cacheSet key _, _ | .cacheRemove key, _ => if key = User.key id then .free else g
  | _, _ => g

/-- The answers of a world in which the cache does not fail and the store keeps users under their ids. -/
def Call.Regular : (c : Call) → c.Answer → Prop
  | .findById id, x => ∀ v, x = .ok (some v) → v.id = id
  | .save u, x => ∀ v, x = .ok v → v.id = u.id
  | .cacheSet _ _, x => x = .ok ()
  | .cacheRemove _, x => ∃ o, x = .ok o
  | _, _ => True

/-- A program keeps to what it may do for an id, whatever the answers, and ends with nothing left to tell the cache. -/
def Minds {α : Type} (id : UInt64) : Grip → Act α → Prop
  | g, .done _ => g.isDue = false
  | g, .call c next => g.allows id c ∧ ∀ x, c.Regular x → Minds id (g.after id c x) (next x)

/-! ## Every operation keeps to it -/

section Minds

variable {id : UInt64} {g : Grip}

/-- A call that has nothing to do with the id leaves what is held of it. -/
theorem Grip.after_elsewhere {c : Call} (h : c.elsewhere id) (x : c.Answer) : g.after id c x = g := by
  cases c with
  | findById i =>
    rcases x with f | _ | v
    · rfl
    · rfl
    · exact if_neg h
  | save u =>
    cases x with
    | error f => rfl
    | ok v => exact if_neg h
  | delete i =>
    cases x with
    | error f => rfl
    | ok _ => exact if_neg h
  | cacheSet key u =>
    obtain ⟨i, hi, rfl⟩ := h
    exact if_neg fun e => hi (User.key_injective e)
  | cacheRemove key => exact if_neg h
  | _ => rfl

/-- A call that has nothing to do with the id can stand anywhere. -/
theorem minds_elsewhere {α : Type} {c : Call} {next : c.Answer → Act α} (hc : c.elsewhere id)
    (hnext : ∀ x, c.Regular x → Minds id g (next x)) : Minds id g (.call c next) := by
  refine ⟨Or.inl hc, fun x hx => ?_⟩
  rw [Grip.after_elsewhere hc]
  exact hnext x hx

/-- A program may be followed by another one that keeps to what it may do, whatever is held then. -/
theorem Minds.bind {α β : Type} {p : Act α} {f : α → Act β} (hp : Minds id g p)
    (hf : ∀ g' a, g'.isDue = false → Minds id g' (f a)) : Minds id g (p.bind f) := by
  induction p generalizing g with
  | done a => exact hf g a hp
  | call c next ih => exact ⟨hp.1, fun x hx => ih x (hp.2 x hx)⟩

/-- A call that changes neither store nor cache can be made whenever nothing is due, and then nothing is due after it. -/
theorem Grip.allows_quiet {c : Call} (hc : c.Quiet) (hg : g.isDue = false) :
    g.allows id c ∧ ∀ x, (g.after id c x).isDue = false := by
  cases c with
  | findById i =>
    refine ⟨?_, fun x => ?_⟩
    · by_cases hid : i = id
      · exact Or.inr (Or.inr (Or.inl ⟨Or.inl (congrArg Call.findById hid), hg⟩))
      · exact Or.inl hid
    · rcases x with f | _ | v
      · exact hg
      · exact hg
      · dsimp only [Grip.after]
        split
        · rfl
        · exact hg
  | save _ | delete _ => cases hc.1
  | cacheSet _ _ | cacheRemove _ => cases hc.2
  | _ => exact ⟨Or.inl trivial, fun _ => hg⟩

/-- A quiet program keeps to what it may do, if nothing is due. -/
theorem minds_of_quiet {α : Type} {p : Act α} (hp : Only Call.Quiet p) (hg : g.isDue = false) : Minds id g p := by
  induction p generalizing g with
  | done a => exact hg
  | call c next ih =>
    have hnext : g.allows id c ∧ ∀ x, (g.after id c x).isDue = false := Grip.allows_quiet hp.1 hg
    exact ⟨hnext.1, fun x _ => ih x (hp.2 x) (hnext.2 x)⟩

/-- Caching a record settles what is due for its id. -/
theorem remember_minds {v : User} (hv : v.id = id → g.holds = some v) (hg : v.id ≠ id → g.isDue = false) :
    Minds id g (Users.remember true v) := by
  by_cases hid : v.id = id
  · refine ⟨Or.inr (Or.inr (Or.inr ⟨v, hv hid, ?_⟩)), fun x hx => ?_⟩
    · rw [hid]
    · obtain rfl : x = .ok () := hx
      show Grip.isDue (if User.key v.id = User.key id then .free else g) = false
      rw [if_pos (congrArg User.key hid)]
      rfl
  · refine minds_elsewhere ⟨v.id, hid, rfl⟩ fun x hx => ?_
    obtain rfl : x = .ok () := hx
    exact hg hid

/-- Dropping a record from the cache settles what is due for its id. -/
theorem forget_minds {i : UInt64} (hg : i ≠ id → g.isDue = false) : Minds id g (Users.forget true i) := by
  by_cases hid : i = id
  · subst hid
    refine ⟨Or.inr (Or.inl rfl), fun x hx => ?_⟩
    obtain ⟨o, rfl⟩ := hx
    show Grip.isDue (if User.key i = User.key i then .free else g) = false
    rw [if_pos rfl]
    rfl
  · refine minds_elsewhere (fun e => hid (User.key_injective e)) fun x hx => ?_
    obtain ⟨o, rfl⟩ := hx
    exact hg hid

/-- A look-up keeps to what it may do, if nothing is due, and afterwards the program holds the user it has found. -/
theorem minds_findById {α : Type} {i : UInt64} {next : Except Fault (Option User) → Act α} (hg : g.isDue = false)
    (hnone : ∀ f, Minds id g (next (.error f)))
    (hmiss : Minds id g (next (.ok none)))
    (hhit : ∀ g' v, v.id = i → g'.isDue = false → (v.id = id → g'.holds = some v) → Minds id g' (next (.ok (some v)))) :
    Minds id g (.call (.findById i) next) := by
  by_cases hid : i = id
  · subst hid
    refine ⟨Or.inr (Or.inr (Or.inl ⟨Or.inl rfl, hg⟩)), fun x hx => ?_⟩
    rcases x with f | _ | v
    · exact hnone f
    · exact hmiss
    · show Minds i (if i = i then .seen v else g) _
      rw [if_pos rfl]
      exact hhit _ v (hx v rfl) rfl fun _ => rfl
  · refine minds_elsewhere hid fun x hx => ?_
    rcases x with f | _ | v
    · exact hnone f
    · exact hmiss
    · exact hhit g v (hx v rfl) hg fun h => absurd ((hx v rfl).symm.trans h) hid

/-- Once a record has been stored under the id, the cache has to be told. -/
theorem minds_save {α : Type} {u : User} {next : Except Fault User → Act α} (hg : g.isDue = false)
    (hfault : ∀ f, Minds id g (next (.error f)))
    (hstored : ∀ g' v, v.id = u.id → (v.id = id → g'.holds = some v) → (v.id ≠ id → g'.isDue = false) →
      Minds id g' (next (.ok v))) :
    Minds id g (.call (.save u) next) := by
  by_cases hid : u.id = id
  · refine ⟨Or.inr (Or.inr (Or.inl ⟨Or.inr (congrArg some hid), hg⟩)), fun x hx => ?_⟩
    cases x with
    | error f => exact hfault f
    | ok v =>
      show Minds id (if u.id = id then .due (some v) else g) _
      rw [if_pos hid]
      exact hstored _ v (hx v rfl) (fun _ => rfl) fun h => absurd ((hx v rfl).trans hid) h
  · refine minds_elsewhere hid fun x hx => ?_
    cases x with
    | error f => exact hfault f
    | ok v => exact hstored g v (hx v rfl) (fun h => absurd ((hx v rfl).symm.trans h) hid) fun _ => hg

/-- Storing a user tells the cache what has been written. -/
theorem store_minds (u : User) (hg : g.isDue = false) : Minds id g (Users.store true u) :=
  minds_save hg (fun _ => hg) fun _ _ _ hv hd => (remember_minds hv hd).bind fun _ _ h => h

/-- Getting a user caches what was read. -/
theorem get_minds (i : UInt64) (hg : g.isDue = false) : Minds id g (Users.get true i).run := by
  rw [Users.run_get, Users.lookUp_true]
  refine Minds.bind ?_ fun g hit hg => ?_
  · refine minds_elsewhere trivial fun x _ => ?_
    cases x with
    | ok o => exact hg
    | error f => exact minds_elsewhere trivial fun _ _ => hg
  · cases hit with
    | some u => exact hg
    | none =>
      refine minds_findById hg (fun _ => hg) hg fun g' v _ hg' hv => ?_
      exact (remember_minds hv fun _ => hg').bind fun _ _ h => h

/-- Looking for the hash to keep leaves nothing due. -/
theorem keepHash_minds (u : User) (hg : g.isDue = false) : Minds id g (Users.keepHash u).run := by
  rw [Users.run_keepHash]
  split
  · exact minds_findById hg (fun _ => hg) hg fun _ _ _ hg' _ => hg'
  · exact hg

/-- Saving a user tells the cache what has been written. -/
theorem save_minds (u : User) (hg : g.isDue = false) : Minds id g (Users.save true u).run := by
  rw [Users.run_save]
  split
  · exact hg
  · refine (keepHash_minds u hg).bind fun g' r hg' => ?_
    cases r with
    | error f => exact hg'
    | ok v => exact store_minds v hg'

/-- Deleting a user drops it from the cache. -/
theorem delete_minds (i : UInt64) (hg : g.isDue = false) : Minds id g (Users.delete true i).run := by
  rw [Users.run_delete]
  by_cases hid : i = id
  · subst hid
    refine ⟨Or.inr (Or.inr (Or.inl ⟨Or.inr rfl, hg⟩)), fun x _ => ?_⟩
    cases x with
    | error f => exact hg
    | ok _ => exact (forget_minds fun h => absurd rfl h).bind fun _ _ h => h
  · refine minds_elsewhere hid fun x _ => ?_
    cases x with
    | error f => exact hg
    | ok _ => exact (forget_minds fun _ => hg).bind fun _ _ h => h

/-- Deactivating a user tells the cache what has been written. -/
theorem deactivate_minds (i : UInt64) (hg : g.isDue = false) : Minds id g (Users.deactivate true i).run := by
  rw [Users.run_deactivate]
  exact minds_findById hg (fun _ => hg) hg fun _ v _ hg' _ => store_minds v.deactivate hg'

/-- Setting a password tells the cache what has been written. -/
theorem setPassword_minds (s : SignIn) (hs : s.cached = true) (i : UInt64) (password : Text) (hg : g.isDue = false) :
    Minds id g (s.setPassword i password).run := by
  rw [SignIn.run_setPassword, hs]
  split
  · exact hg
  · refine minds_findById hg (fun _ => hg) hg fun g v hv hg _ => minds_elsewhere trivial fun salt _ => ?_
    dsimp only
    split
    · exact hg
    · refine minds_save hg (fun _ => hg) fun g' v' hv' _ hd => ?_
      exact (forget_minds fun h => hd ((hv'.trans hv).trans_ne h)).bind fun _ _ h => h

/-- Saving several users tells the cache of each one before the next. -/
theorem saveAll_minds (users : List User) (hg : g.isDue = false) : Minds id g (Users.saveAll true users).run := by
  induction users generalizing g with
  | nil => exact hg
  | cons u rest ih =>
    rw [Users.run_saveAll_cons]
    refine (save_minds u hg).bind fun g' r hg' => ?_
    cases r with
    | error f => exact hg'
    | ok _ => exact ih hg'

/-- Seeding tells the cache of each user before the next. -/
theorem seed_minds (users : List User) (hg : g.isDue = false) : Minds id g (Users.seed true users).run := by
  rw [Users.run_seed]
  refine minds_elsewhere trivial fun x _ => ?_
  cases x with
  | error f => exact hg
  | ok stored =>
    dsimp only
    split
    · refine (saveAll_minds users hg).bind fun g' r hg' => ?_
      cases r <;> exact hg'
    · exact hg

/-- Naming the value of a task changes none of its calls. -/
theorem map_minds {α β : Type} {t : Task α} (k : α → β) (h : Minds id g t.run) : Minds id g (k <$> t).run := by
  rw [Task.run_map]
  exact h.bind fun _ _ hg => hg

/-- Every operation keeps to what it may do for every id. -/
theorem Operation.task_minds (s : SignIn) (o : Operation) (id : UInt64) :
    Minds id .free (o.task { s with cached := true } true).run := by
  cases o with
  | get i => exact map_minds _ (get_minds i rfl)
  | save u => exact map_minds _ (save_minds u rfl)
  | delete i => exact map_minds _ (delete_minds i rfl)
  | deactivate i => exact map_minds _ (deactivate_minds i rfl)
  | seed users => exact map_minds _ (seed_minds users rfl)
  | setPassword i password => exact map_minds _ (setPassword_minds _ rfl i password rfl)
  | list => exact map_minds _ (minds_of_quiet Users.list_quiet rfl)
  | groupByRole activeOnly => exact map_minds _ (minds_of_quiet (Users.groupByRole_quiet activeOnly) rfl)
  | login email password => exact map_minds _ (minds_of_quiet (SignIn.login_quiet _ email password) rfl)
  | validate token => exact map_minds _ (minds_of_quiet (SignIn.validate_quiet _ token) rfl)
  | authenticate token => exact map_minds _ (minds_of_quiet (SignIn.authenticate_quiet _ token) rfl)

end Minds

/-! ## What a call does to the two records -/

/-- What is stored under an id in memory. -/
def World.user? (w : World) (id : UInt64) : Option User :=
  match w.storage with
  | .memory m => m.find? id
  | .database _ => none

/-- What is cached for an id in the process. -/
def World.cached? (w : World) (id : UInt64) : Option User :=
  match w.caching with
  | .inProcess k => k.get? (User.key id)
  | _ => none

/-- A world with the given users in memory and the given cache in the process, in which nothing has been made to fail. -/
structure World.Local (w : World) (m : Store.Memory) (k : Cache.Local User) : Prop where
  storage : w.storage = .memory m
  caching : w.caching = .inProcess k
  failing : w.failing = []

namespace World.Local

variable {w : World} {m : Store.Memory} {k : Cache.Local User}

/-- Nothing has been made to fail. -/
theorem failure? (h : w.Local m k) (p : Point) : w.failure? p = none := by
  rw [World.failure?, h.failing]
  rfl

/-- Some time later the same users are stored and cached. -/
theorem advance (h : w.Local m k) (d : Span) : (w.advance d).Local m k := ⟨h.storage, h.caching, h.failing⟩

/-- The stored record of an id is the one in memory. -/
theorem user? (h : w.Local m k) (id : UInt64) : w.user? id = m.find? id := by
  rw [World.user?, h.storage]

/-- The cached record of an id is the one in the cache of the process. -/
theorem cached? (h : w.Local m k) (id : UInt64) : w.cached? id = k.get? (User.key id) := by
  rw [World.cached?, h.caching]

/-- A world has one memory and one cache. -/
theorem unique (h : w.Local m k) {m' : Store.Memory} {k' : Cache.Local User} (h' : w.Local m' k') : m = m' ∧ k = k' :=
  ⟨Storage.memory.inj (h.storage.symm.trans h'.storage), Caching.inProcess.inj (h.caching.symm.trans h'.caching)⟩

/-- A call that neither writes nor goes to the cache leaves both as they were. -/
theorem answer_aside (h : w.Local m k) {c : Call} (hw : c.writes? = none) (hc : c.toCache = false) :
    (World.answer c w).2.Local m k :=
  ⟨(answer_storage hw w).trans h.storage, (answer_caching hc w).trans h.caching, (answer_failing c w).trans h.failing⟩

/-- The answers are regular: users are stored under their ids, and the cache does not fail. -/
theorem regular (h : w.Local m k) (c : Call) : c.Regular (World.answer c w).1 := by
  cases c with
  | findById i => exact fun v hv => findById_id hv
  | save u =>
    intro v hv
    rw [answer_save h.storage (h.failure? _)] at hv
    obtain rfl := Except.ok.inj hv
    rfl
  | cacheSet key u =>
    rw [answer_cacheSet h.caching (h.failure? _)]
    rfl
  | cacheRemove key =>
    rw [answer_cacheRemove h.caching (h.failure? _)]
    exact ⟨_, rfl⟩
  | _ => trivial

end World.Local

/-- What a call can do to what its program holds, to the stored record of an id and to the cached one. -/
inductive Shift (id : UInt64) (c : Call) :
    Grip → Option User → Option User → Grip → Option User → Option User → Prop where
  | aside (g : Grip) (x y : Option User) : Shift id c g x y g x y
  | read {g : Grip} (v : User) (y : Option User) :
      c = .findById id → g.isDue = false → Shift id c g (some v) y (.seen v) (some v) y
  | write {g : Grip} (x x' y : Option User) :
      c.writes? = some id → g.isDue = false → Shift id c g x y (.due x') x' y
  | settle {g : Grip} {v : User} (x y : Option User) :
      g.holds = some v → c = .cacheSet (User.key id) v.withoutHash → Shift id c g x y .free x (some v.withoutHash)
  | drop (g : Grip) (x y : Option User) : c = .cacheRemove (User.key id) → Shift id c g x y .free x none

section Shift

variable {id : UInt64} {g : Grip} {w : World} {m : Store.Memory} {k : Cache.Local User}

/-- A program that may touch the record has nothing left to tell the cache. -/
theorem Grip.allows_touches {c : Call} (h : g.allows id c) (hc : c.touches id) : g.isDue = false := by
  obtain h | rfl | ⟨-, hg⟩ | ⟨v, -, rfl⟩ := h
  · rcases hc with rfl | hc
    · exact absurd rfl h
    · cases c with
      | save u => exact absurd (Option.some.inj hc) h
      | delete i => exact absurd (Option.some.inj hc) h
      | _ => cases hc
  · rcases hc with hc | hc <;> cases hc
  · exact hg
  · rcases hc with hc | hc <;> cases hc

/-- A look-up reads the record, or has nothing to do with it. -/
theorem shift_findById (hw : w.Local m k) (i : UInt64) (h : g.allows id (.findById i)) :
    Shift id (.findById i) g (m.find? id) (k.get? (User.key id))
      (g.after id (.findById i) (World.answer (.findById i) w).1) (m.find? id) (k.get? (User.key id)) := by
  rw [World.answer_findById hw.storage (hw.failure? _)]
  by_cases hid : i = id
  · subst hid
    cases hm : m.find? i with
    | none => exact .aside _ _ _
    | some v =>
      show Shift i _ g _ _ (if i = i then .seen v else g) _ _
      rw [if_pos rfl]
      exact .read v _ rfl (Grip.allows_touches h (Or.inl rfl))
  · have hc : Call.elsewhere id (.findById i) := hid
    rw [Grip.after_elsewhere hc]
    exact .aside _ _ _

/-- Saving writes the record, or has nothing to do with it. -/
theorem shift_save (u : User) (now : Timestamp) (y : Option User) (h : g.allows id (.save u)) :
    Shift id (.save u) g (m.find? id) y (g.after id (.save u) (.ok (m.save now u).1)) ((m.save now u).2.find? id) y := by
  by_cases hid : u.id = id
  · subst hid
    rw [m.find?_save_self]
    show Shift u.id _ g _ _ (if u.id = u.id then .due (some (m.save now u).1) else g) _ _
    rw [if_pos rfl]
    exact .write _ _ _ rfl (Grip.allows_touches h (Or.inr rfl))
  · have hc : Call.elsewhere id (.save u) := hid
    rw [Grip.after_elsewhere hc, m.find?_save_other now u (Ne.symm hid)]
    exact .aside _ _ _

/-- Deleting removes the record, or has nothing to do with it. -/
theorem shift_delete (i : UInt64) (y : Option User) (h : g.allows id (.delete i)) :
    Shift id (.delete i) g (m.find? id) y (g.after id (.delete i) (m.delete i).1) ((m.delete i).2.find? id) y := by
  by_cases hid : i = id
  · subst hid
    cases hm : m.find? i with
    | none =>
      rw [Store.Memory.delete_absent hm, hm]
      exact .aside _ _ _
    | some v =>
      rw [m.find?_delete_self, Store.Memory.delete_stored hm]
      show Shift i _ g _ _ (if i = i then .due none else g) _ _
      rw [if_pos rfl]
      exact .write _ _ _ rfl (Grip.allows_touches h (Or.inr rfl))
  · have hc : Call.elsewhere id (.delete i) := hid
    rw [Grip.after_elsewhere hc, m.find?_delete_other (Ne.symm hid)]
    exact .aside _ _ _

/-- Setting a key settles what is held, or has nothing to do with it. -/
theorem shift_cacheSet (key : Text) (u : User) (x : Option User) (h : g.allows id (.cacheSet key u)) :
    Shift id (.cacheSet key u) g x (k.get? (User.key id)) (g.after id (.cacheSet key u) (.ok ())) x
      ((k.set key u).get? (User.key id)) := by
  rw [Cache.Local.get?_set]
  obtain h | h | ⟨h | h, -⟩ | ⟨v, hv, h⟩ := h
  · rw [Grip.after_elsewhere h]
    obtain ⟨i, hi, rfl⟩ := h
    rw [if_neg fun e => hi (User.key_injective e).symm]
    exact .aside _ _ _
  · cases h
  · cases h
  · cases h
  · cases h
    show Shift id _ g _ _ (if User.key id = User.key id then .free else g) _ _
    rw [if_pos rfl, if_pos rfl]
    exact .settle _ _ hv rfl

/-- Dropping a key drops the cached record, or has nothing to do with it. -/
theorem shift_cacheRemove (key : Text) (x : Option User) (o : Option User) :
    Shift id (.cacheRemove key) g x (k.get? (User.key id)) (g.after id (.cacheRemove key) (.ok o)) x
      ((k.erase key).get? (User.key id)) := by
  rw [Cache.Local.get?_erase]
  by_cases hkey : key = User.key id
  · subst hkey
    show Shift id _ g _ _ (if User.key id = User.key id then .free else g) _ _
    rw [if_pos rfl, if_pos rfl]
    exact .drop _ _ _ rfl
  · have hc : Call.elsewhere id (.cacheRemove key) := hkey
    rw [if_neg (Ne.symm hkey), Grip.after_elsewhere hc]
    exact .aside _ _ _

/-- The keys of a cache are ids. -/
def Cache.Local.Keyed (k : Cache.Local User) : Prop := ∀ key u, k.get? key = some u → ∃ i, key = User.key i

/-- What programs put into the cache stands under ids. -/
theorem keyed_set (hk : k.Keyed) {key : Text} {u : User} (h : g.allows id (.cacheSet key u)) : (k.set key u).Keyed := by
  intro key' u' hu'
  rw [Cache.Local.get?_set] at hu'
  split at hu'
  · rename_i he
    obtain ⟨i, -, hi⟩ | h | ⟨h | h, -⟩ | ⟨v, -, h⟩ := h
    · exact ⟨i, he.trans hi⟩
    · cases h
    · cases h
    · cases h
    · cases h
      exact ⟨id, he⟩
  · exact hk key' u' hu'

/-- Erasing a key leaves ids only. -/
theorem keyed_erase (hk : k.Keyed) (key : Text) : (k.erase key).Keyed := by
  intro key' u' hu'
  rw [Cache.Local.get?_erase] at hu'
  split at hu'
  · cases hu'
  · exact hk key' u' hu'

/-- A call of a program that keeps to what it may do. -/
theorem Minds.shift {α : Type} {c : Call} {next : c.Answer → Act α} (h : Minds id g (.call c next)) (hw : w.Local m k)
    (hk : k.Keyed) :
    Minds id (g.after id c (World.answer c w).1) (next (World.answer c w).1) ∧
      ∃ m' k', (World.answer c w).2.Local m' k' ∧ k'.Keyed ∧
        Shift id c g (m.find? id) (k.get? (User.key id)) (g.after id c (World.answer c w).1) (m'.find? id)
          (k'.get? (User.key id)) := by
  obtain ⟨hallowed, hnext⟩ := h
  refine ⟨hnext _ (hw.regular c), ?_⟩
  cases c with
  | findById i => exact ⟨m, k, hw.answer_aside rfl rfl, hk, shift_findById hw i hallowed⟩
  | save u =>
    rw [World.answer_save hw.storage (hw.failure? _)]
    exact ⟨_, k, ⟨rfl, hw.caching, hw.failing⟩, hk, shift_save u _ _ hallowed⟩
  | delete i =>
    rw [World.answer_delete hw.storage (hw.failure? _)]
    exact ⟨_, k, ⟨rfl, hw.caching, hw.failing⟩, hk, shift_delete i _ hallowed⟩
  | cacheGet key =>
    rw [World.answer_cacheGet hw.caching (hw.failure? _)]
    exact ⟨m, k, hw, hk, .aside _ _ _⟩
  | cacheSet key u =>
    rw [World.answer_cacheSet hw.caching (hw.failure? _)]
    exact ⟨m, _, ⟨hw.storage, rfl, hw.failing⟩, keyed_set hk hallowed, shift_cacheSet key u _ hallowed⟩
  | cacheRemove key =>
    rw [World.answer_cacheRemove hw.caching (hw.failure? _)]
    exact ⟨m, _, ⟨hw.storage, rfl, hw.failing⟩, keyed_erase hk key, shift_cacheRemove key _ _⟩
  | _ => exact ⟨m, k, hw.answer_aside rfl rfl, hk, .aside _ _ _⟩

end Shift

/-! ## Both records through a schedule -/

section Tracks

variable (id : UInt64)

/-- Program `i` has read or written the record when it was `v`, and these calls have been made since. `Was` says which record the
store held when certain calls had been made. -/
def Held (Was : List (Nat × Call) → Option User → Prop) (i : Nat) (v : User) (t rest : List (Nat × Call)) : Prop :=
  ∃ before c, c.touches id ∧ Was (before ++ [(i, c)]) (some v) ∧ t = before ++ [(i, c)] ++ rest

/-- Since then another program has written the record, and it has told the cache or has yet to tell it. -/
def Superseded (g : Nat → Grip) (i : Nat) (rest : List (Nat × Call)) : Prop :=
  ∃ j d, j ≠ i ∧ d.writes? = some id ∧
    ((g j).isDue = true ∧ [(j, d)] <+ rest ∨ ∃ c, c.settles id ∧ [(j, d), (j, c)] <+ rest)

/-- A program has read or written the record; then another one has written it and told the cache; and then the first one has
cached the record that it had. -/
def Crossing (Was : List (Nat × Call) → Option User → Prop) (u : User) (t : List (Nat × Call)) : Prop :=
  ∃ i j v d c rest, j ≠ i ∧ Held id Was i v t rest ∧ u = v.withoutHash ∧ d.writes? = some id ∧ c.settles id ∧
    [(j, d), (j, c), (i, .cacheSet (User.key id) u)] <+ rest

/-- How the record `x` that is stored under an id and the record `y` that is cached for it have come about: what a program holds
of the record is what is stored unless it has been superseded, and what is cached is what is stored unless a program has yet to
tell the cache or calls have crossed. -/
structure Tracks (Was : List (Nat × Call) → Option User → Prop) (g : Nat → Grip) (t : List (Nat × Call))
    (x y : Option User) : Prop where
  held : ∀ i v, (g i).holds = some v → ∃ rest, Held id Was i v t rest ∧ (x = some v ∨ Superseded id g i rest)
  entry : ∀ u, y = some u →
    (∃ v, x = some v ∧ u = v.withoutHash) ∨ (∃ j, (g j).isDue = true) ∨ Crossing id Was u t

variable {id} {Was : List (Nat × Call) → Option User → Prop} {g : Nat → Grip} {t rest : List (Nat × Call)}
  {x y : Option User}

/-- Another call comes after what a program holds. -/
theorem Held.mono {i : Nat} {v : User} (h : Held id Was i v t rest) (e : Nat × Call) :
    Held id Was i v (t ++ [e]) (rest ++ [e]) := by
  obtain ⟨before, c, hc, hwas, rfl⟩ := h
  exact ⟨before, c, hc, hwas, List.append_assoc _ _ _⟩

/-- A crossing stays one. -/
theorem Crossing.mono {u : User} (h : Crossing id Was u t) (e : Nat × Call) : Crossing id Was u (t ++ [e]) := by
  obtain ⟨i, j, v, d, c, rest, hij, hheld, hu, hd, hc, hsub⟩ := h
  exact ⟨i, j, v, d, c, rest ++ [e], hij, hheld.mono e, hu, hd, hc, hsub.trans (List.sublist_append_left rest [e])⟩

/-- More points of the schedule to look back at do no harm. -/
theorem Tracks.weaken {Was' : List (Nat × Call) → Option User → Prop} (h : Tracks id Was g t x y)
    (hwas : ∀ t x, Was t x → Was' t x) : Tracks id Was' g t x y := by
  have hheld : ∀ {i v rest}, Held id Was i v t rest → Held id Was' i v t rest := by
    rintro i v rest ⟨before, c, hc, hw, ht⟩
    exact ⟨before, c, hc, hwas _ _ hw, ht⟩
  refine ⟨fun i v hv => ?_, fun u hu => ?_⟩
  · obtain ⟨rest, hh, hx⟩ := h.held i v hv
    exact ⟨rest, hheld hh, hx⟩
  · obtain hv | hj | ⟨i, j, v, d, c, rest, hij, hh, hrest⟩ := h.entry u hu
    · exact Or.inl hv
    · exact Or.inr (Or.inl hj)
    · exact Or.inr (Or.inr ⟨i, j, v, d, c, rest, hij, hheld hh, hrest⟩)

variable {i : Nat} {c : Call} {g' : Grip}

/-- A program that had something to tell the cache has yet to, unless that is what the call has done. -/
theorem due_update (hdue : (g i).isDue = true → g'.isDue = true) {j : Nat} (hj : (g j).isDue = true) :
    (Function.update g i g' j).isDue = true := by
  by_cases hji : j = i
  · subst hji
    rw [Function.update_self]
    exact hdue hj
  · rwa [Function.update_of_ne hji]

/-- A program that has been superseded stays so: the other one has yet to tell the cache, or has just told it. -/
theorem Superseded.step {l : Nat} (h : Superseded id g l rest)
    (hdue : (g i).isDue = true → g'.isDue = true ∨ c.settles id) :
    Superseded id (Function.update g i g') l (rest ++ [(i, c)]) := by
  obtain ⟨j, d, hjl, hd, ⟨hj, hsub⟩ | ⟨c', hc', hsub⟩⟩ := h
  · refine ⟨j, d, hjl, hd, ?_⟩
    by_cases hji : j = i
    · subst hji
      rcases hdue hj with hg' | hc
      · exact Or.inl ⟨by rwa [Function.update_self], hsub.trans (List.sublist_append_left rest _)⟩
      · exact Or.inr ⟨c, hc, hsub.append_right [(j, c)]⟩
    · exact Or.inl ⟨by rwa [Function.update_of_ne hji], hsub.trans (List.sublist_append_left rest _)⟩
  · exact ⟨j, d, hjl, hd, Or.inr ⟨c', hc', hsub.trans (List.sublist_append_left rest _)⟩⟩

/-- What the other programs hold stays what is stored or superseded, if the stored record stays. -/
theorem Tracks.others (h : Tracks id Was g t x y) (hdue : (g i).isDue = true → g'.isDue = true ∨ c.settles id) {l : Nat}
    (hl : l ≠ i) {v : User} (hv : (Function.update g i g' l).holds = some v) :
    ∃ rest, Held id Was l v (t ++ [(i, c)]) rest ∧ (x = some v ∨ Superseded id (Function.update g i g') l rest) := by
  rw [Function.update_of_ne hl] at hv
  obtain ⟨rest, hheld, hx | hsup⟩ := h.held l v hv
  · exact ⟨_, hheld.mono _, Or.inl hx⟩
  · exact ⟨_, hheld.mono _, Or.inr (hsup.step hdue)⟩

/-- A program that has just read or written the record holds what is stored. -/
theorem held_now {v : User} (hc : c.touches id) (hwas : Was (t ++ [(i, c)]) (some v)) :
    Held id Was i v (t ++ [(i, c)]) [] :=
  ⟨t, c, hc, hwas, (List.append_nil _).symm⟩

/-- A program that reads the record holds what is stored. -/
theorem Tracks.read {v : User} (h : Tracks id Was g t (some v) y) (hc : c = .findById id) (hg : (g i).isDue = false)
    (hwas : Was (t ++ [(i, c)]) (some v)) : Tracks id Was (Function.update g i (.seen v)) (t ++ [(i, c)]) (some v) y := by
  have hdue : (g i).isDue = true → (Grip.seen v).isDue = true := fun h => absurd h (by rw [hg]; exact Bool.false_ne_true)
  refine ⟨fun l v' hv' => ?_, fun u hu => ?_⟩
  · by_cases hl : l = i
    · subst hl
      rw [Function.update_self] at hv'
      obtain rfl := Option.some.inj hv'
      exact ⟨[], held_now (Or.inl hc) hwas, Or.inl rfl⟩
    · exact h.others (fun hd => Or.inl (hdue hd)) hl hv'
  · obtain hv | ⟨j, hj⟩ | hcross := h.entry u hu
    · exact Or.inl hv
    · exact Or.inr (Or.inl ⟨j, due_update hdue hj⟩)
    · exact Or.inr (Or.inr (hcross.mono _))

/-- What a program writes supersedes what the others hold, and the cache has yet to be told. -/
theorem Tracks.write (h : Tracks id Was g t x y) (hc : c.writes? = some id) (hg : (g i).isDue = false) {x' : Option User}
    (hwas : Was (t ++ [(i, c)]) x') : Tracks id Was (Function.update g i (.due x')) (t ++ [(i, c)]) x' y := by
  have hnow : (Function.update g i (.due x') i).isDue = true := by
    rw [Function.update_self]
    rfl
  refine ⟨fun l v hv => ?_, fun u _ => Or.inr (Or.inl ⟨i, hnow⟩)⟩
  by_cases hl : l = i
  · subst hl
    rw [Function.update_self] at hv
    obtain rfl : x' = some v := hv
    exact ⟨[], held_now (Or.inr hc) hwas, Or.inl rfl⟩
  · rw [Function.update_of_ne hl] at hv
    obtain ⟨rest, hheld, -⟩ := h.held l v hv
    exact ⟨_, hheld.mono _, Or.inr ⟨i, c, Ne.symm hl, hc, Or.inl ⟨hnow, List.sublist_append_right rest _⟩⟩⟩

/-- A program caches the record that it holds: what is stored, or what has been superseded. -/
theorem Tracks.settle (h : Tracks id Was g t x y) {v : User} (hv : (g i).holds = some v)
    (hc : c = .cacheSet (User.key id) v.withoutHash) :
    Tracks id Was (Function.update g i .free) (t ++ [(i, c)]) x (some v.withoutHash) := by
  have hsettles : c.settles id := Or.inr ⟨_, hc⟩
  refine ⟨fun l v' hv' => ?_, fun u hu => ?_⟩
  · by_cases hl : l = i
    · subst hl
      rw [Function.update_self] at hv'
      cases hv'
    · exact h.others (fun _ => Or.inr hsettles) hl hv'
  · obtain rfl := Option.some.inj hu
    obtain ⟨rest, hheld, hx | ⟨j, d, hji, hd, ⟨hj, -⟩ | ⟨c', hc', hsub⟩⟩⟩ := h.held i v hv
    · exact Or.inl ⟨v, hx, rfl⟩
    · exact Or.inr (Or.inl ⟨j, by rwa [Function.update_of_ne hji]⟩)
    · refine Or.inr (Or.inr ⟨i, j, v, d, c', _, hji, hheld.mono _, rfl, hd, hc', ?_⟩)
      rw [hc]
      exact hsub.append_right [(i, _)]

/-- After the cached record has been dropped, nothing is cached. -/
theorem Tracks.drop (h : Tracks id Was g t x y) (hc : c = .cacheRemove (User.key id)) :
    Tracks id Was (Function.update g i .free) (t ++ [(i, c)]) x none := by
  refine ⟨fun l v hv => ?_, fun u hu => by cases hu⟩
  by_cases hl : l = i
  · subst hl
    rw [Function.update_self] at hv
    cases hv
  · exact h.others (fun _ => Or.inr (Or.inl hc)) hl hv

/-- A call that has nothing to do with the record leaves both as they were. -/
theorem Tracks.aside (h : Tracks id Was g t x y) : Tracks id Was g (t ++ [(i, c)]) x y := by
  have hupdate : Function.update g i (g i) = g := Function.update_eq_self i g
  refine ⟨fun l v hv => ?_, fun u hu => ?_⟩
  · obtain ⟨rest, hheld, hx | hsup⟩ := h.held l v hv
    · exact ⟨_, hheld.mono _, Or.inl hx⟩
    · exact ⟨_, hheld.mono _, Or.inr (hupdate ▸ hsup.step Or.inl)⟩
  · obtain hv | hj | hcross := h.entry u hu
    · exact Or.inl hv
    · exact Or.inr (Or.inl hj)
    · exact Or.inr (Or.inr (hcross.mono _))

/-- A call of program `i` takes the two records on. -/
theorem Tracks.step (h : Tracks id Was g t x y) {x' y' : Option User} (hshift : Shift id c (g i) x y g' x' y')
    (hwas : Was (t ++ [(i, c)]) x') : Tracks id Was (Function.update g i g') (t ++ [(i, c)]) x' y' := by
  generalize hgi : g i = gi at hshift
  cases hshift with
  | aside =>
    rw [← hgi, Function.update_eq_self]
    exact h.aside
  | read v _ hc hg => exact h.read hc (hgi ▸ hg) hwas
  | write _ _ _ hc hg => exact h.write hc (hgi ▸ hg) hwas
  | settle _ _ hv hc => exact h.settle (hgi ▸ hv) hc
  | drop _ _ hc => exact h.drop hc

end Tracks

/-! ## Operations side by side -/

namespace System

variable {α : Type}

/-- A schedule with one more turn is run up to it and then takes the turn. -/
theorem run_concat (S : System α) (turns : List Turn) (t : Turn) : S.run (turns ++ [t]) = (S.run turns).turn t := by
  simp only [run, List.foldl_append, List.foldl_cons, List.foldl_nil]

/-- Whether every program has ended. -/
def ended (S : System α) : Bool :=
  S.threads.all fun
    | .done _ => true
    | .call _ _ => false

/-- At some point of a schedule these calls had been made, and this was stored under an id. -/
def Was (S : System α) (turns : List Turn) (id : UInt64) (t : List (Nat × Call)) (x : Option User) : Prop :=
  ∃ earlier, earlier <+: turns ∧ (S.run earlier).trace = t ∧ (S.run earlier).world.user? id = x

/-- The user that is cached for an id at the end of a schedule has got there by a crossing. -/
def Crossed (S : System α) (turns : List Turn) (id : UInt64) (u : User) : Prop :=
  Crossing id (S.Was turns id) u (S.run turns).trace

/-- Programs that keep to what they may do for an id, and how the records stored and cached for it have come about. -/
def Tracked (S : System α) (turns : List Turn) (id : UInt64) : Prop :=
  ∃ m k g, (S.run turns).world.Local m k ∧ k.Keyed ∧
    (∀ i p, (S.run turns).threads[i]? = some p → Minds id (g i) p) ∧
    (∀ i, (S.run turns).threads[i]? = none → (g i).isDue = false) ∧
    Tracks id (S.Was turns id) g (S.run turns).trace (m.find? id) (k.get? (User.key id))

/-- What was at some point of a schedule was at that point of a longer one. -/
theorem Was.concat {S : System α} {turns : List Turn} {id : UInt64} {t : List (Nat × Call)} {x : Option User}
    (h : S.Was turns id t x) (next : Turn) : S.Was (turns ++ [next]) id t x := by
  obtain ⟨earlier, hearlier, ht, hx⟩ := h
  exact ⟨earlier, hearlier.trans (List.prefix_append turns [next]), ht, hx⟩

/-- One more turn keeps the records tracked. -/
theorem Tracked.concat {S : System α} {turns : List Turn} {id : UInt64} (h : S.Tracked turns id) (t : Turn) :
    S.Tracked (turns ++ [t]) id := by
  obtain ⟨m, k, g, hw, hk, hminds, hfree, htracks⟩ := h
  have hlater := htracks.weaken fun _ _ hwas => hwas.concat t
  -- a turn in which nobody makes a call
  have hidle (w : World) (hw : w.Local m k) (hS : S.run (turns ++ [t]) = { S.run turns with world := w }) :
      S.Tracked (turns ++ [t]) id := by
    refine ⟨m, k, g, ?_, hk, ?_, ?_, ?_⟩ <;> rw [hS] <;> assumption
  cases t with
  | pass d => exact hidle _ (hw.advance d) (S.run_concat turns _)
  | move i =>
    obtain hturn | ⟨c, next, hi, hturn⟩ := (S.run turns).turn_move i
    · exact hidle _ hw ((S.run_concat turns _).trans hturn)
    · have hrun := (S.run_concat turns _).trans hturn
      obtain ⟨hnext, m', k', hw', hk', hshift⟩ := (hminds i _ hi).shift hw hk
      generalize (g i).after id c _ = g' at hnext hshift
      refine ⟨m', k', Function.update g i g', by rwa [hrun], hk', fun j p hj => ?_, fun j hj => ?_, ?_⟩
      · rw [hrun] at hj
        by_cases hji : j = i
        · subst hji
          rw [Function.update_self]
          rw [List.getElem?_set_self (List.getElem?_eq_some_iff.1 hi).1] at hj
          exact Option.some.inj hj ▸ hnext
        · rw [Function.update_of_ne hji]
          rw [List.getElem?_set_ne (Ne.symm hji)] at hj
          exact hminds j p hj
      · rw [hrun] at hj
        have hji : j ≠ i := by
          rintro rfl
          rw [List.getElem?_set_self (List.getElem?_eq_some_iff.1 hi).1] at hj
          cases hj
        rw [Function.update_of_ne hji]
        rw [List.getElem?_set_ne (Ne.symm hji)] at hj
        exact hfree j hj
      · have hwas : S.Was (turns ++ [.move i]) id ((S.run turns).trace ++ [(i, c)]) (m'.find? id) := by
          refine ⟨_, List.prefix_refl _, by rw [hrun], ?_⟩
          rw [hrun, hw'.user?]
        rw [hrun]
        exact hlater.step hshift hwas

/-- A program that has ended has nothing left to tell the cache. -/
theorem Tracked.settled {S : System α} {turns : List Turn} {id : UInt64} (h : S.Tracked turns id)
    (hend : (S.run turns).ended = true) {m : Store.Memory} {k : Cache.Local User}
    (hw : (S.run turns).world.Local m k) {u : User} (hu : k.get? (User.key id) = some u) :
    (∃ v, m.find? id = some v ∧ u = v.withoutHash) ∨ S.Crossed turns id u := by
  obtain ⟨m', k', g, hw', -, hminds, hfree, htracks⟩ := h
  obtain ⟨rfl, rfl⟩ := hw.unique hw'
  have hnobody : ∀ j, (g j).isDue = false := by
    intro j
    cases hj : (S.run turns).threads[j]? with
    | none => exact hfree j hj
    | some p =>
      have hp := List.all_eq_true.1 hend p (List.mem_of_getElem? hj)
      cases p with
      | done a => exact hminds j _ hj
      | call c next => cases hp
  obtain hv | ⟨j, hj⟩ | hcross := htracks.entry u hu
  · exact Or.inl hv
  · rw [hnobody j] at hj
    cases hj
  · exact Or.inr hcross

/-- The records are tracked through a whole schedule. -/
theorem Tracked.run {S : System α} {id : UInt64} (h : S.Tracked [] id) (turns : List Turn) : S.Tracked turns id := by
  induction turns using List.reverseRecOn with
  | nil => exact h
  | append_singleton turns t ih => exact ih.concat t

end System

namespace Operation

/-- Operations about to run side by side over one cache. -/
def beside (s : SignIn) (operations : List Operation) (w : World) : System (Except Fault Outcome) :=
  { threads := operations.map fun o => (o.task { s with cached := true } true).run, world := w }

/-- Operations that are about to run over an empty store and an empty cache are tracked. -/
theorem beside_tracked (s : SignIn) (operations : List Operation) {w : World} (hw : w.Local {} {}) (id : UInt64) :
    (beside s operations w).Tracked [] id := by
  refine ⟨{}, {}, fun _ => .free, hw, ?_, fun i p hp => ?_, fun _ _ => rfl, ?_, ?_⟩
  · intro _ _ h
    cases h
  · obtain ⟨o, -, rfl⟩ := List.mem_map.1 (List.mem_of_getElem? hp)
    exact o.task_minds s id
  · intro _ _ h
    cases h
  · intro _ h
    cases h

/-- When operations that ran side by side from an empty store and an empty cache have all ended, a user cached under an id is the
stored user with that id without its hash, unless operations have crossed; and nothing is cached but under ids. -/
theorem cached_unless_crossed (s : SignIn) (operations : List Operation) {w : World} (hw : w.Local {} {})
    (turns : List Turn) (hend : ((beside s operations w).run turns).ended = true) :
    ∃ m k, ((beside s operations w).run turns).world.Local m k ∧ k.Keyed ∧
      ∀ id u, k.get? (User.key id) = some u →
        (∃ v, m.find? id = some v ∧ u = v.withoutHash) ∨ (beside s operations w).Crossed turns id u := by
  have htracked id := (beside_tracked s operations hw id).run turns
  obtain ⟨m, k, -, hlocal, hkeyed, -⟩ := htracked 0
  refine ⟨m, k, hlocal, hkeyed, fun id u hu => ?_⟩
  exact (htracked id).settled hend hlocal hu

/-- A user whose saving is crossed by its removal stays cached when it is no longer stored. -/
theorem removed_user_stays_cached :
    let ann : User := { id := 1, name := "Ann", email := "ann@example.com", role := "viewer" }
    let s : SignIn := { secret := "key", passwords := Password.salted 10, cached := true }
    let w : World := { clock := 0 }
    let turns := List.replicate 2 (.move 0) ++ List.replicate 2 (.move 1) ++ [.move 0]
    let S := beside s [.save ann, .delete 1] w
    w.Local {} {} ∧ (S.run turns).ended = true ∧
      ∃ m k, (S.run turns).world.Local m k ∧ m.find? 1 = none ∧ k.get? (User.key 1) = some ann ∧
        S.Crossed turns 1 ann := by
  intro ann s w turns S
  have hw : w.Local {} {} := ⟨rfl, rfl, rfl⟩
  have hend : (S.run turns).ended = true := by decide +kernel
  obtain ⟨m, k, hlocal, -, hcached⟩ := cached_unless_crossed s [.save ann, .delete 1] hw turns hend
  have hm : m.find? 1 = none := (hlocal.user? 1).symm.trans (by decide +kernel)
  have hk : k.get? (User.key 1) = some ann := (hlocal.cached? 1).symm.trans (by decide +kernel)
  obtain ⟨v, hv, -⟩ | hcross := hcached 1 ann hk
  · rw [hm] at hv
    cases hv
  · exact ⟨hw, hend, m, k, hlocal, hm, hk, hcross⟩

/-- Each operation that caches a user can be crossed by each that changes one, and what is then cached is not what is stored: the
first one makes its calls to the store, time passes, the other one runs, and the first one goes on. -/
theorem crossed_operations_leave_stale_users :
    let ann : User := { id := 1, name := "Ann", email := "ann@example.com", role := "viewer" }
    let s : SignIn := { secret := "key", passwords := Password.salted 10, cached := true }
    let w : World := { clock := 0 }
    let password := utf8 "password"
    let turns := List.replicate 3 (.move 0) ++ List.replicate 4 (.move 1) ++ List.replicate 2 (.move 2) ++ [.pass 1]
      ++ List.replicate 4 (.move 3) ++ [.move 2]
    w.Local {} {} ∧
      ∀ a ∈ [.get 1, .save { ann with name := "Anne" }, .deactivate 1],
      ∀ b ∈ [.save { ann with name := "Anna" }, .deactivate 1, .delete 1, .setPassword 1 password],
        let S := (beside s [.save ann, .setPassword 1 password, a, b] w).run turns
        S.ended = true ∧ ∃ u, S.world.cached? 1 = some u ∧ (S.world.user? 1).map User.withoutHash ≠ some u := by
  intro ann s w password turns
  refine ⟨⟨rfl, rfl, rfl⟩, fun a ha b hb => ?_⟩
  have hstale : ∀ a ∈ [.get 1, .save { ann with name := "Anne" }, .deactivate 1],
      ∀ b ∈ [.save { ann with name := "Anna" }, .deactivate 1, .delete 1, .setPassword 1 password],
        let S := (beside s [.save ann, .setPassword 1 password, a, b] w).run turns
        S.ended = true ∧ (S.world.cached? 1).isSome = true ∧
          (S.world.user? 1).map User.withoutHash ≠ S.world.cached? 1 := by
    decide +kernel
  obtain ⟨hend, hsome, hne⟩ := hstale a ha b hb
  obtain ⟨u, hu⟩ := Option.isSome_iff_exists.1 hsome
  exact ⟨hend, u, hu, hu ▸ hne⟩

end Operation

end Roster
