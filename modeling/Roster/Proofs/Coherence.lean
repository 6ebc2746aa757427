import Roster.Proofs.Operations

/-!
# The cache agrees with the store

While operations follow one another, a cached user is always the stored one without its password hash, and nothing else is
cached. Saving and deactivating write the new record through to the cache, removing and setting a password drop it from the
cache, and in between the cache is out of step with the store for the one id that is being changed. `Tidy` names that id.
-/

namespace Roster

open Program

/-- The calls that may fail without harm: those of the store, and look-ups in the cache. -/
def Call.mayFail (c : Call) : Prop := c.toStore = true ∨ ∃ key, c = .cacheGet key

/-- Every cached user is the stored one without its hash, and is cached under its id; the id `dirty` may be out of step. -/
def Agrees (dirty : Option UInt64) (m : Store.Memory) (c : Cache.Local User) : Prop :=
  ∀ key u, c.get? key = some u →
    ∃ id, key = User.key id ∧ (dirty = some id ∨ ∃ v, m.find? id = some v ∧ u = v.withoutHash)

/-- A world with the given users in memory and a cache in the process that agrees with them, up to the id `dirty`. -/
structure World.Tidy (dirty : Option UInt64) (m : Store.Memory) (w : World) : Prop where
  storage : w.storage = .memory m
  failing : w.failing = []
  caching : ∃ c, w.caching = .inProcess c ∧ Agrees dirty m c

namespace Agrees

variable {dirty : Option UInt64} {m m' : Store.Memory} {c c' : Cache.Local User} {id : UInt64}

theorem empty (dirty : Option UInt64) (m : Store.Memory) : Agrees dirty m {} := by
  intro key u h
  cases h

/-- Entries may vanish. -/
theorem within (h : Agrees dirty m c) (hc : ∀ key u, c'.get? key = some u → c.get? key = some u) : Agrees dirty m c' :=
  fun key u hu => h key u (hc key u hu)

/-- A change to the record of one id puts that id out of step and no other. -/
theorem change (h : Agrees none m c) (hm : ∀ i, i ≠ id → m'.find? i = m.find? i) : Agrees (some id) m' c := by
  intro key u hu
  obtain ⟨i, rfl, hi | ⟨v, hv, rfl⟩⟩ := h key u hu
  · cases hi
  · refine ⟨i, rfl, ?_⟩
    by_cases e : i = id
    · exact Or.inl (congrArg some e.symm)
    · exact Or.inr ⟨v, (hm i e).trans hv, rfl⟩

/-- Dropping an id from the cache puts it in step. -/
theorem erase (h : Agrees dirty m c) (hd : dirty = none ∨ dirty = some id) : Agrees none m (c.erase (User.key id)) := by
  intro key u hu
  rw [Cache.Local.get?_erase] at hu
  split at hu
  · cases hu
  · rename_i hk
    obtain ⟨i, rfl, hi | hv⟩ := h key u hu
    · rcases hd with hd | hd
      · rw [hd] at hi; cases hi
      · exact absurd (congrArg User.key (Option.some.inj (hi.symm.trans hd))) hk
    · exact ⟨i, rfl, Or.inr hv⟩

/-- Caching the stored record without its hash puts its id in step. -/
theorem set (h : Agrees dirty m c) (hd : dirty = none ∨ dirty = some id) {v : User} (hv : m.find? id = some v) :
    Agrees none m (c.set (User.key id) v.withoutHash) := by
  intro key u hu
  rw [Cache.Local.get?_set] at hu
  split at hu
  · rename_i hk
    exact ⟨id, hk, Or.inr ⟨v, hv, (Option.some.inj hu).symm⟩⟩
  · rename_i hk
    have he := h.erase hd key u
    rw [Cache.Local.get?_erase, if_neg hk] at he
    exact he hu

end Agrees

namespace World

/-! ## One call -/

namespace Tidy

variable {dirty : Option UInt64} {m : Store.Memory} {w v : World}

/-- A cache stays in step while time passes and entries vanish from it. -/
theorem drift (h : Tidy dirty m w) (hd : w.Drifts v) : Tidy dirty m v := by
  obtain ⟨c, hc, ha⟩ := h.caching
  refine ⟨hd.storage.trans h.storage, hd.failing.trans h.failing, ?_⟩
  have hw := hd.caching
  rw [hc] at hw
  cases hv : v.caching with
  | inProcess c' =>
    rw [hv] at hw
    exact ⟨c', rfl, ha.within hw⟩
  | absent => rw [hv] at hw; cases hw
  | onServer r s => rw [hv] at hw; cases hw

theorem failure? (h : Tidy dirty m w) (p : Point) : w.failure? p = none := by
  rw [World.failure?, h.failing]
  rfl

/-- A call that changes neither store nor cache keeps the world tidy. -/
theorem answer_quiet (h : Tidy dirty m w) {c : Call} (hw : c.writes? = none) (hc : c.toCache = false) :
    Tidy dirty m (answer c w).2 := by
  obtain ⟨k, hk, ha⟩ := h.caching
  exact ⟨(answer_storage hw w).trans h.storage, (answer_failing c w).trans h.failing, k, (answer_caching hc w).trans hk, ha⟩

/-- However a call that changes neither store nor cache is answered, the world stays tidy. -/
theorem may_quiet (h : Tidy dirty m w) {c : Call} {x : c.Answer} (hw : c.writes? = none) (hc : c.toCache = false)
    (hm : May Call.mayFail c w x v) : Tidy dirty m v := by
  obtain ⟨t, hd, he | ⟨-, rfl, -⟩⟩ := hm
  · have := (h.drift hd).answer_quiet hw hc
    rwa [he] at this
  · exact h.drift hd

/-- A look-up in the store finds the stored record, or fails. -/
theorem may_findById (h : Tidy dirty m w) {id : UInt64} {o : Option User}
    (hm : May Call.mayFail (.findById id) w (.ok o) v) : o = m.find? id := by
  obtain ⟨t, hd, he | ⟨-, -, f, hf⟩⟩ := hm
  · have ht := h.drift hd
    rw [answer_findById ht.storage (ht.failure? _)] at he
    cases he
    rfl
  · cases hf

/-- Storing a user puts its id out of step, or fails and changes nothing. -/
theorem may_save (h : Tidy none m w) {u : User} {x : Except Fault User} (hm : May Call.mayFail (.save u) w x v) :
    (∃ f, x = .error f ∧ Tidy none m v) ∨
      ∃ now, x = .ok (m.save now u).1 ∧ Tidy (some u.id) (m.save now u).2 v := by
  obtain ⟨t, hd, he | ⟨-, rfl, f, hf⟩⟩ := hm
  · have ht := h.drift hd
    obtain ⟨c, hc, ha⟩ := ht.caching
    rw [answer_save ht.storage (ht.failure? _)] at he
    cases he
    refine Or.inr ⟨t.now, rfl, rfl, ht.failing, c, hc, ?_⟩
    exact ha.change fun i hi => m.find?_save_other _ u hi
  · exact Or.inl ⟨f, (Option.some.inj hf).symm, h.drift hd⟩

/-- Removing a user puts its id out of step, or fails and changes nothing. -/
theorem may_delete (h : Tidy none m w) {id : UInt64} {x : Except Fault Unit} (hm : May Call.mayFail (.delete id) w x v) :
    (∃ f, x = .error f ∧ Tidy none m v) ∨ x = .ok () ∧ ∃ m', Tidy (some id) m' v := by
  obtain ⟨t, hd, he | ⟨-, rfl, f, hf⟩⟩ := hm
  · have ht := h.drift hd
    obtain ⟨c, hc, ha⟩ := ht.caching
    rw [answer_delete ht.storage (ht.failure? _)] at he
    cases hs : m.find? id with
    | none =>
      rw [Store.Memory.delete_absent hs] at he
      cases he
      exact Or.inl ⟨_, rfl, rfl, ht.failing, c, hc, ha⟩
    | some u =>
      rw [Store.Memory.delete_stored hs] at he
      cases he
      refine Or.inr ⟨rfl, _, rfl, ht.failing, c, hc, ?_⟩
      exact ha.change fun i hi => m.find?_without id i hi
  · exact Or.inl ⟨f, (Option.some.inj hf).symm, h.drift hd⟩

/-- A look-up in the cache changes nothing. -/
theorem may_cacheGet (h : Tidy dirty m w) {key : Text} {x : Except Fault (Option User)}
    (hm : May Call.mayFail (.cacheGet key) w x v) : Tidy dirty m v := by
  obtain ⟨t, hd, he | ⟨-, rfl, -⟩⟩ := hm
  · have ht := h.drift hd
    obtain ⟨c, hc, -⟩ := ht.caching
    rw [answer_cacheGet hc (ht.failure? _)] at he
    cases he
    exact ht
  · exact h.drift hd

/-- Caching the stored record without its hash puts its id in step; it does not fail. -/
theorem may_cacheSet (h : Tidy dirty m w) {id : UInt64} (hd : dirty = none ∨ dirty = some id) {u : User}
    (hu : m.find? id = some u) {x : Except Fault Unit}
    (hm : May Call.mayFail (.cacheSet (User.key id) u.withoutHash) w x v) : x = .ok () ∧ Tidy none m v := by
  obtain ⟨t, hdr, he | ⟨hf, -, -⟩⟩ := hm
  · have ht := h.drift hdr
    obtain ⟨c, hc, ha⟩ := ht.caching
    rw [answer_cacheSet hc (ht.failure? _)] at he
    cases he
    exact ⟨rfl, ht.storage, ht.failing, _, rfl, ha.set hd hu⟩
  · rcases hf with hf | ⟨_, hf⟩ <;> cases hf

/-- Dropping an id from the cache puts it in step; it does not fail. -/
theorem may_cacheRemove (h : Tidy dirty m w) {id : UInt64} (hd : dirty = none ∨ dirty = some id)
    {x : Except Fault (Option User)} (hm : May Call.mayFail (.cacheRemove (User.key id)) w x v) :
    (∃ o, x = .ok o) ∧ Tidy none m v := by
  obtain ⟨t, hdr, he | ⟨hf, -, -⟩⟩ := hm
  · have ht := h.drift hdr
    obtain ⟨c, hc, ha⟩ := ht.caching
    rw [answer_cacheRemove hc (ht.failure? _)] at he
    cases he
    exact ⟨⟨_, rfl⟩, ht.storage, ht.failing, _, rfl, ha.erase hd⟩
  · rcases hf with hf | ⟨_, hf⟩ <;> cases hf

end Tidy

/-! ## One operation -/

/-- Some store in memory that the cache agrees with. -/
def Coherent (w : World) : Prop := ∃ m, Tidy none m w

/-- However the world behaves, a computation ends in a coherent state. -/
abbrev KeepsCoherent {α : Type} (p : Act α) (w : World) : Prop := Ensures (May Call.mayFail) p (fun _ v => Coherent v) w

variable {m : Store.Memory} {w : World} {dirty : Option UInt64}

/-- Remembering the stored user brings the cache back into step. -/
theorem remember_coherent (h : Tidy dirty m w) {u : User} (hd : dirty = none ∨ dirty = some u.id)
    (hu : m.find? u.id = some u) : KeepsCoherent (Users.remember true u) w := by
  intro x v hm
  obtain ⟨rfl, ht⟩ := h.may_cacheSet hd hu hm
  exact ⟨m, ht⟩

/-- Forgetting an id brings the cache back into step. -/
theorem forget_coherent (h : Tidy dirty m w) {id : UInt64} (hd : dirty = none ∨ dirty = some id) :
    KeepsCoherent (Users.forget true id) w := by
  intro x v hm
  obtain ⟨⟨o, rfl⟩, ht⟩ := h.may_cacheRemove hd hm
  exact ⟨m, ht⟩

/-- A look-up through the cache leaves the world tidy. -/
theorem lookUp_tidy (h : Tidy dirty m w) (id : UInt64) :
    Ensures (May Call.mayFail) (Users.lookUp true id) (fun _ v => Tidy dirty m v) w := by
  intro x v hm
  have ht := h.may_cacheGet hm
  cases x with
  | ok o => exact ht
  | error f => exact fun _ t hl => ht.may_quiet rfl rfl hl

/-- Getting a user keeps the cache in step: what it caches is what is stored. -/
theorem get_coherent (h : Coherent w) (id : UInt64) : KeepsCoherent (Users.get true id).run w := by
  obtain ⟨m, h⟩ := h
  rw [Users.run_get, KeepsCoherent, ensures_bind]
  refine (lookUp_tidy h id).mono fun o v ht => ?_
  cases o with
  | some u => exact ⟨m, ht⟩
  | none =>
    intro x t hm
    have ht' := ht.may_quiet rfl rfl hm
    rcases x with f | _ | u
    · exact ⟨m, ht'⟩
    · exact ⟨m, ht'⟩
    · have hu := ht.may_findById hm
      have hid := Store.Memory.id_of_find? hu.symm
      exact ensures_bind.mpr (remember_coherent ht' (Or.inl rfl) (hid ▸ hu.symm))

/-- Writing a record through: the cache is in step again when the stored record has been cached. -/
theorem store_coherent (h : Coherent w) (u : User) : KeepsCoherent (Users.store true u) w := by
  obtain ⟨m, h⟩ := h
  intro x v hm
  rcases h.may_save hm with ⟨f, rfl, ht⟩ | ⟨now, rfl, ht⟩
  · exact ⟨m, ht⟩
  · exact ensures_bind.mpr (remember_coherent ht (Or.inr rfl) (m.find?_save_self now u))

/-- A computation that calls neither store nor cache for a change keeps coherence. -/
theorem quiet_coherent {α : Type} {p : Act α} (hp : Only Call.Quiet p)
    (h : Coherent w) : KeepsCoherent p w := by
  induction p generalizing w with
  | done a => exact h
  | call c next ih =>
    obtain ⟨m, h⟩ := h
    exact fun x v hm => ih x (hp.2 x) ⟨m, h.may_quiet hp.1.1 (Call.toCache_of_idle hp.1.2) hm⟩

/-- Saving keeps the cache in step, through the moment between store and cache. -/
theorem save_coherent (h : Coherent w) (u : User) : KeepsCoherent (Users.save true u).run w := by
  rw [Users.run_save]
  split
  · exact h
  · refine ensures_bind.mpr ((quiet_coherent (Users.keepHash_quiet u) h).mono fun r v hv => ?_)
    cases r with
    | error f => exact hv
    | ok u' => exact store_coherent hv u'

/-- Deleting keeps the cache in step. -/
theorem delete_coherent (h : Coherent w) (id : UInt64) : KeepsCoherent (Users.delete true id).run w := by
  obtain ⟨m, h⟩ := h
  rw [Users.run_delete]
  intro x v hm
  rcases h.may_delete hm with ⟨f, rfl, ht⟩ | ⟨rfl, m', ht⟩
  · exact ⟨m, ht⟩
  · exact ensures_bind.mpr (forget_coherent ht (Or.inr rfl))

/-- Deactivating keeps the cache in step. -/
theorem deactivate_coherent (h : Coherent w) (id : UInt64) : KeepsCoherent (Users.deactivate true id).run w := by
  obtain ⟨m, h⟩ := h
  rw [Users.run_deactivate]
  intro x v hm
  have hv : Coherent v := ⟨m, h.may_quiet rfl rfl hm⟩
  rcases x with f | _ | u
  · exact hv
  · exact hv
  · exact store_coherent hv u.deactivate

/-- The record of the user changes between two look-ups of its id, and the cache drops it. -/
theorem setPassword_coherent (s : SignIn) (hs : s.cached = true) (h : Coherent w) (id : UInt64) (password : Text) :
    KeepsCoherent (s.setPassword id password).run w := by
  obtain ⟨m, h⟩ := h
  rw [SignIn.run_setPassword, hs]
  split
  · exact ⟨m, h⟩
  · intro x v hm
    have hv := h.may_quiet rfl rfl hm
    rcases x with f | _ | u
    · exact ⟨m, hv⟩
    · exact ⟨m, hv⟩
    · have hu := Store.Memory.id_of_find? (h.may_findById hm).symm
      intro salt t hm
      have ht := hv.may_quiet rfl rfl hm
      dsimp only
      split
      · exact ⟨m, ht⟩
      · rename_i hash _
        intro x t' hm
        rcases ht.may_save hm with ⟨f, rfl, ht'⟩ | ⟨now, rfl, ht'⟩
        · exact ⟨m, ht'⟩
        · exact ensures_bind.mpr (forget_coherent ht' (Or.inr (congrArg some hu)))

/-- Saving several users keeps the cache in step, one after the other. -/
theorem saveAll_coherent (h : Coherent w) (users : List User) : KeepsCoherent (Users.saveAll true users).run w := by
  induction users generalizing w with
  | nil => exact h
  | cons u rest ih =>
    rw [Users.run_saveAll_cons]
    refine ensures_bind.mpr ((save_coherent h u).mono fun r v hv => ?_)
    cases r with
    | error f => exact hv
    | ok _ => exact ih hv

/-- Seeding keeps the cache in step. -/
theorem seed_coherent (h : Coherent w) (users : List User) : KeepsCoherent (Users.seed true users).run w := by
  obtain ⟨m, h⟩ := h
  rw [Users.run_seed]
  intro x v hm
  have hv : Coherent v := ⟨m, h.may_quiet rfl rfl hm⟩
  cases x with
  | error f => exact hv
  | ok stored =>
    dsimp only
    split
    · refine ensures_bind.mpr ((saveAll_coherent hv users).mono fun r t ht => ?_)
      cases r <;> exact ht
    · exact hv

/-! ## Every operation, and every run -/

theorem map_coherent {α β : Type} (g : α → β) {t : Task α} (h : KeepsCoherent t.run w) : KeepsCoherent (g <$> t).run w := by
  rw [Task.run_map]
  exact ensures_bind.mpr h

/-- Every operation keeps the cache in step with the store, whatever fails on the way. -/
theorem operation_coherent (s : SignIn) (h : Coherent w) (o : Operation) :
    KeepsCoherent (o.task { s with cached := true } true).run w := by
  cases o with
  | get id => exact map_coherent _ (get_coherent h id)
  | save u => exact map_coherent _ (save_coherent h u)
  | delete id => exact map_coherent _ (delete_coherent h id)
  | deactivate id => exact map_coherent _ (deactivate_coherent h id)
  | seed users => exact map_coherent _ (seed_coherent h users)
  | setPassword id password => exact map_coherent _ (setPassword_coherent _ rfl h id password)
  | list => exact map_coherent _ (quiet_coherent Users.list_quiet h)
  | groupByRole activeOnly => exact map_coherent _ (quiet_coherent (Users.groupByRole_quiet activeOnly) h)
  | login email password => exact map_coherent _ (quiet_coherent (SignIn.login_quiet _ email password) h)
  | validate token => exact map_coherent _ (quiet_coherent (SignIn.validate_quiet _ token) h)
  | authenticate token => exact map_coherent _ (quiet_coherent (SignIn.authenticate_quiet _ token) h)

/-- Whatever is reached by operations has its cache in step. -/
theorem reachable_coherent {s : SignIn} (h : Reachable Call.mayFail s w) : Coherent w := by
  induction h with
  | start hs hc hf => exact ⟨{}, hs, hf, {}, hc, Agrees.empty _ _⟩
  | drift _ hd ih =>
    obtain ⟨m, h⟩ := ih
    exact ⟨m, h.drift hd⟩
  | operation o _ hr ih => exact (operation_coherent s ih o).of_runs hr

/-- Looking into a cache in the process leaves the world alone. -/
theorem run_lookUp {c : Cache.Local User} (hc : w.caching = .inProcess c) (hf : w.failure? .cacheGet = none)
    (id : UInt64) : Program.run answer (Users.lookUp true id) w = (c.get? (User.key id), w) := by
  rw [Users.lookUp_true, run_call, answer_cacheGet hc hf]
  rfl

/-- A look-up that the cache answers leaves the world alone. -/
theorem attempt_get_of_hit {c : Cache.Local User} (hc : w.caching = .inProcess c) (hf : w.failure? .cacheGet = none)
    {id : UInt64} {u : User} (hu : c.get? (User.key id) = some u) : w.attempt (Users.get true id) = (.ok u, w) := by
  rw [attempt, run, Users.run_get, run_bind, run_lookUp hc hf, hu]
  rfl

/-- Cache coherence over whole runs. From an empty store and an empty cache, whatever operations follow one another, whichever
calls of the store and look-ups in the cache fail, and whenever entries vanish from the cache: a user cached under an id is
the stored user with that id without its hash, nothing else is cached, and a look-up that the cache answers gives the stored
record without its hash. -/
theorem cache_holds_stored_users (s : SignIn) (w : World) (h : Reachable Call.mayFail s w) :
    ∃ m c, w.storage = .memory m ∧ w.caching = .inProcess c ∧
      (∀ id u, c.get? (User.key id) = some u → ∃ v, m.find? id = some v ∧ u = v.withoutHash) ∧
      (∀ key u, c.get? key = some u → ∃ id, key = User.key id) ∧
      (∀ id u, c.get? (User.key id) = some u →
        ∃ v, m.find? id = some v ∧ w.attempt (Users.get true id) = (.ok v.withoutHash, w)) := by
  obtain ⟨m, ht⟩ := reachable_coherent h
  obtain ⟨c, hc, ha⟩ := ht.caching
  have hit : ∀ id u, c.get? (User.key id) = some u → ∃ v, m.find? id = some v ∧ u = v.withoutHash := by
    intro id u hu
    obtain ⟨i, hk, hi | hv⟩ := ha _ _ hu
    · cases hi
    · exact User.key_injective hk ▸ hv
  refine ⟨m, c, ht.storage, hc, hit, ?_, ?_⟩
  · intro key u hu
    obtain ⟨i, hk, -⟩ := ha key u hu
    exact ⟨i, hk⟩
  · intro id u hu
    obtain ⟨v, hv, rfl⟩ := hit id u hu
    exact ⟨v, hv, attempt_get_of_hit hc (ht.failure? _) hu⟩

/-- A user saved with a hash and then deactivated is cached as stored, inactive and without the hash. -/
theorem cached_after_save_and_deactivate :
    ∃ w m c u v, Reachable Call.mayFail { secret := [], passwords := Password.salted 4, cached := true } w ∧
      w.storage = .memory m ∧ w.caching = .inProcess c ∧ c.get? (User.key 1) = some u ∧ m.find? 1 = some v ∧
      v.passwordHash = utf8 "hash" ∧ v.active = false ∧ u = v.withoutHash := by
  let s : SignIn := { secret := [], passwords := Password.salted 4, cached := true }
  let ann : User := { id := 1, name := "Ann", email := "ann@example.com", role := "viewer", passwordHash := "hash" }
  have h : Reachable Call.mayFail s { clock := 0 } := .start rfl rfl rfl
  have h₂ := (h.run (.save ann)).run (.deactivate 1)
  obtain ⟨m, c, hs, hc, hit, -, -⟩ := cache_holds_stored_users s _ h₂
  obtain ⟨u, hu⟩ : ∃ u, c.get? (User.key 1) = some u := by
    cases hc
    exact ⟨_, rfl⟩
  obtain ⟨v, hv, hvu⟩ := hit 1 u hu
  refine ⟨_, m, c, u, v, h₂, hs, hc, hu, hv, ?_, ?_, hvu⟩ <;> cases hs <;> cases hv <;> rfl

end World
end Roster
