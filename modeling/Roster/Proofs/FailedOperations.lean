import Roster.Proofs.Operations

/-!
# Failed operations change nothing

An operation makes several calls, and any call to the store or the cache may fail without effect. Every operation but the
seeding of a store changes a record or the cache only when nothing is left of it that can fail: `Echoes` says so of a program,
and also that the program fails exactly as a second one does, here the same operation without a cache. So an operation that
ends in an error has left users in memory and the cache as they were, and its error is one that can be met without a cache.
-/

namespace Roster

open Program

/-! ## Calls that fail -/

/-- The answer to a call says that it has failed. -/
def Call.Failed (c : Call) (x : c.Answer) : Prop := ∃ f, c.failed f = some x

/-- A call that looks into the cache or writes to the log. -/
def Call.Peeks : Call → Prop
  | .cacheGet _ | .log _ => True
  | _ => False

/-- A call that has failed and does not go to the cache goes to the store. -/
theorem Call.toStore_of_failed {c : Call} (hc : c.toCache = false) {x : c.Answer} (h : c.Failed x) : c.toStore = true := by
  obtain ⟨f, hf⟩ := h
  cases c with
  | findById _ | findByEmail _ | save _ | delete _ | findAll => rfl
  | cacheGet _ | cacheSet _ _ | cacheRemove _ => cases hc
  | _ => cases hf

/-- A call that changes a record does not go to the cache. -/
theorem Call.toCache_of_writes {c : Call} (h : c.writes?.isSome = true) : c.toCache = false := by
  cases c <;> first | rfl | cases h

namespace World

/-- What may happen to a world between two calls: anything, as long as nobody touches the store, the cache and what has been
made to fail. -/
structure Passes (w v : World) : Prop where
  storage : v.storage = w.storage
  caching : v.caching = w.caching
  failing : v.failing = w.failing

theorem Passes.refl (w : World) : w.Passes w := ⟨rfl, rfl, rfl⟩

theorem Passes.trans {w v u : World} (h : w.Passes v) (h' : v.Passes u) : w.Passes u :=
  ⟨h'.storage.trans h.storage, h'.caching.trans h.caching, h'.failing.trans h.failing⟩

/-- How a call may end in a shaky world. Something passes, and then the call is answered as the world answers it, or it fails
without effect, with one of the faults it can have. -/
def Shaky (faults : Call → Fault → Prop) (c : Call) (w : World) (x : c.Answer) (t : World) : Prop :=
  ∃ v, w.Passes v ∧ (answer c v = (x, t) ∨ t = v ∧ ∃ f, faults c f ∧ c.failed f = some x)

/-- A shaky world may also answer every call of a task as it would at rest. -/
theorem runs_attempt {α : Type} (faults : Call → Fault → Prop) (t : Task α) (w : World) :
    Runs (Shaky faults) t.run w (w.attempt t).1 (w.attempt t).2 :=
  runs_run (fun _ v => ⟨v, .refl v, .inl rfl⟩) t.run w

section Shaky

variable {faults : Call → Fault → Prop} {c : Call} {w t : World} {x : c.Answer}

/-- What may happen from a moment on may happen from an earlier one on. -/
theorem Shaky.earlier {w₀ : World} (hw : w₀.Passes w) (h : Shaky faults c w x t) : Shaky faults c w₀ x t := by
  obtain ⟨v, hv, h⟩ := h
  exact ⟨v, hw.trans hv, h⟩

/-- Of calls that do not go to the cache, those to the store alone fail. -/
theorem Shaky.store_only (h : Shaky faults c w x t) (hc : c.toCache = false) :
    Shaky (fun c f => c.toStore = true ∧ faults c f) c w x t := by
  obtain ⟨v, hv, h | ⟨ht, f, hf, hx⟩⟩ := h
  · exact ⟨v, hv, .inl h⟩
  · exact ⟨v, hv, .inr ⟨ht, f, ⟨Call.toStore_of_failed hc ⟨f, hx⟩, hf⟩, hx⟩⟩

/-- To show that nothing but time passes at a call, it is enough to look at the answer of the world. -/
theorem Shaky.passes (h : Shaky faults c w x t) (hanswer : ∀ v, v.storage = w.storage → answer c v = (x, t) → v.Passes t) :
    w.Passes t := by
  obtain ⟨v, hv, h | ⟨rfl, -⟩⟩ := h
  · exact hv.trans (hanswer v hv.storage h)
  · exact hv

/-- A call that neither changes a record nor the cache lets things pass. -/
theorem passes_of_reads {v : World} (hc : c.writes? = none) (hcache : (answer c v).2.caching = v.caching) :
    v.Passes (answer c v).2 :=
  ⟨answer_storage hc v, hcache, answer_failing c v⟩

/-- A quiet call only lets things pass, whatever comes of it. -/
theorem Shaky.passes_of_quiet (h : Shaky faults c w x t) (hc : c.Quiet) : w.Passes t := by
  refine h.passes fun v _ hv => ?_
  have hkept := passes_of_reads hc.1 (answer_caching (Call.toCache_of_idle hc.2) v)
  rwa [hv] at hkept

/-- Looking into a cache leaves it as it is, wherever it is kept. -/
theorem caching_cacheGet (key : Text) (v : World) : (answer (.cacheGet key) v).2.caching = v.caching := by
  simp only [answer, onCache]
  split
  · rfl
  · cases v.caching <;> rfl

/-- A look into the cache or a note in the log only lets things pass. -/
theorem Shaky.passes_of_peeks (h : Shaky faults c w x t) (hc : c.Peeks) : w.Passes t := by
  refine h.passes fun v _ hv => ?_
  have hkept : v.Passes (answer c v).2 := by
    cases c with
    | cacheGet key => exact passes_of_reads rfl (caching_cacheGet key v)
    | log e => exact passes_of_reads rfl rfl
    | _ => exact hc.elim
  rwa [hv] at hkept

/-- A call that is to change a record of users in memory and fails has changed nothing. -/
theorem Shaky.passes_of_failed (h : Shaky faults c w x t) {m : Store.Memory} (hs : w.storage = .memory m)
    (hc : c.writes?.isSome = true) (hx : c.Failed x) : w.Passes t := by
  obtain ⟨f, hf⟩ := hx
  refine h.passes fun v hv hanswer => ?_
  rw [hs] at hv
  cases c with
  | save u =>
    obtain rfl := Option.some.inj hf
    simp only [answer, onStore, hv] at hanswer
    split at hanswer
    · obtain ⟨-, rfl⟩ := Prod.mk.inj hanswer
      exact .refl v
    · cases hanswer
  | delete id =>
    obtain rfl := Option.some.inj hf
    simp only [answer, onStore, hv] at hanswer
    split at hanswer
    · obtain ⟨-, rfl⟩ := Prod.mk.inj hanswer
      exact .refl v
    · obtain ⟨hfault, rfl⟩ := Prod.mk.inj hanswer
      -- only a record that is not there cannot be removed
      have hkept : (m.delete id).2 = m := by
        unfold Store.Memory.delete at hfault ⊢
        split at hfault
        · cases hfault
        · rfl
      exact ⟨by rw [hv, hkept], rfl, rfl⟩
  | _ => cases hc

end Shaky

end World

/-! ## Programs that fail alike -/

section Echoes

variable {α β : Type}

/-- Whenever the first program ends in an error, the second one ends in the same error after the same answers, and up to there
the first one has changed neither a record nor the cache: its calls besides those of the second one look into the cache or
write to the log, and after a call that has changed something it can only succeed. -/
inductive Echoes : Act (Except Fault α) → Act (Except Fault α) → Prop where
  | success {p q : Act (Except Fault α)} : Ends (fun r => r.isOk = true) p → Echoes p q
  | fault (e : Fault) : Echoes (.done (.error e)) (.done (.error e))
  | ask {c : Call} {next next' : c.Answer → Act (Except Fault α)} :
      c.Quiet → (∀ x, Echoes (next x) (next' x)) → Echoes (.call c next) (.call c next')
  | change {c : Call} {next next' : c.Answer → Act (Except Fault α)} : c.writes?.isSome = true →
      (∀ x, c.Failed x → Echoes (next x) (next' x)) → (∀ x, ¬c.Failed x → Ends (fun r => r.isOk = true) (next x)) →
      Echoes (.call c next) (.call c next')
  | look {c : Call} {next : c.Answer → Act (Except Fault α)} {q : Act (Except Fault α)} :
      c.Peeks → (∀ x, Echoes (next x) q) → Echoes (.call c next) q

theorem Echoes.refl_done (r : Except Fault α) : Echoes (.done r) (.done r) := by
  cases r with
  | error e => exact .fault e
  | ok a => exact .success rfl

/-- After calls that change nothing, programs fail alike if their rests do. -/
theorem Echoes.bind_quiet {p : Act β} (hp : Only Call.Quiet p) {f g : β → Act (Except Fault α)}
    (h : ∀ b, Echoes (f b) (g b)) : Echoes (p.bind f) (p.bind g) := by
  induction p with
  | done b => exact h b
  | call c next ih => exact .ask hp.1 fun x => ih x (hp.2 x)

/-- A quiet program fails as it does. -/
theorem Echoes.of_quiet {p : Act (Except Fault α)} (hp : Only Call.Quiet p) : Echoes p p := by
  have h : Echoes (p.bind .done) (p.bind .done) := bind_quiet hp refl_done
  rwa [bind_done] at h

/-- Saving a user as the last call that can fail. -/
theorem Echoes.save {u : User} {next next' : Except Fault User → Act (Except Fault α)}
    (hfault : ∀ e, Echoes (next (.error e)) (next' (.error e))) (hok : ∀ v, Ends (fun r => r.isOk = true) (next (.ok v))) :
    Echoes (.call (.save u) next) (.call (.save u) next') := by
  refine .change rfl (fun r hr => ?_) fun r hr => ?_
  · obtain ⟨e, he⟩ := hr
    obtain rfl := Option.some.inj he
    exact hfault e
  · cases r with
    | error e => exact absurd ⟨e, rfl⟩ hr
    | ok v => exact hok v

/-- Naming the value of a task does not change how it fails. -/
theorem Echoes.task_map {t t' : Task α} (h : Echoes t.run t'.run) (g : α → β) : Echoes (g <$> t).run (g <$> t').run := by
  have hok : ∀ p : Act (Except Fault α), Ends (fun r => r.isOk = true) p →
      Ends (fun r => r.isOk = true) (p.bind fun r => .done (r.map g)) := by
    intro p hp
    induction p with
    | done r =>
      cases r with
      | error e => cases hp
      | ok a => rfl
    | call c next ih => exact fun x => ih x (hp x)
  rw [Task.run_map, Task.run_map]
  generalize t.run = p at h ⊢
  generalize t'.run = q at h ⊢
  induction h with
  | success hp => exact .success (hok _ hp)
  | fault e => exact .fault e
  | ask hc _ ih => exact .ask hc ih
  | change hc _ hdone ih => exact .change hc ih fun x hx => hok _ (hdone x hx)
  | look hc _ ih => exact .look hc ih

/-- A run over users in memory that ends in an error: store and cache are as they were, and the second program can end in that
error where calls to the store alone fail, also when it has started earlier. -/
theorem Echoes.of_runs {p q : Act (Except Fault α)} (h : Echoes p q) {faults : Call → Fault → Prop} {w v : World}
    {m : Store.Memory} (hs : w.storage = .memory m) {e : Fault} (hr : Runs (World.Shaky faults) p w (.error e) v) :
    w.Passes v ∧ ∀ w₀ : World, w₀.Passes w →
      ∃ v', Runs (World.Shaky fun c f => c.toStore = true ∧ faults c f) q w₀ (.error e) v' := by
  induction h generalizing w with
  | success hp => cases (hp.ensures w).of_runs hr
  | fault e =>
    cases hr
    exact ⟨.refl _, fun w₀ _ => ⟨w₀, .done _ w₀⟩⟩
  | ask hc _ ih =>
    obtain _ | ⟨hcall, hrest⟩ := hr
    have hkept := hcall.passes_of_quiet hc
    obtain ⟨hend, hsecond⟩ := ih _ (hkept.storage.trans hs) hrest
    refine ⟨hkept.trans hend, fun w₀ hw => ?_⟩
    obtain ⟨v', hv'⟩ := hsecond _ (.refl _)
    exact ⟨v', .call ((hcall.store_only (Call.toCache_of_idle hc.2)).earlier hw) hv'⟩
  | @change c _ _ hc _ hdone ih =>
    obtain _ | @⟨_, _, _, _, _, x, _, hcall, hrest⟩ := hr
    by_cases hx : c.Failed x
    · have hkept := hcall.passes_of_failed hs hc hx
      obtain ⟨hend, hsecond⟩ := ih _ hx (hkept.storage.trans hs) hrest
      refine ⟨hkept.trans hend, fun w₀ hw => ?_⟩
      obtain ⟨v', hv'⟩ := hsecond _ (.refl _)
      exact ⟨v', .call ((hcall.store_only (Call.toCache_of_writes hc)).earlier hw) hv'⟩
    · cases ((hdone x hx).ensures _).of_runs hrest
  | look hc _ ih =>
    obtain _ | ⟨hcall, hrest⟩ := hr
    have hkept := hcall.passes_of_peeks hc
    obtain ⟨hend, hsecond⟩ := ih _ (hkept.storage.trans hs) hrest
    exact ⟨hkept.trans hend, fun w₀ hw => hsecond w₀ (hw.trans hkept)⟩

end Echoes

/-! ## The operations -/

namespace Users

variable (cached : Bool)

/-- Looking into the cache changes nothing, and what comes after a hit does not fail. -/
theorem lookUp_echoes (id : UInt64) {α : Type} {f g : Option User → Act (Except Fault α)}
    (hhit : ∀ u, Ends (fun r => r.isOk = true) (f (some u))) (hmiss : Echoes (f none) (g none)) :
    Echoes ((lookUp cached id).bind f) ((lookUp false id).bind g) := by
  cases cached with
  | false => exact hmiss
  | true =>
    rw [lookUp_true]
    refine .look trivial fun r => ?_
    rcases r with e | _ | u
    · exact .look trivial fun _ => hmiss
    · exact hmiss
    · exact .success (hhit u)

/-- Getting a user fails as it does without a cache. -/
theorem get_echoes (id : UInt64) : Echoes (get cached id).run (get false id).run := by
  rw [run_get, run_get]
  refine lookUp_echoes cached id (fun u => rfl) (.ask ⟨rfl, rfl⟩ fun r => ?_)
  rcases r with e | _ | u
  · exact .fault _
  · exact .fault _
  · exact .success (Ends.bind _ fun _ => rfl)

/-- Storing a user fails as it does without a cache. -/
theorem store_echoes (u : User) : Echoes (store cached u) (store false u) :=
  .save (fun _ => .fault _) fun _ => Ends.bind _ fun _ => rfl

/-- Saving a user fails as it does without a cache. -/
theorem save_echoes (u : User) : Echoes (save cached u).run (save false u).run := by
  rw [run_save, run_save]
  split
  · exact .fault _
  · refine .bind_quiet (keepHash_quiet u) fun r => ?_
    cases r with
    | error e => exact .fault e
    | ok v => exact store_echoes cached v

/-- Deleting a user fails as it does without a cache. -/
theorem delete_echoes (id : UInt64) : Echoes (delete cached id).run (delete false id).run := by
  rw [run_delete, run_delete]
  refine .change rfl (fun r hr => ?_) fun r hr => ?_
  · obtain ⟨e, he⟩ := hr
    obtain rfl := Option.some.inj he
    exact .fault _
  · cases r with
    | error e => exact absurd ⟨e, rfl⟩ hr
    | ok _ => exact Ends.bind _ fun _ => rfl

/-- Deactivating a user fails as it does without a cache. -/
theorem deactivate_echoes (id : UInt64) : Echoes (deactivate cached id).run (deactivate false id).run := by
  rw [run_deactivate, run_deactivate]
  refine .ask ⟨rfl, rfl⟩ fun r => ?_
  rcases r with e | _ | u
  · exact .fault _
  · exact .fault _
  · exact store_echoes cached u.deactivate

end Users

/-- Setting a password fails as it does without a cache. -/
theorem SignIn.setPassword_echoes (s : SignIn) (id : UInt64) (password : Text) :
    Echoes (s.setPassword id password).run (SignIn.setPassword { s with cached := false } id password).run := by
  rw [run_setPassword, run_setPassword]
  split
  · exact .fault _
  · refine .ask ⟨rfl, rfl⟩ fun r => ?_
    rcases r with e | _ | u
    · exact .fault _
    · exact .fault _
    · refine .ask ⟨rfl, rfl⟩ fun salt => ?_
      dsimp only
      split
      · exact .fault _
      · exact .save (fun _ => .fault _) fun _ => Ends.bind _ fun _ => rfl

/-- Every operation but the seeding of a store fails as it does without a cache, and changes nothing before it does. -/
theorem Operation.task_echoes (s : SignIn) (cached : Bool) {o : Operation} (ho : ∀ us, o ≠ .seed us) :
    Echoes (o.task s cached).run (o.task { s with cached := false } false).run := by
  cases o with
  | get id => exact (Users.get_echoes cached id).task_map _
  | list => exact (Echoes.of_quiet Users.list_quiet).task_map _
  | save u => exact (Users.save_echoes cached u).task_map _
  | delete id => exact (Users.delete_echoes cached id).task_map _
  | deactivate id => exact (Users.deactivate_echoes cached id).task_map _
  | groupByRole b => exact (Echoes.of_quiet (Users.groupByRole_quiet b)).task_map _
  | seed us => exact absurd rfl (ho us)
  | setPassword id password => exact (s.setPassword_echoes id password).task_map _
  | login email password => exact (Echoes.of_quiet (s.login_quiet email password)).task_map _
  | validate token => exact (Echoes.of_quiet (s.validate_quiet token)).task_map _
  | authenticate token => exact (Echoes.of_quiet (s.authenticate_quiet token)).task_map _

namespace World

/-- Whatever fails during an operation over users in memory, and however the cache is kept: an operation that ends in an error
has left store and cache as they were. And the same error can be met by services without a cache, where calls to the store
fail as before and nothing else does, so it is none of the cache. Seeding is left out: it stores one user after the other. -/
theorem failed_operation_changes_nothing (s : SignIn) (cached : Bool) (faults : Call → Fault → Prop) {o : Operation}
    (ho : ∀ us, o ≠ .seed us) {w v : World} {m : Store.Memory} (hs : w.storage = .memory m) {e : Fault}
    (hr : Runs (Shaky faults) (o.task s cached).run w (.error e) v) :
    v.storage = w.storage ∧ v.caching = w.caching ∧
      ∃ v', Runs (Shaky fun c f => c.toStore = true ∧ faults c f) (o.task { s with cached := false } false).run w (.error e)
        v' := by
  obtain ⟨hkept, hsecond⟩ := (Operation.task_echoes s cached ho).of_runs hs hr
  exact ⟨hkept.storage, hkept.caching, hsecond w (.refl w)⟩

/-- Ann is stored and cached, but both looking into the cache and finding users fail: a look-up ends with what the store says,
after a complaint about the cache in the log, and store and cache are as they were. -/
theorem failed_look_up_changes_nothing :
    let ann : User := { id := 1, name := "Ann", email := "ann@example.com", role := "viewer" }
    let s : SignIn := { secret := [], passwords := Password.salted 4, cached := true }
    let w : World :=
      { clock := 0, storage := .memory ⟨[ann]⟩, caching := .inProcess (({} : Cache.Local User).set (User.key 1) ann)
        failing := [(.findById, "disk full"), (.cacheGet, "no connection")] }
    let r := w.attempt ((Operation.get 1).task s true)
    let e := Fault.during "find user" (.store (.reported "disk full"))
    r.1 = .error e ∧ r.2.entries.length = 1 ∧ r.2.storage = w.storage ∧ r.2.caching = w.caching ∧
      ∃ v, Runs (Shaky fun c _ => c.toStore = true ∧ False) ((Operation.get 1).task { s with cached := false } false).run w
        (.error e) v := by
  intro ann s w r e
  have herror : r.1 = .error e := rfl
  have hr : Runs (Shaky fun _ _ => False) ((Operation.get 1).task s true).run w r.1 r.2 := runs_attempt _ _ w
  rw [herror] at hr
  exact ⟨herror, rfl, failed_operation_changes_nothing s true (fun _ _ => False) (o := .get 1) nofun (m := ⟨[ann]⟩) rfl hr⟩

end World

end Roster
