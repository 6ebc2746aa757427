import Roster.Proofs.Operations

/-!
# The cache is never trusted

Two runs of the same operations over the same store, with two caches that may answer anything: the store goes through the
same states, and every operation but the look-up of a single user answers alike. The reason is in the programs: besides that
look-up, no operation goes on differently after an answer of the cache, so its calls to cache and log can be shed
(`Program.Sheds`) and what is left is the operation without a cache. The cache that a world has is among these caches
(`Scene.run_own`).
-/

namespace Roster

open Program

/-- A cache that may do anything: it answers each call from a state of its own and from whatever it sees of the world, the time
and the patience of the caller among it, with any value or fault. -/
structure AnyCache (κ : Type) where
  get : Text → World → κ → Except Fault (Option User) × κ
  set : Text → User → World → κ → Except Fault Unit × κ
  remove : Text → World → κ → Except Fault (Option User) × κ

/-- A world whose calls to the cache go elsewhere, and the states its store has gone through, the latest first. -/
structure Scene (κ : Type) where
  world : World
  cache : κ
  states : List Storage := []

namespace Scene

variable {κ κ' : Type}

/-- Answers a call: the cache if it goes to the cache, else the world. Each call that may change a record adds a state. -/
def answer (b : AnyCache κ) : (c : Call) → Scene κ → c.Answer × Scene κ
  | .cacheGet key, s => ((b.get key s.world s.cache).1, { s with cache := (b.get key s.world s.cache).2 })
  | .cacheSet key u, s => ((b.set key u s.world s.cache).1, { s with cache := (b.set key u s.world s.cache).2 })
  | .cacheRemove key, s => ((b.remove key s.world s.cache).1, { s with cache := (b.remove key s.world s.cache).2 })
  | c, s =>
    let (x, w) := World.answer c s.world
    (x, { s with world := w, states := if c.writes?.isSome then w.storage :: s.states else s.states })

/-- Carries out operations one after the other, each after a span of time. -/
def play (b : AnyCache κ) (s : SignIn) (cached : Bool) :
    List (Span × Operation) → Scene κ → List (Except Fault Outcome) × Scene κ
  | [], t => ([], t)
  | (d, o) :: rest, t =>
    let (r, t) := Program.run (answer b) (o.task s cached).run { t with world := t.world.advance d }
    let (rs, t) := play b s cached rest t
    (r :: rs, t)

/-- A call that does not go to the cache is answered by the world, whatever the cache. -/
theorem answer_world (b : AnyCache κ) {c : Call} (hc : c.toCache = false) (t : Scene κ) :
    answer b c t = ((World.answer c t.world).1,
      { t with
        world := (World.answer c t.world).2
        states := if c.writes?.isSome then (World.answer c t.world).2.storage :: t.states else t.states }) := by
  cases c <;> first | rfl | cases hc

/-! ## A world's own cache -/

/-- The cache that a world has, failures included, taken out of it. -/
def own : AnyCache Caching where
  get key w k := (World.answer (.cacheGet key) { w with caching := k }).map id World.caching
  set key u w k := (World.answer (.cacheSet key u) { w with caching := k }).map id World.caching
  remove key w k := (World.answer (.cacheRemove key) { w with caching := k }).map id World.caching

/-- Puts the cache back. -/
def joined (t : Scene Caching) : World := { t.world with caching := t.cache }

/-- With its own cache, a scene answers as the world with that cache does. -/
theorem answer_own (c : Call) (t : Scene Caching) :
    ((answer own c t).1, (answer own c t).2.joined) = World.answer c t.joined := by
  obtain ⟨⟨clock, storage, _, limiter, failing, canceled, deadline, _, _, _, writesLeft, _⟩, k, _⟩ := t
  cases c with
  | findById _ | findByEmail _ | save _ | delete _ | findAll =>
    cases storage <;> (simp only [answer, World.answer, joined, World.onStore, World.failure?]; split <;> rfl)
  | cacheGet _ | cacheSet _ _ | cacheRemove _ =>
    cases k <;> (simp only [answer, own, World.answer, joined, World.onCache, World.failure?]; split <;> rfl)
  | wait d =>
    cases canceled with
    | true => rfl
    | false =>
      cases deadline with
      | none => rfl
      | some t =>
        simp only [answer, World.answer, joined, World.wait, World.patience, Bool.false_eq_true, if_false]
        by_cases hpast : t ≤ clock
        · simp only [hpast, if_true]
        · simp only [hpast, if_false]
          by_cases hlate : t < clock + max d 0 <;> simp only [hlate, if_true, if_false] <;> rfl
  | mayTry client => cases limiter <;> rfl
  | write piece => rcases writesLeft with _ | _ | n <;> rfl
  | log _ | now | salt | requestId | pause _ | patience => rfl

/-- With its own cache taken out and put back, a world runs every program as it does. -/
theorem run_own {α : Type} (p : Act α) (t : Scene Caching) :
    ((Program.run (answer own) p t).1, (Program.run (answer own) p t).2.joined) = t.joined.run p := by
  induction p generalizing t with
  | done a => rfl
  | call c next ih =>
    rw [World.run, run_call, run_call, ← answer_own c t]
    exact ih _ _

/-! ## Scenes that differ in cache and log -/

/-- Two scenes with the same world, up to log entries, whose stores have gone through the same states. -/
def Alike (t : Scene κ) (t' : Scene κ') : Prop := t.world.SameButLog t'.world ∧ t.states = t'.states

theorem Alike.symm {t : Scene κ} {t' : Scene κ'} (h : Alike t t') : Alike t' t := ⟨h.1.symm, h.2.symm⟩

/-- Scenes that are alike to a third one are alike. -/
theorem Alike.trans {κ'' : Type} {t : Scene κ} {t' : Scene κ'} {t'' : Scene κ''} (h : Alike t t') (h' : Alike t' t'') :
    Alike t t'' :=
  ⟨h.1.trans h'.1, h.2.trans h'.2⟩

/-- A call to the cache or the log leaves a scene alike. -/
theorem answer_idle (b : AnyCache κ) {c : Call} (hc : c.idle = true) (t : Scene κ) : Alike t (answer b c t).2 := by
  cases c with
  | cacheGet _ | cacheSet _ _ | cacheRemove _ => exact ⟨.refl _, rfl⟩
  | log e => exact ⟨⟨_, rfl⟩, rfl⟩
  | _ => cases hc

/-- Any other call is answered alike in scenes that are alike, and leaves them alike. -/
theorem answer_alike (b : AnyCache κ) (b' : AnyCache κ') {c : Call} (hc : c.idle = false) {t : Scene κ} {t' : Scene κ'}
    (h : Alike t t') : (answer b c t).1 = (answer b' c t').1 ∧ Alike (answer b c t).2 (answer b' c t').2 := by
  have hlog : ∀ e, c ≠ .log e := by
    rintro e rfl
    cases hc
  obtain ⟨h1, h2⟩ := World.answer_log h.1 hlog
  rw [answer_world b (Call.toCache_of_idle hc), answer_world b' (Call.toCache_of_idle hc)]
  refine ⟨h1, h2, ?_⟩
  obtain ⟨l, hl⟩ := h2
  have hst : (World.answer c t.world).2.storage = (World.answer c t'.world).2.storage := by rw [hl]
  simp only [hst, h.2]

/-- What a program answers, and what it does to world and store, does not depend on its idle calls and their answers. -/
theorem run_alike {α : Type} (b : AnyCache κ) (b' : AnyCache κ') {p q : Act α} (hp : Sheds Call.Idle p q) {t : Scene κ}
    {t' : Scene κ'} (h : Alike t t') :
    (Program.run (answer b) p t).1 = (Program.run (answer b') q t').1 ∧
      Alike (Program.run (answer b) p t).2 (Program.run (answer b') q t').2 := by
  induction hp generalizing t t' with
  | done a => exact ⟨rfl, h⟩
  | keep hc _ ih =>
    obtain ⟨h1, h2⟩ := answer_alike b b' (Bool.not_eq_true _ ▸ hc) h
    rw [run_call, run_call, h1]
    exact ih _ h2
  | skip hc _ ih => exact ih _ ((answer_idle b hc t).symm.trans h)

end Scene

/-! ## The operations without their cache -/

/-- Remembering differs from doing nothing in calls of cache and log. -/
theorem Users.remember_sheds (cached : Bool) (u : User) : Sheds Call.Idle (remember cached u) (remember false u) := by
  cases cached with
  | false => exact .done ()
  | true =>
    refine .skip rfl fun r => ?_
    cases r with
    | ok _ => exact .done ()
    | error f => exact .skip rfl fun _ => .done ()

/-- Forgetting differs from doing nothing in calls of cache and log. -/
theorem Users.forget_sheds (cached : Bool) (id : UInt64) : Sheds Call.Idle (forget cached id) (forget false id) := by
  cases cached with
  | false => exact .done ()
  | true =>
    refine .skip rfl fun r => ?_
    cases r with
    | ok _ => exact .done ()
    | error f => exact .skip rfl fun _ => .done ()

/-- Storing with a cache differs from storing without one in calls of cache and log. -/
theorem Users.store_sheds (cached : Bool) (u : User) : Sheds Call.Idle (store cached u) (store false u) := by
  refine .keep Bool.false_ne_true fun r => ?_
  cases r with
  | error f => exact .done _
  | ok v => exact (remember_sheds cached v).bind fun _ => .done _

/-- A quiet program has no idle calls to shed. -/
theorem sheds_of_quiet {α : Type} {p : Act α} (h : Only Call.Quiet p) : Sheds Call.Idle p p :=
  (h.mono fun _ hc => Bool.not_eq_true _ ▸ hc.2).sheds

/-- Saving with a cache differs from saving without one in calls of cache and log. -/
theorem Users.save_sheds (cached : Bool) (u : User) : Sheds Call.Idle (save cached u).run (save false u).run := by
  rw [run_save, run_save]
  split
  · exact .done _
  · refine (sheds_of_quiet (keepHash_quiet u)).bind fun r => ?_
    cases r with
    | error f => exact .done _
    | ok v => exact store_sheds cached v

/-- Deleting with a cache differs from deleting without one in calls of cache and log. -/
theorem Users.delete_sheds (cached : Bool) (id : UInt64) : Sheds Call.Idle (delete cached id).run (delete false id).run := by
  rw [run_delete, run_delete]
  refine .keep Bool.false_ne_true fun r => ?_
  cases r with
  | error f => exact .done _
  | ok _ => exact (forget_sheds cached id).bind fun _ => .done _

/-- Deactivating with a cache differs from deactivating without one in calls of cache and log. -/
theorem Users.deactivate_sheds (cached : Bool) (id : UInt64) :
    Sheds Call.Idle (deactivate cached id).run (deactivate false id).run := by
  rw [run_deactivate, run_deactivate]
  refine .keep Bool.false_ne_true fun r => ?_
  rcases r with f | _ | u
  · exact .done _
  · exact .done _
  · exact store_sheds cached u.deactivate

/-- Saving several users with a cache differs from doing so without one in calls of cache and log. -/
theorem Users.saveAll_sheds (cached : Bool) (users : List User) :
    Sheds Call.Idle (saveAll cached users).run (saveAll false users).run := by
  induction users with
  | nil => exact .done _
  | cons u rest ih =>
    rw [run_saveAll_cons, run_saveAll_cons]
    refine (save_sheds cached u).bind fun r => ?_
    cases r with
    | error f => exact .done _
    | ok _ => exact ih

/-- Seeding with a cache differs from seeding without one in calls of cache and log. -/
theorem Users.seed_sheds (cached : Bool) (users : List User) :
    Sheds Call.Idle (seed cached users).run (seed false users).run := by
  rw [run_seed, run_seed]
  refine .keep Bool.false_ne_true fun r => ?_
  cases r with
  | error f => exact .done _
  | ok stored =>
    dsimp only
    split
    · refine (saveAll_sheds cached users).bind fun r => ?_
      cases r <;> exact .done _
    · exact .done _

/-- Setting a password with a cache differs from doing so without one in calls of cache and log. -/
theorem SignIn.setPassword_sheds (s : SignIn) (id : UInt64) (password : Text) :
    Sheds Call.Idle (s.setPassword id password).run (SignIn.setPassword { s with cached := false } id password).run := by
  rw [run_setPassword, run_setPassword]
  split
  · exact .done _
  · refine .keep Bool.false_ne_true fun r => ?_
    rcases r with f | _ | u
    · exact .done _
    · exact .done _
    · refine .keep Bool.false_ne_true fun salt => ?_
      dsimp only
      split
      · exact .done _
      · refine .keep Bool.false_ne_true fun r => ?_
        cases r with
        | error f => exact .done _
        | ok _ => exact (Users.forget_sheds s.cached id).bind fun _ => .done _

/-- Two tasks that differ in idle calls still do when their values are mapped. -/
theorem Sheds.task_map {α β : Type} {t t' : Task α} (h : Sheds Call.Idle t.run t'.run) (g : α → β) :
    Sheds Call.Idle (g <$> t).run (g <$> t').run := by
  rw [Task.run_map, Task.run_map]
  exact h.bind fun _ => .done _

/-- Every operation but the look-up of a single user becomes, without its calls to cache and log, the operation of services
that have no cache. -/
theorem Operation.task_sheds (s : SignIn) (cached : Bool) {o : Operation} (ho : ∀ id, o ≠ .get id) :
    Sheds Call.Idle (o.task s cached).run (o.task { s with cached := false } false).run := by
  cases o with
  | get id => exact absurd rfl (ho id)
  | list => exact Sheds.task_map (sheds_of_quiet Users.list_quiet) _
  | save u => exact Sheds.task_map (Users.save_sheds cached u) _
  | delete id => exact Sheds.task_map (Users.delete_sheds cached id) _
  | deactivate id => exact Sheds.task_map (Users.deactivate_sheds cached id) _
  | groupByRole b => exact Sheds.task_map (sheds_of_quiet (Users.groupByRole_quiet b)) _
  | seed users => exact Sheds.task_map (Users.seed_sheds cached users) _
  | setPassword id password => exact Sheds.task_map (s.setPassword_sheds id password) _
  | login email password => exact Sheds.task_map (sheds_of_quiet (s.login_quiet email password)) _
  | validate token => exact Sheds.task_map (sheds_of_quiet (s.validate_quiet token)) _
  | authenticate token => exact Sheds.task_map (sheds_of_quiet (s.authenticate_quiet token)) _

/-! ## The look-up of a single user -/

/-- What a look-up answers, from what the store has. -/
def Users.found (id : UInt64) : Except Fault (Option User) → Except Fault User
  | .error f => .error (.during "find user" f)
  | .ok none => .error (.userAbsent id)
  | .ok (some u) => .ok u

/-- A look-up answers from the cache if that has a user, else from the store, whoever answers its calls. -/
theorem Users.get_answer {σ : Type} (ans : (c : Call) → σ → c.Answer × σ) (cached : Bool) (id : UInt64) (t : σ) :
    (Program.run ans (get cached id).run t).1 =
      match (Program.run ans (lookUp cached id) t).1 with
      | some u => .ok u
      | none => found id (ans (.findById id) (Program.run ans (lookUp cached id) t).2).1 := by
  rw [run_get, run_bind]
  cases (Program.run ans (lookUp cached id) t).1 with
  | some u => rfl
  | none =>
    dsimp only
    rw [run_call]
    generalize ans (.findById id) (Program.run ans (lookUp cached id) t).2 = r
    obtain ⟨_ | _ | u, t'⟩ := r
    · rfl
    · rfl
    · dsimp only
      rw [run_bind]
      rfl

namespace Scene

variable {κ κ' : Type}

/-- Looking a user up leaves a scene alike, whether or not the cache has the answer. -/
theorem get_alike (b : AnyCache κ) (s : SignIn) (cached : Bool) (id : UInt64) (t : Scene κ) :
    Alike t (Program.run (answer b) ((Operation.get id).task s cached).run t).2 := by
  rw [Operation.task, Task.run_map, run_bind]
  refine (Users.get_looksUp cached id).run_keeps (K := Alike t) ?_ ⟨.refl _, rfl⟩
  rintro c t' (hc | ⟨i, rfl⟩) h
  · exact h.trans (answer_idle b hc t')
  · exact h.trans ⟨World.findById_log t'.world i, rfl⟩

/-- Operations carried out one after the other, with whatever caches, keep alike scenes alike, and each of them but the
look-up of a single user answers alike. -/
theorem play_alike (b : AnyCache κ) (b' : AnyCache κ') (s : SignIn) (a a' cached cached' : Bool)
    (calls : List (Span × Operation)) {t : Scene κ} {t' : Scene κ'} (h : Alike t t') :
    Alike (play b { s with cached := a } cached calls t).2 (play b' { s with cached := a' } cached' calls t').2 ∧
      ∀ (i : Nat) (d : Span) (o : Operation), calls[i]? = some (d, o) → (∀ id, o ≠ .get id) →
        ∃ x, (play b { s with cached := a } cached calls t).1[i]? = some x ∧
          (play b' { s with cached := a' } cached' calls t').1[i]? = some x := by
  induction calls generalizing t t' with
  | nil => exact ⟨h, fun i d o hi => by simp at hi⟩
  | cons call rest ih =>
    obtain ⟨d, o⟩ := call
    have h₁ : Alike { t with world := t.world.advance d } { t' with world := t'.world.advance d } :=
      ⟨h.1.advance d, h.2⟩
    -- Where the two runs stand after the first operation, and what it has answered.
    have hstep : Alike
        (Program.run (answer b) (o.task { s with cached := a } cached).run { t with world := t.world.advance d }).2
        (Program.run (answer b') (o.task { s with cached := a' } cached').run { t' with world := t'.world.advance d }).2 ∧
        ((∀ id, o ≠ .get id) →
          (Program.run (answer b) (o.task { s with cached := a } cached).run { t with world := t.world.advance d }).1 =
          (Program.run (answer b') (o.task { s with cached := a' } cached').run
            { t' with world := t'.world.advance d }).1) := by
      by_cases ho : ∀ id, o ≠ .get id
      · obtain ⟨e₁, k₁⟩ := run_alike b b' (Operation.task_sheds { s with cached := a } cached ho) h₁
        obtain ⟨e₂, k₂⟩ := run_alike b' b' (Operation.task_sheds { s with cached := a' } cached' ho) ⟨.refl _, rfl⟩
        exact ⟨k₁.trans k₂.symm, fun _ => e₁.trans e₂.symm⟩
      · obtain ⟨id, rfl⟩ : ∃ id, o = .get id := by simpa using ho
        exact ⟨(get_alike b _ cached id _).symm.trans (h₁.trans (get_alike b' _ cached' id _)), fun hn => absurd hn ho⟩
    obtain ⟨hrest, hans⟩ := ih hstep.1
    refine ⟨hrest, ?_⟩
    intro i d' o' hi ho'
    cases i with
    | zero =>
      obtain ⟨rfl, rfl⟩ : d = d' ∧ o = o' := by simpa using hi
      exact ⟨_, rfl, congrArg some (hstep.2 ho').symm⟩
    | succ i => exact hans i d' o' (by simpa using hi) ho'

/-- A look-up that the cache does not answer finds nothing there. -/
theorem lookUp_of_miss (b : AnyCache κ) {t : Scene κ} {id : UInt64}
    (h : ∀ u, (b.get (User.key id) t.world t.cache).1 ≠ .ok (some u)) :
    (Program.run (answer b) (Users.lookUp true id) t).1 = none := by
  have h' : ∀ u, (answer b (.cacheGet (User.key id)) t).1 ≠ .ok (some u) := h
  rw [Users.lookUp_true, run_call]
  generalize (answer b (.cacheGet (User.key id)) t).1 = r at h'
  rcases r with f | _ | u
  · rfl
  · rfl
  · exact absurd rfl (h' u)

/-- A user that the cache does not answer for is looked up as without a cache. -/
theorem get_of_miss (b : AnyCache κ) {t : Scene κ} {id : UInt64}
    (h : ∀ u, (b.get (User.key id) t.world t.cache).1 ≠ .ok (some u)) :
    (Program.run (answer b) (Users.get true id).run t).1 = (t.world.attempt (Users.get false id)).1 := by
  have hkeep : Alike t (Program.run (answer b) (Users.lookUp true id) t).2 :=
    (Users.lookUp_idle true id).run_keeps (K := Alike t) (fun c t' hc h' => h'.trans (answer_idle b hc t')) ⟨.refl _, rfl⟩
  have hfind := (World.answer_log hkeep.1 (c := .findById id) nofun).1
  rw [World.attempt, World.run, Users.get_answer, Users.get_answer, lookUp_of_miss b h]
  exact congrArg (Users.found id) hfind.symm

/-- Two runs of the same operations from the same world, with two caches that may answer anything, or with none: the store
goes through the same states, and every operation but the look-up of a single user answers alike. And such a look-up, where
the cache misses or fails, answers as without a cache. -/
theorem cache_never_trusted (b : AnyCache κ) (b' : AnyCache κ') (k : κ) (k' : κ') (s : SignIn) (a a' cached cached' : Bool)
    (w : World) (calls : List (Span × Operation)) :
    (let r := play b { s with cached := a } cached calls { world := w, cache := k }
     let r' := play b' { s with cached := a' } cached' calls { world := w, cache := k' }
     r.2.states = r'.2.states ∧ r.2.world.storage = r'.2.world.storage ∧
       ∀ (i : Nat) (d : Span) (o : Operation), calls[i]? = some (d, o) → (∀ id, o ≠ .get id) →
         ∃ x, r.1[i]? = some x ∧ r'.1[i]? = some x) ∧
    ∀ (t : Scene κ) (id : UInt64), (∀ u, (b.get (User.key id) t.world t.cache).1 ≠ .ok (some u)) →
      (Program.run (answer b) (Users.get true id).run t).1 = (t.world.attempt (Users.get false id)).1 := by
  have h : Alike ({ world := w, cache := k } : Scene κ) ({ world := w, cache := k' } : Scene κ') := ⟨.refl w, rfl⟩
  obtain ⟨⟨⟨l, hl⟩, hstates⟩, hans⟩ := play_alike b b' s a a' cached cached' calls h
  exact ⟨⟨hstates, by rw [hl], hans⟩, fun t id h => get_of_miss b h⟩

/-- A cache that fails at every call, beside one that answers every look-up with the same user: saving, deactivating and
saving again without a hash take the store through the same three states, although the look-ups in between differ. -/
theorem broken_and_stubborn_caches_agree :
    let ann : User := { id := 1, name := "Ann", email := "ann@example.com", role := "viewer", passwordHash := "hash" }
    let calls : List (Span × Operation) :=
      [(0, .save ann), (0, .get 1), (5, .deactivate 1), (0, .save { ann with passwordHash := [] })]
    let broken : AnyCache Unit :=
      { get := fun _ _ k => (.error .canceled, k), set := fun _ _ _ k => (.error .canceled, k),
        remove := fun _ _ k => (.error .canceled, k) }
    let stubborn : AnyCache Unit :=
      { get := fun _ _ k => (.ok (some { ann with role := "admin" }), k), set := fun _ _ _ k => (.ok (), k),
        remove := fun _ _ k => (.ok none, k) }
    let s : SignIn := { secret := [], passwords := Password.salted 4, cached := true }
    let r := play broken s true calls { world := { clock := 0 }, cache := () }
    let r' := play stubborn { s with cached := false } true calls { world := { clock := 0 }, cache := () }
    r.2.states = r'.2.states ∧ r.2.states.length = 3 ∧ r.1[1]? ≠ r'.1[1]? ∧ (∃ x, r.1[3]? = some x ∧ r'.1[3]? = some x) ∧
      (Program.run (answer broken) (Users.get true 1).run r.2).1 = (r.2.world.attempt (Users.get false 1)).1 := by
  intro ann calls broken stubborn s r r'
  obtain ⟨⟨hstates, -, hans⟩, hmiss⟩ := cache_never_trusted broken stubborn () () s true false true true { clock := 0 } calls
  refine ⟨hstates, rfl, ?_, hans 3 0 _ rfl nofun, hmiss _ 1 nofun⟩
  intro h
  have hrole : ann.role = utf8 "admin" := by
    injection h with h
    injection h with h
    injection h with h
    exact congrArg User.role h
  exact absurd hrole (by decide)

end Scene
end Roster
