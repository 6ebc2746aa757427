import Roster.Proofs.Statuses

/-!
# The texts of failures

Operations of store and cache can be made to fail with a text. Services pass the fault of a store up and note the fault of a
cache in the log; whether a client is told about a fault depends on its kinds, and a text has none. Followed side by side in two
worlds where the same operations fail with other texts, a request makes the same calls, up to what it writes to the log.

Main statements: a call whose operation works is answered alike whatever else fails (`World.answer_withFailing`), and every
request goes side by side with itself where the texts differ (`Http.request_veiled`).
-/

namespace Roster

open Program

/-! ## Operations that fail -/

/-- The operation of store or cache that a call asks for. -/
def Call.point? : Call → Option Point
  | .findById _ => some .findById
  | .findByEmail _ => some .findByEmail
  | .save _ => some .save
  | .delete _ => some .delete
  | .findAll => some .findAll
  | .cacheGet _ => some .cacheGet
  | .cacheSet _ _ => some .cacheSet
  | .cacheRemove _ => some .cacheRemove
  | _ => none

/-- No operation fails a call that goes neither to the store nor to the cache. -/
theorem Call.Plain.point? {c : Call} (h : c.Plain) : c.point? = none := by
  obtain ⟨hstore, hcache⟩ := h
  cases c with
  | findById _ | findByEmail _ | save _ | delete _ | findAll => cases hstore
  | cacheGet _ | cacheSet _ _ | cacheRemove _ => cases hcache
  | _ => rfl

namespace World

variable {w w' : World} {c : Call}

/-- The operation that a call asks for has been made to fail. -/
def Fails (w : World) (c : Call) : Prop := ∃ p t, c.point? = some p ∧ w.failure? p = some t

/-- Which calls fail depends on the failing operations only. -/
theorem Fails.congr (h : w'.failing = w.failing) : w'.Fails c ↔ w.Fails c := by
  simp only [Fails, failure?, h]

/-- No program changes which operations fail. -/
theorem run_failing {α : Type} (w : World) (p : Act α) : (w.run p).2.failing = w.failing :=
  (only_true p).run_keeps (K := fun v => v.failing = w.failing) (fun c v _ hv => (answer_failing c v).trans hv) rfl

/-- A call that goes neither to the store nor to the cache is not made to fail. -/
theorem not_fails_of_plain (hc : c.Plain) : ¬w.Fails c := by
  rintro ⟨p, t, hp, -⟩
  rw [hc.point?] at hp
  cases hp

/-- A call that fails is answered with a fault that clients are not told about, and changes nothing. -/
theorem Fails.answer (h : w.Fails c) : ∃ f, f.telling = false ∧ c.failed f = some (World.answer c w).1 ∧ (World.answer c w).2 = w := by
  obtain ⟨p, t, hp, ht⟩ := h
  cases c with
  | findById _ | findByEmail _ | save _ | delete _ | findAll =>
    obtain rfl := Option.some.inj hp
    refine ⟨.store (.reported t), rfl, ?_⟩
    simp only [World.answer, onStore, ht]
    exact ⟨rfl, trivial⟩
  | cacheGet _ | cacheSet _ _ | cacheRemove _ =>
    obtain rfl := Option.some.inj hp
    refine ⟨.reported t, rfl, ?_⟩
    simp only [World.answer, onCache, ht]
    exact ⟨rfl, trivial⟩
  | _ => cases hp

section WithFailing

variable {F : List (Point × Text)}

/-- The world where other operations fail. -/
def withFailing (w : World) (F : List (Point × Text)) : World := { w with failing := F }

/-- A call of the store whose operation works in both worlds is carried out alike. -/
theorem onStore_withFailing {α : Type} {p : Point} (hw : w.failure? p = none) (hF : F.lookup p = none)
    {run run' : Storage → Except Fault α × World} (hrun : ∀ s, run' s = ((run s).1, (run s).2.withFailing F)) :
    (w.withFailing F).onStore p run' = ((w.onStore p run).1, (w.onStore p run).2.withFailing F) := by
  have hF' : (w.withFailing F).failure? p = none := hF
  simp only [onStore, hw, hF']
  exact hrun w.storage

/-- A call of the cache whose operation works in both worlds is carried out alike. -/
theorem onCache_withFailing {α : Type} {p : Point} (hw : w.failure? p = none) (hF : F.lookup p = none)
    (run : Caching → Except Fault α × Caching) :
    (w.withFailing F).onCache p run = ((w.onCache p run).1, (w.onCache p run).2.withFailing F) := by
  have hF' : (w.withFailing F).failure? p = none := hF
  simp only [onCache, hw, hF']
  rfl

/-- Waiting does not depend on what fails. -/
theorem wait_withFailing (d : Span) : (w.withFailing F).wait d = ((w.wait d).1, (w.wait d).2.withFailing F) := by
  have hpatience : (w.withFailing F).patience = w.patience := rfl
  have hdeadline : (w.withFailing F).deadline = w.deadline := rfl
  have hclock : (w.withFailing F).clock = w.clock := rfl
  simp only [wait, hpatience, hdeadline, hclock]
  split
  · rfl
  · split
    · split <;> rfl
    · rfl

/-- A call whose operation works is answered alike whatever else fails. -/
theorem answer_withFailing (hw : ¬w.Fails c) (hF : ¬(w.withFailing F).Fails c) :
    World.answer c (w.withFailing F) = ((World.answer c w).1, (World.answer c w).2.withFailing F) := by
  have hworks : ∀ {p}, c.point? = some p → w.failure? p = none ∧ F.lookup p = none := by
    intro p hp
    constructor
    · exact Option.eq_none_iff_forall_ne_some.mpr fun t ht => hw ⟨p, t, hp, ht⟩
    · exact Option.eq_none_iff_forall_ne_some.mpr fun t ht => hF ⟨p, t, hp, ht⟩
  cases c with
  | findById _ | findByEmail _ | save _ | delete _ | findAll =>
    obtain ⟨hw, hF⟩ := hworks rfl
    simp only [World.answer]
    refine onStore_withFailing hw hF fun s => ?_
    cases s <;> rfl
  | cacheGet _ | cacheSet _ _ | cacheRemove _ =>
    obtain ⟨hw, hF⟩ := hworks rfl
    simp only [World.answer]
    exact onCache_withFailing hw hF _
  | wait d => exact wait_withFailing d
  | mayTry client =>
    have hlimiter : (w.withFailing F).limiter = w.limiter := rfl
    simp only [World.answer, hlimiter]
    split <;> rfl
  | write piece =>
    have hleft : (w.withFailing F).writesLeft = w.writesLeft := rfl
    simp only [World.answer, write, hleft]
    split <;> rfl
  | _ => rfl

/-- A run that calls nothing that fails goes the same way whatever else fails. -/
theorem run_withFailing {α : Type} {p : Act α}
    (h : ¬Meets World.answer (fun c v => v.Fails c ∨ (v.withFailing F).Fails c) p w) :
    (w.withFailing F).run p = ((w.run p).1, (w.run p).2.withFailing F) := by
  unfold World.run
  induction p generalizing w with
  | done a => rfl
  | call c next ih =>
    obtain ⟨hc, hrest⟩ := not_or.mp h
    obtain ⟨hw, hF⟩ := not_or.mp hc
    rw [run_call, run_call, answer_withFailing hw hF]
    exact ih _ hrest

end WithFailing

end World

/-! ## Outcomes that clients cannot tell apart -/

/-- Two outcomes are the same, or faults that clients are not told about. -/
inductive Indistinct {α : Type} : Except Fault α → Except Fault α → Prop where
  | refl (x : Except Fault α) : Indistinct x x
  | untold {f f' : Fault} : f.telling = false → f'.telling = false → Indistinct (.error f) (.error f')

/-- What does not depend on which fault there is can be shown for faults and for values. -/
theorem Indistinct.fault_or_value {α : Type} {motive : (x y : Except Fault α) → Indistinct x y → Prop}
    (fault : ∀ f f' h, motive (.error f) (.error f') h) (value : ∀ a, motive (.ok a) (.ok a) (.refl _)) {x y : Except Fault α}
    (h : Indistinct x y) : motive x y h := by
  cases h with
  | untold _ _ => exact fault _ _ _
  | refl x =>
    cases x with
    | error f => exact fault f f _
    | ok a => exact value a

/-- Two answers to a call of store or cache are alike, and two answers to another call are the same. -/
def Call.Indistinct : (c : Call) → c.Answer → c.Answer → Prop
  | .findById _ | .findByEmail _ | .save _ | .delete _ | .findAll => Roster.Indistinct
  | .cacheGet _ | .cacheSet _ _ | .cacheRemove _ => Roster.Indistinct
  | .log _ | .now | .salt | .requestId | .wait _ | .pause _ | .patience | .mayTry _ | .write _ => Eq

/-- Every answer is indistinct from itself. -/
theorem Call.indistinct_refl (c : Call) (x : c.Answer) : c.Indistinct x x := by
  cases c with
  | findById _ | findByEmail _ | save _ | delete _ | findAll | cacheGet _ | cacheSet _ _ | cacheRemove _ => exact .refl x
  | _ => exact rfl

/-- Two failures of which nobody is told are indistinct. -/
theorem Call.indistinct_of_failed {c : Call} {x y : c.Answer} {f f' : Fault} (hx : c.failed f = some x) (hy : c.failed f' = some y)
    (hf : f.telling = false) (hf' : f'.telling = false) : c.Indistinct x y := by
  cases c with
  | findById _ | findByEmail _ | save _ | delete _ | findAll | cacheGet _ | cacheSet _ _ | cacheRemove _ =>
    obtain rfl := Option.some.inj hx
    obtain rfl := Option.some.inj hy
    exact .untold hf hf'
  | _ => cases hx

/-- Calls that are made side by side: the same ones, except that what is written to the log may differ. -/
inductive Call.Veiled : (c c' : Call) → (c.Answer → c'.Answer → Prop) → Prop where
  | same (c : Call) : Veiled c c c.Indistinct
  | log (e e' : Log.Entry) : Veiled (.log e) (.log e') fun _ _ => True

/-- A call that goes neither to the store nor to the cache is its own partner, with equal answers. -/
theorem Call.Plain.veiled {c : Call} (h : c.Plain) : Call.Veiled c c Eq := by
  obtain ⟨hstore, hcache⟩ := h
  cases c with
  | findById _ | findByEmail _ | save _ | delete _ | findAll => cases hstore
  | cacheGet _ | cacheSet _ _ | cacheRemove _ => cases hcache
  | _ => exact .same _

namespace World

/-- Two worlds where the same operations fail differ in the texts they fail with, and in the log. -/
def SameButTexts (w w' : World) : Prop :=
  ∃ failing entries, w' = { w with failing, entries } ∧ failing.map Prod.fst = w.failing.map Prod.fst

variable {w w' : World}

/-- Worlds that differ in the texts agree in all else. -/
theorem SameButTexts.body (h : w.SameButTexts w') : w'.body = w.body := by
  obtain ⟨F, l, rfl, -⟩ := h
  rfl

/-- Which calls fail does not depend on the texts. -/
theorem fails_iff {c : Call} : w.Fails c ↔ ∃ p, c.point? = some p ∧ p ∈ w.failing.map Prod.fst := by
  refine exists_congr fun p => ?_
  rw [exists_and_left, ← Option.isSome_iff_exists, failure?, List.lookup_isSome_iff, List.mem_map]
  exact and_congr_right fun _ => exists_congr fun e => and_congr_right fun _ => by rw [beq_iff_eq, eq_comm]

/-- A call that fails still fails where the same operations fail with other texts. -/
theorem fails_of_keys {c : Call} (h : w'.failing.map Prod.fst = w.failing.map Prod.fst) (hf : w.Fails c) : w'.Fails c := by
  rw [fails_iff] at hf ⊢
  rw [h]
  exact hf

/-- One pair of calls is answered as its relation says, and the worlds still differ in texts and log at most. -/
theorem answer_veiled {c c' : Call} {A : c.Answer → c'.Answer → Prop} (hc : Call.Veiled c c' A) (h : w.SameButTexts w') :
    A (answer c w).1 (answer c' w').1 ∧ (answer c w).2.SameButTexts (answer c' w').2 := by
  obtain ⟨F, l, rfl, hkeys⟩ := h
  cases hc with
  | log e e' => exact ⟨trivial, F, _, rfl, hkeys⟩
  | same =>
    by_cases hlog : ∃ e, c = .log e
    · obtain ⟨e, rfl⟩ := hlog
      exact ⟨rfl, F, _, rfl, hkeys⟩
    · by_cases hfails : w.Fails c
      · have hfails' : Fails { w with failing := F, entries := l } c := fails_of_keys hkeys hfails
        obtain ⟨f, hf, hx, hw⟩ := hfails.answer
        obtain ⟨f', hf', hy, hw'⟩ := hfails'.answer
        refine ⟨Call.indistinct_of_failed hx hy hf hf', ?_⟩
        rw [hw, hw']
        exact ⟨F, l, rfl, hkeys⟩
      · -- The log is exchanged first, then the texts.
        obtain ⟨hanswer, l', hl'⟩ := answer_log (w := w) ⟨l, rfl⟩ (not_exists.mp hlog)
        have hworks : ¬Fails { w with entries := l } c := hfails
        have hworks' : ¬(withFailing { w with entries := l } F).Fails c := fun hf => hfails (fails_of_keys hkeys.symm hf)
        have hstep := answer_withFailing hworks hworks'
        rw [show ({ w with failing := F, entries := l } : World) = withFailing { w with entries := l } F from rfl, hstep, ← hanswer,
          hl']
        refine ⟨c.indistinct_refl _, F, l', rfl, ?_⟩
        rw [answer_failing]
        exact hkeys

/-- Computations that go side by side end alike in worlds that differ in texts and log, and leave such worlds. -/
theorem run_veiled {α β : Type} {Q : α → β → Prop} {p : Act α} {q : Act β} (hp : Parallel Call.Veiled Q p q)
    (h : w.SameButTexts w') : Q (w.run p).1 (w'.run q).1 ∧ (w.run p).2.SameButTexts (w'.run q).2 := by
  have hstep : ∀ {c c' : Call} {A : c.Answer → c'.Answer → Prop}, Call.Veiled c c' A → ∀ {w w' : World}, w.SameButTexts w' →
      A (answer c w).1 (answer c' w').1 ∧ (answer c w).2.SameButTexts (answer c' w').2 := fun hc _ _ hw => answer_veiled hc hw
  exact hp.run hstep h

end World

/-! ## The services -/

section Services

variable {α β : Type}

/-- A program of plain calls goes side by side with itself, to the same value. -/
theorem veiled_of_plain {p : Act α} (h : Only Call.Plain p) : Parallel Call.Veiled Eq p p := h.parallel fun _ hc => hc.veiled

namespace Task

/-- A task that goes side by side with itself, to outcomes that clients cannot tell apart. -/
def Veiled (t : Task α) : Prop := Parallel Call.Veiled Indistinct t.run t.run

/-- A task that is a result already tells nothing of a text. -/
theorem Veiled.ofExcept (r : Except Fault α) : Veiled (Task.ofExcept r) := .done (.refl r)

/-- A program that goes side by side with itself does so as a task. -/
theorem Veiled.lift {p : Act α} (h : Parallel Call.Veiled Eq p p) : Veiled (liftM p : Task α) := by
  refine Parallel.bind h ?_
  rintro a _ rfl
  exact .done (.refl _)

/-- Two tasks in a row go side by side with themselves, if each of them does. -/
theorem Veiled.bind {t : Task α} {f : α → Task β} (ht : t.Veiled) (hf : ∀ a, (f a).Veiled) : (t >>= f).Veiled := by
  unfold Veiled
  rw [Task.run_bind]
  refine Parallel.bind ht fun x y hxy => ?_
  cases hxy with
  | untold hf hf' => exact .done (.untold hf hf')
  | refl x =>
    cases x with
    | error f => exact .done (.refl _)
    | ok a => exact hf a

/-- Saying what was being done adds no kind to a fault. -/
theorem Veiled.attempt {t : Task α} (ht : t.Veiled) (activity : Text) : (Task.attempt activity t).Veiled := by
  unfold Veiled
  rw [Task.run_attempt]
  refine Parallel.bind ht fun x y hxy => ?_
  cases hxy with
  | untold hf hf' => exact .done (.untold hf hf')
  | refl x =>
    cases x with
    | error f => exact .done (.refl _)
    | ok a => exact .done (.refl _)

theorem findById_veiled (id : UInt64) : (findById id).Veiled := .call (.same _) fun _ _ h => .done h

theorem findByEmail_veiled (email : Text) : (findByEmail email).Veiled := .call (.same _) fun _ _ h => .done h

theorem save_veiled (u : User) : (save u).Veiled := .call (.same _) fun _ _ h => .done h

theorem delete_veiled (id : UInt64) : (delete id).Veiled := .call (.same _) fun _ _ h => .done h

theorem findAll_veiled : findAll.Veiled := .call (.same _) fun _ _ h => .done h

/-- Whether a user was found does not depend on a text. -/
theorem require_veiled (id : UInt64) (o : Option User) : (require id o).Veiled := by
  cases o <;> exact .done (.refl _)

end Task

namespace Users

variable (cached : Bool)

/-- What fails in the cache is noted in the log, whatever it is. -/
theorem complain_veiled (activity : Text) (id : UInt64) (f f' : Fault) :
    Parallel Call.Veiled Eq (complain activity id f) (complain activity id f') := .call (.log _ _) fun _ _ _ => .done rfl

/-- Remembering goes on alike whether or how the cache fails. -/
theorem remember_veiled (u : User) : Parallel Call.Veiled Eq (remember cached u) (remember cached u) := by
  cases cached with
  | false => exact .done rfl
  | true =>
    refine .call (.same _) fun x y (hxy : Indistinct x y) => ?_
    cases hxy using Indistinct.fault_or_value with
    | fault f f' => exact complain_veiled _ _ f f'
    | value _ => exact .done rfl

/-- Forgetting goes on alike whether or how the cache fails. -/
theorem forget_veiled (id : UInt64) : Parallel Call.Veiled Eq (forget cached id) (forget cached id) := by
  cases cached with
  | false => exact .done rfl
  | true =>
    refine .call (.same _) fun x y (hxy : Indistinct x y) => ?_
    cases hxy using Indistinct.fault_or_value with
    | fault f f' => exact complain_veiled _ _ f f'
    | value _ => exact .done rfl

/-- A look-up in a cache that fails counts as a miss, whatever the text. -/
theorem lookUp_veiled (id : UInt64) : Parallel Call.Veiled Eq (lookUp cached id) (lookUp cached id) := by
  cases cached with
  | false => exact .done rfl
  | true =>
    rw [lookUp_true]
    refine .call (.same _) fun x y (hxy : Indistinct x y) => ?_
    cases hxy using Indistinct.fault_or_value with
    | fault f f' => exact (complain_veiled _ _ f f').bind fun _ _ _ => .done rfl
    | value o => exact .done rfl

/-- Getting a user shows nothing of a text. -/
theorem get_veiled (id : UInt64) : (get cached id).Veiled := by
  refine (Task.Veiled.lift (lookUp_veiled cached id)).bind fun o => ?_
  cases o with
  | some u => exact .done (.refl _)
  | none =>
    refine ((Task.findById_veiled id).attempt _).bind fun o => (Task.require_veiled id o).bind fun u => ?_
    exact (Task.Veiled.lift (remember_veiled cached u)).bind fun _ => .done (.refl _)

theorem list_veiled : list.Veiled := (Task.findAll_veiled.attempt _).bind fun _ => .done (.refl _)

/-- Listing and grouping show nothing of a text. -/
theorem groupByRole_veiled (activeOnly : Bool) : (groupByRole activeOnly).Veiled := list_veiled.bind fun _ => .ofExcept _

/-- Looking for the hash to keep shows nothing of a text. -/
theorem keepHash_veiled (u : User) : (keepHash u).Veiled := by
  unfold keepHash
  split
  · refine ((Task.findById_veiled _).attempt _).bind fun old => ?_
    cases old <;> exact .done (.refl _)
  · exact .done (.refl _)

/-- Saving shows nothing of a text. -/
theorem save_veiled (u : User) : (save cached u).Veiled := by
  refine (Task.Veiled.ofExcept _).bind fun _ => (keepHash_veiled u).bind fun u => ?_
  refine ((Task.save_veiled u).attempt _).bind fun u => ?_
  exact (Task.Veiled.lift (remember_veiled cached u)).bind fun _ => .done (.refl _)

/-- Deleting shows nothing of a text. -/
theorem delete_veiled (id : UInt64) : (delete cached id).Veiled :=
  (Task.delete_veiled id).bind fun _ => .lift (forget_veiled cached id)

/-- Deactivating shows nothing of a text. -/
theorem deactivate_veiled (id : UInt64) : (deactivate cached id).Veiled := by
  refine ((Task.findById_veiled id).attempt _).bind fun o => (Task.require_veiled id o).bind fun u => ?_
  refine ((Task.save_veiled _).attempt _).bind fun u => ?_
  exact (Task.Veiled.lift (remember_veiled cached u)).bind fun _ => .done (.refl _)

end Users

namespace SignIn

variable (s : SignIn)

/-- Setting a password shows nothing of a text. -/
theorem setPassword_veiled (id : UInt64) (password : Text) : (s.setPassword id password).Veiled := by
  unfold Task.Veiled
  rw [run_setPassword]
  split
  · exact .done (.refl _)
  · refine .call (.same _) fun x y hxy => ?_
    rcases hxy with (f | _ | u) | ⟨hf, hf'⟩
    · exact .done (.refl _)
    · exact .done (.refl _)
    · refine .call (.same _) ?_
      rintro salt _ rfl
      dsimp only
      cases s.passwords.hash salt password with
      | error f => exact .done (.refl _)
      | ok hash =>
        refine .call (.same _) fun x y hxy => ?_
        rcases hxy with (f | _) | ⟨hf, hf'⟩
        · exact .done (.refl _)
        · exact (Users.forget_veiled s.cached id).bind fun _ _ _ => .done (.refl _)
        · exact .done (.untold hf hf')
    · exact .done (.untold hf hf')

/-- The clock does not depend on what fails. -/
theorem now_veiled : Task.Veiled (liftM (Act.ask .now) : Task Timestamp) := by
  have hnow : Only Call.Plain (Act.ask .now) := ⟨⟨rfl, rfl⟩, fun _ => trivial⟩
  exact .lift (veiled_of_plain hnow)

/-- Signing in shows nothing of a text. -/
theorem login_veiled (email password : Text) : (s.login email password).Veiled := by
  refine ((Task.findByEmail_veiled email).attempt _).bind fun o => ?_
  cases o with
  | none => exact .done (.refl _)
  | some u =>
    dsimp only
    split
    · exact now_veiled.bind fun _ => .done (.refl _)
    · exact .done (.refl _)

/-- Validating a token shows nothing of a text. -/
theorem validate_veiled (token : Text) : (s.validate token).Veiled := by
  refine now_veiled.bind fun now => ?_
  cases s.identity? now token <;> exact .done (.refl _)

/-- Authenticating shows nothing of a text. -/
theorem authenticate_veiled (token : Text) : (s.authenticate token).Veiled := by
  refine (s.validate_veiled token).bind fun i => ((Task.findById_veiled i.id).attempt _).bind fun o => ?_
  cases o with
  | none => exact .done (.refl _)
  | some u =>
    dsimp only
    split <;> exact .done (.refl _)

end SignIn

namespace Batch

/-- Of two outcomes of one item, both are users and then the same one, or both are faults. -/
theorem outcome_veiled (id : UInt64) {t : Task User} (h : t.Veiled) :
    Parallel Call.Veiled (fun x y => x.toOption = y.toOption) (outcome id t) (outcome id t) := by
  refine Parallel.bind h fun x y hxy => ?_
  cases hxy using Indistinct.fault_or_value with
  | fault f f' => exact .call (.log _ _) fun _ _ _ => .done rfl
  | value u => exact .done rfl

/-- The outcomes of a batch are the same up to the faults among them. -/
theorem outcomes_veiled (f : Fetcher) (ids : List UInt64) :
    Parallel Call.Veiled (fun os os' => os.map Except.toOption = os'.map Except.toOption) (outcomes f ids) (outcomes f ids) := by
  cases f with
  | stored =>
    refine mapM_parallel Except.toOption (fun id => outcome_veiled id ?_) ids
    refine (Task.findById_veiled id).bind fun o => ?_
    cases o <;> exact .done (.refl _)
  | simulated delay =>
    refine .call (.same _) ?_
    rintro waited _ rfl
    exact mapM_parallel Except.toOption (fun id => outcome_veiled id (.ofExcept _)) ids

/-- Filling a slot depends on the user that came out, and not on the fault if none did. -/
theorem fill_congr {o o' : Except Fault User} (h : o.toOption = o'.toOption) (slots : List (Option User)) (i : Nat) :
    fill slots (i, o) = fill slots (i, o') := by
  cases o with
  | error f =>
    cases o' with
    | error f' => rfl
    | ok u => cases h
  | ok u =>
    cases o' with
    | error f' => cases h
    | ok u' =>
      obtain rfl := Option.some.inj h
      rfl

/-- Which slots are filled does not depend on why the others are not. -/
theorem settle_congr (n : Nat) {os os' : List (Except Fault User)} (h : os.map Except.toOption = os'.map Except.toOption) :
    settle n (placed os) = settle n (placed os') := by
  unfold settle placed
  generalize List.replicate n none = slots
  generalize 0 = i
  induction os generalizing os' slots i with
  | nil =>
    cases os' with
    | nil => rfl
    | cons o' os' => cases h
  | cons o os ih =>
    cases os' with
    | nil => cases h
    | cons o' os' =>
      obtain ⟨ho, hos⟩ := List.cons.inj h
      simp only [List.zipIdx_cons, List.map_cons, List.foldl_cons, fill_congr ho]
      exact ih hos _ _

/-- A batch shows nothing of a text: only users are gathered. -/
theorem run_veiled (f : Fetcher) (ids : List UInt64) : (run f ids).Veiled := by
  unfold Task.Veiled
  rw [run_run]
  split
  · exact .done (.refl _)
  · refine (outcomes_veiled f ids).bind fun os os' hos => .call (.same _) ?_
    rintro x _ rfl
    cases x with
    | error f => exact .done (.refl _)
    | ok _ =>
      dsimp only
      rw [settle_congr ids.length hos]
      exact .done (.refl _)

end Batch

end Services

/-! ## Requests -/

namespace Http

/-- Two faults of which clients are not told get the same answer. -/
theorem faultReply_veiled {f f' : Fault} (hf : f.telling = false) (hf' : f'.telling = false) (requestId activity : Text) :
    Parallel Call.Veiled Eq (faultReply requestId activity f) (faultReply requestId activity f') := by
  have hlast : ∀ {f : Fault}, f.telling = false → faultReply requestId activity f =
      (Act.log .error activity [("error", .fault f), ("request_id", .text requestId)]).bind fun _ =>
        jsonError 500 "An unexpected error occurred. Please try again." := by
    intro f h
    simp only [Fault.telling, Bool.or_eq_false_iff] at h
    obtain ⟨⟨⟨hinvalid, hfound⟩, hauthorized⟩, hforbidden⟩ := h
    simp only [faultReply, hinvalid, hfound, hauthorized, hforbidden, Bool.false_eq_true, if_false]
    rfl
  rw [hlast hf, hlast hf']
  exact .call (.log _ _) fun _ _ _ => veiled_of_plain (json_plain _ _)

/-- A task whose fault is answered with an error shows nothing of a text, if the task and what follows do not. -/
theorem orFault_veiled {α : Type} (v : Visit) (activity : Text) {t : Task α} {next : α → Act Reply} (ht : t.Veiled)
    (hn : ∀ a, Parallel Call.Veiled Eq (next a) (next a)) :
    Parallel Call.Veiled Eq (orFault v activity t next) (orFault v activity t next) := by
  refine Parallel.bind ht fun x y hxy => ?_
  rcases hxy with (f | a) | ⟨hf, hf'⟩
  · exact veiled_of_plain (faultReply_plain _ _ f)
  · exact hn a
  · exact faultReply_veiled hf hf' _ _

/-- What is made of the groups of the roster shows nothing of a text, if it does not look at the fault. -/
theorem rosterGroups_veiled {next : Except Fault Groups → Act Reply} (hplain : ∀ r, Only Call.Plain (next r))
    (hfault : ∀ f f', Parallel Call.Veiled Eq (next (.error f)) (next (.error f'))) :
    Parallel Call.Veiled Eq (rosterGroups.run.bind next) (rosterGroups.run.bind next) := by
  have hgroups : rosterGroups.Veiled := by
    refine Parallel.bind (Users.groupByRole_veiled false) fun x y hxy => ?_
    rcases hxy with (f | g) | ⟨hf, hf'⟩
    · exact .done (.refl _)
    · exact .done (.refl _)
    · have hkept : ∀ {f : Fault}, f.telling = false → f.has .invalidInput = false := fun h => by
        simpa [Fault.unpaged] using Fault.unpaged_of_untold h
      simp only [hkept hf, hkept hf', Bool.false_eq_true, if_false]
      exact .done (.untold hf hf')
  refine Parallel.bind hgroups fun x y hxy => ?_
  rcases hxy with x | ⟨hf, hf'⟩
  · exact veiled_of_plain (hplain x)
  · exact hfault _ _

/-- Every endpoint shows nothing of a text. -/
theorem serve_veiled (s : Site) (v : Visit) (e : Endpoint) : Parallel Call.Veiled Eq (e.serve s v) (e.serve s v) := by
  have hok : ∀ x, Parallel Call.Veiled Eq (json 200 x) (json 200 x) := fun x => veiled_of_plain (json_plain 200 x)
  cases e with
  | health | me => exact hok _
  | logout => exact .done rfl
  | login =>
    refine .call (.same _) ?_
    rintro admitted _ rfl
    cases admitted with
    | false => exact veiled_of_plain (json_plain _ _)
    | true =>
      refine orFault_veiled v _ (.ofExcept _) fun c => ?_
      refine orFault_veiled v _ (s.signIn.login_veiled c.email c.password) fun token => ?_
      refine orFault_veiled v _ (s.signIn.authenticate_veiled token) fun u => ?_
      refine (hok _).bind ?_
      rintro reply _ rfl
      exact .done rfl
  | listUsers => exact orFault_veiled v _ Users.list_veiled fun _ => hok _
  | usersByRole =>
    show Parallel _ _ (usersByRole v) (usersByRole v)
    unfold usersByRole
    dsimp only
    split
    · exact veiled_of_plain (json_plain _ _)
    · exact orFault_veiled v _ (Users.groupByRole_veiled _) fun _ => hok _
  | batch => exact orFault_veiled v _ (.ofExcept _) fun b => orFault_veiled v _ (Batch.run_veiled _ _) fun _ => hok _
  | getUser => exact orFault_veiled v _ (.ofExcept _) fun id => orFault_veiled v _ (Users.get_veiled s.cached id) fun _ => hok _
  | putUser =>
    refine orFault_veiled v _ (.ofExcept _) fun id => orFault_veiled v _ (.ofExcept _) fun b => ?_
    refine orFault_veiled v _ (.ofExcept _) fun role => ?_
    exact orFault_veiled v _ (Users.save_veiled s.cached _) fun _ => hok _
  | deleteUser =>
    exact orFault_veiled v _ (.ofExcept _) fun id => orFault_veiled v _ (Users.delete_veiled s.cached id) fun _ => .done rfl
  | deactivateUser =>
    exact orFault_veiled v _ (.ofExcept _) fun id => orFault_veiled v _ (Users.deactivate_veiled s.cached id) fun _ => hok _
  | setPassword =>
    refine orFault_veiled v _ (.ofExcept _) fun id => orFault_veiled v _ (.ofExcept _) fun b => ?_
    exact orFault_veiled v _ (s.signIn.setPassword_veiled id b.password) fun _ => .done rfl
  | describeRole => exact veiled_of_plain (describeRole_plain v)
  | counter => exact veiled_of_plain (counter_plain s v)
  | rosterPage =>
    show Parallel _ _ (rosterPage v) (rosterPage v)
    rw [rosterPage_eq]
    exact rosterGroups_veiled (showPage_plain _) fun f f' => .call (.log _ _) fun _ _ _ => veiled_of_plain (plainError_plain _ _)
  | rosterStream =>
    show Parallel _ _ (rosterStream s v) (rosterStream s v)
    rw [rosterStream_eq]
    exact rosterGroups_veiled (showStream_plain _ _) fun f f' => .call (.log _ _) fun _ _ _ => veiled_of_plain (plainError_plain _ _)

/-- The whole way of a request through the server shows nothing of a text. -/
theorem dispatch_veiled (s : Site) (r : Request) (requestId : Text) :
    Parallel Call.Veiled Eq (dispatch s r requestId) (dispatch s r requestId) := by
  cases hr : r.route? with
  | none => exact veiled_of_plain (dispatch_plain hr s requestId)
  | some route =>
    have hguard := s.signIn.authenticate_veiled (requestToken r)
    rw [dispatch_of_route hr]
    unfold Endpoint.serveGuarded
    split
    · exact serve_veiled s _ _
    · exact orFault_veiled _ _ hguard fun u => serve_veiled s _ _
    · refine orFault_veiled _ _ hguard fun u => ?_
      split
      · exact serve_veiled s _ _
      · exact veiled_of_plain (faultReply_plain _ _ _)

/-- A request is served alike whatever texts operations fail with. -/
theorem request_veiled (s : Site) (r : Request) : Parallel Call.Veiled Eq (serve s r) (serve s r) := by
  refine (veiled_of_plain (requestId_plain r)).bind ?_
  rintro id _ rfl
  refine .call (.same .now) ?_
  rintro start _ rfl
  refine (dispatch_veiled s r id).bind ?_
  rintro reply _ rfl
  refine .call (.same .now) ?_
  rintro done _ rfl
  exact .call (.same _) fun _ _ _ => .done rfl

end Http

end Roster
