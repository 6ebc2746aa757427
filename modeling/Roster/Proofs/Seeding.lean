import Roster.Proofs.Frames

/-!
# Seeding a store

Seeding saves users one after the other into a store that it has found empty, up to the first save that fails. What has been
saved by then stays, and since a store is only seeded when it is empty, nothing comes of seeding it again.

Any call to the store may fail, and a call that fails may have been carried out nevertheless (`Lossy`). Main statement: what can
come of seeding, for every store, list of users and pattern of failures; and the lists of which one can trust that something has
been stored exactly if seeding says so and nothing if it fails.
-/

namespace Roster

open Program

/-! ## Calls whose answers may be lost -/

namespace World

/-- How a call may end when answers may be lost. Something passes, and then the call is answered as the world answers it, or
else it is reported as failed. A call that is reported as failed has had no effect, or, if that may happen `late`, all of it. -/
def Lossy (late : Prop) (c : Call) (w : World) (x : c.Answer) (t : World) : Prop :=
  ∃ v, w.Passes v ∧ (answer c v = (x, t) ∨ c.Failed x ∧ (t = v ∨ late ∧ t = (answer c v).2))

theorem findAll_settles (w : World) : w.Settles (answer .findAll w) (answer .findAll w.calm) := by
  refine onStore_settles ?_
  cases hs : w.storage with
  | memory m => exact .inl ⟨rfl, rfl⟩
  | database db => exact script_settles hs fun e he => ⟨_, run_query_refused he _ _ _ _⟩


section Lossy

variable {late : Prop} {w t : World} {f : Register}

theorem Lossy.answered (late : Prop) (c : Call) (w : World) : Lossy late c w (answer c w).1 (answer c w).2 :=
  ⟨w, .refl w, .inl rfl⟩

theorem Lossy.storage_of_reads {c : Call} {x : c.Answer} (h : Lossy late c w x t) (hc : c.Reads) : t.storage = w.storage := by
  obtain ⟨v, hv, hanswer | ⟨-, rfl | ⟨-, rfl⟩⟩⟩ := h
  · have hsame := answer_storage hc v
    rw [hanswer] at hsame
    exact hsame.trans hv.storage
  · exact hv.storage
  · exact (answer_storage hc v).trans hv.storage

/-- A listing has the records of the register, or fails. -/
theorem Lossy.findAll {x : Except Fault (List User)} (h : Lossy late .findAll w x t) (hf : w.storage.Holds f) :
    (∃ us, x = .ok us ∧ Lists us f) ∨ ∃ e, x = .error e := by
  obtain ⟨v, hv, hanswer | ⟨⟨e, he⟩, -⟩⟩ := h
  · obtain ⟨hsame, -⟩ | ⟨hfails, -⟩ := v.findAll_settles
    · obtain ⟨us, hus, hlists⟩ := (keeps_calm (hv.storage ▸ hf)).findAll
      rw [hus, hanswer] at hsame
      exact .inl ⟨us, hsame, hlists⟩
    · rw [hanswer] at hfails
      exact .inr hfails
  · exact .inr ⟨e, (Option.some.inj he).symm⟩

/-- A look-up finds what the register says, or fails. -/
theorem Lossy.findById {id : UInt64} {x : Except Fault (Option User)} (h : Lossy late (.findById id) w x t)
    (hf : w.storage.Holds f) : x = .ok (f id) ∨ ∃ e, x = .error e := by
  obtain ⟨v, hv, hanswer | ⟨⟨e, he⟩, -⟩⟩ := h
  · have hfound := findById_outcome (hv.storage ▸ hf) id
    rw [hanswer] at hfound
    exact hfound
  · exact .inr ⟨e, (Option.some.inj he).symm⟩

/-- A user is stored with its times, or not. If that is reported as failed, it is stored only where it may be so late. -/
theorem Lossy.save {u : User} {x : Except Fault User} (h : Lossy late (.save u) w x t) (hf : w.storage.Holds f) :
    (∃ a, x = .ok a) ∧ (∃ now, t.storage.Holds (f.put (f.stamped now u))) ∨
      (∃ e, x = .error e) ∧ (t.storage.Holds f ∨ late ∧ ∃ now, t.storage.Holds (f.put (f.stamped now u))) := by
  obtain ⟨v, hv, hanswer⟩ := h
  have hholds : v.storage.Holds f := hv.storage ▸ hf
  have houtcome := save_outcome hholds u
  obtain hanswer | ⟨⟨e, he⟩, ht⟩ := hanswer
  · rw [hanswer] at houtcome
    obtain ⟨hx, hstored⟩ | ⟨hx, hsame⟩ := houtcome
    · exact .inl ⟨⟨_, hx⟩, _, hstored⟩
    · exact .inr ⟨hx, .inl (hsame ▸ hholds)⟩
  · refine .inr ⟨⟨e, (Option.some.inj he).symm⟩, ?_⟩
    obtain rfl | ⟨hlate, rfl⟩ := ht
    · exact .inl hholds
    · obtain ⟨-, hstored⟩ | ⟨-, hsame⟩ := houtcome
      · exact .inr ⟨hlate, _, hstored⟩
      · exact .inl (hsame ▸ hholds)

end Lossy

end World

/-- A store holds one register. -/
theorem Storage.Holds.unique {st : Storage} {f g : Register} (hf : st.Holds f) (hg : st.Holds g) : f = g := by
  funext id
  have hfound := (World.keeps_calm (w := { clock := 0, storage := st }) hf).findById id
  rw [(World.keeps_calm (w := { clock := 0, storage := st }) hg).findById id] at hfound
  exact (Except.ok.inj hfound).symm

/-! ## Saving one user -/

namespace Users

/-- A user as it is to be stored: one that comes without a password hash has that of the record it replaces. -/
def inherited (f : Register) (u : User) : User := if u.passwordHash.isEmpty then withHashOf u (f u.id) else u

theorem id_inherited (f : Register) (u : User) : (inherited f u).id = u.id := by
  unfold inherited
  split
  · exact id_withHashOf u (f u.id)
  · rfl

/-- The register after a user has been saved at a moment. -/
def entered (f : Register) (now : Timestamp) (u : User) : Register := f.put (f.stamped now (inherited f u))

theorem entered_self (f : Register) (now : Timestamp) (u : User) : (entered f now u u.id).isSome = true := by
  have hself := f.put_self (f.stamped now (inherited f u))
  have hid : (f.stamped now (inherited f u)).id = u.id := id_inherited f u
  rw [hid] at hself
  rw [entered, hself]
  rfl

theorem entered_isSome {f : Register} {id : UInt64} (h : (f id).isSome = true) (now : Timestamp) (u : User) :
    (entered f now u id).isSome = true := by
  by_cases hid : id = u.id
  · rw [hid]
    exact entered_self f now u
  · have hne : id ≠ (f.stamped now (inherited f u)).id := fun heq => hid (heq.trans (id_inherited f u))
    rw [entered, f.put_of_ne hne]
    exact h

variable (cached : Bool) {late : Prop} {w : World} {f : Register}

/-- The hash is looked up, or that fails. -/
theorem keepHash_ensures (u : User) (h : w.storage.Holds f) :
    Ensures (World.Lossy late) (keepHash u).run
      (fun r v => (r = .ok (inherited f u) ∨ ∃ e, r = .error e) ∧ v.storage.Holds f) w := by
  rw [run_keepHash]
  unfold inherited
  split
  · intro x t hx
    have hsame : t.storage.Holds f := hx.storage_of_reads rfl ▸ h
    obtain rfl | ⟨e, rfl⟩ := hx.findById h
    · exact ⟨.inl rfl, hsame⟩
    · exact ⟨.inr ⟨_, rfl⟩, hsame⟩
  · exact ⟨.inl rfl, h⟩

/-- Calls aside leave the store as it is. -/
theorem ensures_idle {α : Type} {p : Act α} (hp : Only Call.Idle p) (h : w.storage.Holds f) :
    Ensures (World.Lossy late) p (fun _ v => v.storage.Holds f) w := by
  have hgiven : OnlyGiven (fun _ _ => True) Call.Idle p := hp.given
  refine hgiven.ensures (K := fun v : World => v.storage.Holds f) ?_ h
  intro c s x t hc hs hx
  exact ⟨trivial, World.Lossy.storage_of_reads hx (Call.Idle.reads hc) ▸ hs⟩

/-- A save that succeeds has stored a valid user; one that fails has not, or it has done so late. -/
theorem save_ensures (u : User) (h : w.storage.Holds f) :
    Ensures (World.Lossy late) (save cached u).run
      (fun r v => (∃ a, r = .ok a) ∧ u.Valid ∧ (∃ now, v.storage.Holds (entered f now u)) ∨
        (∃ e, r = .error e) ∧ (v.storage.Holds f ∨ late ∧ u.Valid ∧ ∃ now, v.storage.Holds (entered f now u))) w := by
  rw [run_save]
  cases hcheck : check u with
  | error e => exact .inr ⟨⟨e, rfl⟩, .inl h⟩
  | ok _ =>
    have hvalid : u.Valid := hcheck
    dsimp only
    rw [ensures_bind]
    refine (keepHash_ensures u h).mono fun r v hr => ?_
    obtain ⟨rfl | ⟨e, rfl⟩, hv⟩ := hr
    · intro x t hx
      obtain ⟨⟨a, rfl⟩, now, hstored⟩ | ⟨⟨e, rfl⟩, hstored⟩ := hx.save hv
      · dsimp only
        rw [ensures_bind]
        refine (ensures_idle (remember_idle cached a) hstored).mono fun _ v hv => ?_
        exact .inl ⟨⟨a, rfl⟩, hvalid, now, hv⟩
      · exact .inr ⟨⟨_, rfl⟩, hstored.imp_right fun ⟨hlate, now, hlater⟩ => ⟨hlate, hvalid, now, hlater⟩⟩
    · exact .inr ⟨⟨e, rfl⟩, .inl hv⟩

/-! ## Saving one after the other -/

/-- Users have been saved one after the other, each at some moment, and have made the second register of the first. -/
inductive Saved : Register → List User → Register → Prop where
  | nil {f : Register} : Saved f [] f
  | cons {f g : Register} {u : User} {us : List User} (now : Timestamp) :
      Saved (entered f now u) us g → Saved f (u :: us) g

theorem Saved.isSome {us : List User} {g : Register} (h : Saved f us g) {id : UInt64} (hid : (f id).isSome = true) :
    (g id).isSome = true := by
  induction h with
  | nil => exact hid
  | @cons _ _ u _ now _ ih => exact ih (entered_isSome hid now u)

/-- Who has been saved is there. -/
theorem Saved.mem {us : List User} {g : Register} (h : Saved f us g) {u : User} (hu : u ∈ us) : (g u.id).isSome = true := by
  induction h with
  | nil => cases hu
  | @cons f _ v _ now hrest ih =>
    rcases List.mem_cons.mp hu with rfl | hu
    · exact hrest.isSome (entered_self f now u)
    · exact ih hu

/-- Where saving has changed something, somebody is there. -/
theorem Saved.nonempty {us : List User} {g : Register} (h : Saved f us g) (hne : g ≠ f) : ∃ id, g id ≠ none := by
  cases us with
  | nil =>
    cases h
    exact absurd rfl hne
  | cons u us => exact ⟨u.id, Option.isSome_iff_ne_none.mp (h.mem List.mem_cons_self)⟩

/-- Saving has stopped at a user: those before it have been saved, all valid, and those after it have not; it may have been
saved late. -/
def Stopped (late : Prop) (f : Register) (users : List User) (e : Fault) (v : World) : Prop :=
  ∃ before u after cause, users = before ++ u :: after ∧ (∀ u ∈ before, u.Valid) ∧
    e = .during (utf8 "seed user " ++ User.key u.id) cause ∧
    ∃ g, v.storage.Holds g ∧ (Saved f before g ∨ late ∧ u.Valid ∧ Saved f (before ++ [u]) g)

/-- Where the rest has stopped after a user was entered, the whole has. -/
theorem Stopped.cons {now : Timestamp} {u : User} (hu : u.Valid) {users : List User} {e : Fault} {v : World}
    (h : Stopped late (entered f now u) users e v) : Stopped late f (u :: users) e v := by
  obtain ⟨before, x, after, cause, rfl, hvalid, he, g, hg, hsaved⟩ := h
  refine ⟨u :: before, x, after, cause, rfl, List.forall_mem_cons.mpr ⟨hu, hvalid⟩, he, g, hg, ?_⟩
  obtain hsaved | ⟨hlate, hx, hsaved⟩ := hsaved
  · exact .inl (.cons now hsaved)
  · exact .inr ⟨hlate, hx, .cons now hsaved⟩

/-- Several users: all have been saved, or saving has stopped at one. -/
theorem saveAll_ensures (users : List User) (h : w.storage.Holds f) :
    Ensures (World.Lossy late) (saveAll cached users).run
      (fun r v => r = .ok () ∧ (∀ u ∈ users, u.Valid) ∧ (∃ g, v.storage.Holds g ∧ Saved f users g) ∨
        ∃ e, r = .error e ∧ Stopped late f users e v) w := by
  induction users generalizing w f with
  | nil => exact .inl ⟨rfl, nofun, f, h, .nil⟩
  | cons u rest ih =>
    rw [run_saveAll_cons, ensures_bind]
    refine (save_ensures cached u h).mono fun r v hr => ?_
    obtain ⟨⟨a, rfl⟩, hu, now, hv⟩ | ⟨⟨e, rfl⟩, hv⟩ := hr
    · refine (ih hv).mono fun r t hr => ?_
      obtain ⟨rfl, hrest, g, hg, hsaved⟩ | ⟨e, rfl, hstopped⟩ := hr
      · exact .inl ⟨rfl, List.forall_mem_cons.mpr ⟨hu, hrest⟩, g, hg, .cons now hsaved⟩
      · exact .inr ⟨e, rfl, hstopped.cons hu⟩
    · refine .inr ⟨_, rfl, [], u, rest, e, rfl, nofun, rfl, ?_⟩
      obtain hv | ⟨hlate, hu, now, hv⟩ := hv
      · exact ⟨f, hv, .inl .nil⟩
      · exact ⟨_, hv, .inr ⟨hlate, hu, .cons now .nil⟩⟩

/-! ## Seeding -/

/-- What comes of seeding. -/
inductive Seeded (late : Prop) (f : Register) (users : List User) (v : World) : Except Fault Bool → Prop where
  /-- It cannot be found out whether the store is empty. -/
  | unknown (cause : Fault) : v.storage.Holds f → Seeded late f users v (.error (.during "list users" cause))
  /-- There are users already. -/
  | occupied : (∃ id, f id ≠ none) → v.storage.Holds f → Seeded late f users v (.ok false)
  /-- The store was empty and has the users now, none perhaps. -/
  | complete {g : Register} : (∀ id, f id = none) → (∀ u ∈ users, u.Valid) → v.storage.Holds g → Saved f users g →
      Seeded late f users v (.ok true)
  /-- The store was empty and has some of the users now, none perhaps. -/
  | stopped {e : Fault} : (∀ id, f id = none) → Stopped late f users e v → Seeded late f users v (.error e)

/-- Seeding a store that holds a register comes to one of the ways in which it can end. -/
theorem seed_ensures (users : List User) (h : w.storage.Holds f) :
    Ensures (World.Lossy late) (seed cached users).run (fun r v => Seeded late f users v r) w := by
  rw [run_seed]
  intro x t hx
  have ht : t.storage.Holds f := hx.storage_of_reads rfl ▸ h
  obtain ⟨us, rfl, hlists⟩ | ⟨e, rfl⟩ := hx.findAll h
  · dsimp only
    split
    · rename_i hempty
      have hnone := hlists.isEmpty_iff.mp hempty
      rw [ensures_bind]
      refine (saveAll_ensures cached users ht).mono fun r v hr => ?_
      obtain ⟨rfl, hvalid, g, hg, hsaved⟩ | ⟨e, rfl, hstopped⟩ := hr
      · exact .complete hnone hvalid hg hsaved
      · exact .stopped hnone hstopped
    · rename_i hempty
      have hsome : ∃ id, f id ≠ none := by
        rw [hlists.isEmpty_iff, not_forall] at hempty
        exact hempty
      exact .occupied hsome ht
  · exact .unknown e ht

/-- Seeding that has changed the store has left somebody in it. -/
theorem Seeded.left_behind {users : List User} {v : World} {r : Except Fault Bool} (h : Seeded late f users v r)
    (hchanged : ¬v.storage.Holds f) : ∃ g, v.storage.Holds g ∧ ∃ id, g id ≠ none := by
  cases h with
  | unknown cause hv => exact absurd hv hchanged
  | occupied _ hv => exact absurd hv hchanged
  | complete hnone hvalid hg hsaved => exact ⟨_, hg, hsaved.nonempty fun heq => hchanged (heq ▸ hg)⟩
  | stopped hnone hstopped =>
    obtain ⟨before, x, after, cause, -, -, -, g, hg, hsaved⟩ := hstopped
    refine ⟨g, hg, ?_⟩
    obtain hsaved | ⟨-, -, hsaved⟩ := hsaved
    · exact hsaved.nonempty fun heq => hchanged (heq ▸ hg)
    · exact hsaved.nonempty fun heq => hchanged (heq ▸ hg)

/-- Nothing comes of seeding a store that is not empty. -/
theorem Seeded.of_occupied {users : List User} {v : World} {r : Except Fault Bool} (h : Seeded late f users v r)
    (hf : ∃ id, f id ≠ none) : v.storage.Holds f ∧ r ≠ .ok true := by
  obtain ⟨id, hid⟩ := hf
  cases h with
  | unknown cause hv => exact ⟨hv, nofun⟩
  | occupied _ hv => exact ⟨hv, nofun⟩
  | complete hnone => exact absurd (hnone id) hid
  | stopped hnone => exact absurd (hnone id) hid

/-! ### Stores that work -/

theorem run_keepHash_of_keeps (h : w.Keeps f) (u : User) :
    (w.run (keepHash u).run).1 = .ok (inherited f u) ∧ (w.run (keepHash u).run).2.KeepsAt f w.clock := by
  have hkeeps : w.KeepsAt f w.clock := ⟨h, rfl⟩
  rw [run_keepHash]
  unfold inherited
  split
  · rw [World.run, run_call, h.findById]
    exact ⟨rfl, hkeeps.of_reads rfl rfl⟩
  · exact ⟨rfl, hkeeps⟩

theorem inherited_valid {u : User} (h : u.Valid) (f : Register) : (inherited f u).Valid := by
  unfold inherited
  split
  · exact h.withHashOf (f u.id)
  · exact h

/-- The last part of saving. -/
theorem run_store_of_keeps (h : w.Keeps f) {u : User} (hu : u.Valid) :
    (∃ a, (w.run (store cached u)).1 = .ok a) ∧ (w.run (store cached u)).2.Keeps (f.put (f.stamped w.now u)) := by
  have hkeeps : w.KeepsAt f w.clock := ⟨h, rfl⟩
  refine ⟨⟨f.stamped w.now u, ?_⟩, (hkeeps.run_store cached hu).toKeeps⟩
  rw [World.run, store, run_call, (hkeeps.save hu).1]
  dsimp only
  rw [run_bind]
  rfl

/-- A store that works saves a valid user. -/
theorem save_of_keeps (h : w.Keeps f) {u : User} (hu : u.Valid) :
    (∃ a, (w.attempt (save cached u)).1 = .ok a) ∧ ∃ now, (w.attempt (save cached u)).2.Keeps (entered f now u) := by
  obtain ⟨hhash, hkeeps⟩ := run_keepHash_of_keeps h u
  have hcheck : check u = .ok () := hu
  rw [World.run] at hhash hkeeps
  rw [World.attempt, run_save, hcheck]
  dsimp only
  rw [World.run, run_bind, hhash]
  obtain ⟨hok, hstored⟩ := run_store_of_keeps cached hkeeps.toKeeps (inherited_valid hu f)
  exact ⟨hok, _, hstored⟩

/-- Valid users can all be saved in a store that works. -/
theorem saveAll_of_keeps {users : List User} (hvalid : ∀ u ∈ users, u.Valid) (h : w.Keeps f) :
    (w.run (saveAll cached users).run).1 = .ok () := by
  induction users generalizing w f with
  | nil => rfl
  | cons u rest ih =>
    obtain ⟨hu, hrest⟩ := List.forall_mem_cons.mp hvalid
    obtain ⟨⟨a, ha⟩, now, hkeeps⟩ := save_of_keeps cached h hu
    rw [World.attempt, World.run] at ha hkeeps
    rw [run_saveAll_cons, World.run, run_bind, ha]
    exact ih hrest hkeeps

/-- A store that works and is empty can be seeded with valid users. -/
theorem seed_of_keeps {users : List User} (hvalid : ∀ u ∈ users, u.Valid) (h : w.Keeps f) (hnone : ∀ id, f id = none) :
    (w.attempt (seed cached users)).1 = .ok true := by
  obtain ⟨us, hus, hlists⟩ := h.findAll
  have hall := saveAll_of_keeps cached hvalid (h.of_reads (c := .findAll) rfl rfl)
  rw [World.run] at hall
  rw [World.attempt, run_seed, World.run, run_call, hus]
  dsimp only
  rw [if_pos (hlists.isEmpty_iff.mpr hnone), run_bind, hall]
  rfl

/-! ### Failures that mislead -/

/-- Any call may fail without effect. -/
theorem lossy_failed {c : Call} {x : c.Answer} (h : c.Failed x) (w : World) : World.Lossy late c w x w :=
  ⟨w, .refl w, .inr ⟨h, .inl rfl⟩⟩

/-- A save may always fail without effect. -/
theorem save_may_fail (late : Prop) (u : User) (w : World) :
    ∃ e, Runs (World.Lossy late) (save cached u).run w (.error e) w := by
  rw [run_save]
  cases check u with
  | error e => exact ⟨e, .done _ w⟩
  | ok _ =>
    dsimp only
    rw [run_keepHash]
    split
    · have hfails : World.Lossy late (.findById u.id) w (.error .canceled) w := lossy_failed ⟨_, rfl⟩ w
      exact ⟨_, .call hfails (.done _ w)⟩
    · have hfails : World.Lossy late (.save u) w (.error .canceled) w := lossy_failed ⟨_, rfl⟩ w
      exact ⟨_, .call hfails (.done _ w)⟩

/-- Where that may happen late, a valid user may be saved by a save that fails. -/
theorem save_may_fail_late (hlate : late) (h : w.Keeps f) {u : User} (hu : u.Valid) :
    ∃ e v now, Runs (World.Lossy late) (save cached u).run w (.error e) v ∧ v.storage.Holds (entered f now u) := by
  obtain ⟨hhash, hkeeps⟩ := run_keepHash_of_keeps h u
  have hruns := runs_run (World.Lossy.answered late) (keepHash u).run w
  have hcheck : check u = .ok () := hu
  rw [World.run] at hhash hkeeps
  rw [hhash] at hruns
  rw [run_save, hcheck]
  dsimp only
  generalize (Program.run World.answer (keepHash u).run w).2 = v at hkeeps hruns
  have hsave : World.Lossy late (.save (inherited f u)) v (.error .canceled) (World.answer (.save (inherited f u)) v).2 :=
    ⟨v, .refl v, .inr ⟨⟨_, rfl⟩, .inr ⟨hlate, rfl⟩⟩⟩
  obtain ⟨-, hstored⟩ := hkeeps.save (inherited_valid hu f)
  exact ⟨_, _, _, hruns.bind (.call hsave (.done _ _)), hstored.holds⟩

/-- Saving may stop after the first user has been saved, if it is valid and there is another one, or if it is saved late. -/
theorem saveAll_may_stop (h : w.Keeps f) {u : User} (hu : u.Valid) {rest : List User} (hrest : rest ≠ [] ∨ late) :
    ∃ e v now, Runs (World.Lossy late) (saveAll cached (u :: rest)).run w (.error e) v ∧
      v.storage.Holds (entered f now u) := by
  rw [run_saveAll_cons]
  obtain hrest | hlate := hrest
  · obtain ⟨u', rest', rfl⟩ := List.exists_cons_of_ne_nil hrest
    obtain ⟨⟨a, ha⟩, now, hkeeps⟩ := save_of_keeps cached h hu
    have hruns := runs_run (World.Lossy.answered late) (save cached u).run w
    rw [World.attempt, World.run] at ha hkeeps
    rw [ha] at hruns
    obtain ⟨e, hfails⟩ := save_may_fail cached late u' (Program.run World.answer (save cached u).run w).2
    have hstops : Runs (World.Lossy late) (saveAll cached (u' :: rest')).run
        (Program.run World.answer (save cached u).run w).2 (.error (.during (utf8 "seed user " ++ User.key u'.id) e))
        (Program.run World.answer (save cached u).run w).2 := by
      rw [run_saveAll_cons]
      exact hfails.bind (.done _ _)
    exact ⟨_, _, now, hruns.bind hstops, hkeeps.holds⟩
  · obtain ⟨e, v, now, hruns, hstored⟩ := save_may_fail_late cached hlate h hu
    exact ⟨_, v, now, hruns.bind (.done _ _), hstored⟩

/-- In a world that can be calm, an empty store is found empty. -/
theorem seed_runs (late : Prop) (hfailing : w.failing = []) (h : w.storage.Holds f) (hnone : ∀ id, f id = none)
    (users : List User) :
    ∃ t : World, t.Keeps f ∧ ∀ r v, Runs (World.Lossy late) (saveAll cached users).run t r v →
      Runs (World.Lossy late) (seed cached users).run w (r.map fun _ => true) v := by
  have hcalm := World.keeps_calm h
  have hpasses : w.Passes w.calm := ⟨rfl, rfl, hfailing.symm⟩
  obtain ⟨us, hus, hlists⟩ := hcalm.findAll
  refine ⟨(World.answer .findAll w.calm).2, hcalm.of_reads rfl rfl, fun r v hruns => ?_⟩
  have hlist : World.Lossy late .findAll w (.ok us) (World.answer .findAll w.calm).2 :=
    ⟨w.calm, hpasses, .inl (Prod.ext hus rfl)⟩
  rw [run_seed]
  refine .call hlist ?_
  dsimp only
  rw [if_pos (hlists.isEmpty_iff.mpr hnone)]
  refine hruns.bind ?_
  cases r with
  | error e => exact .done _ v
  | ok _ => exact .done _ v

/-- What seeding reports is what has been stored: it says that it has seeded the store exactly if something has been stored,
and if it fails then nothing has. -/
def Truthful (f : Register) (r : Except Fault Bool) (v : World) : Prop :=
  (r = .ok true ↔ ¬v.storage.Holds f) ∧ ∀ e, r = .error e → v.storage.Holds f

/-- A register into which something has been entered is not empty. -/
theorem not_holds_of_isSome {g : Register} {v : World} (hg : v.storage.Holds g) {id : UInt64} (hid : (g id).isSome = true)
    (hnone : ∀ id, f id = none) : ¬v.storage.Holds f := by
  intro hf
  rw [hg.unique hf, hnone] at hid
  cases hid

/-- Failures may mislead about every list that is empty, or that starts with a valid user and goes on. -/
theorem exists_misleading (hfailing : w.failing = []) (h : w.storage.Holds f) (hnone : ∀ id, f id = none) {users : List User}
    (husers : ∀ u rest, users = u :: rest → u.Valid ∧ (rest ≠ [] ∨ late)) :
    ∃ r v, Runs (World.Lossy late) (seed cached users).run w r v ∧ ¬Truthful f r v := by
  obtain ⟨t, ht, hseed⟩ := seed_runs cached late hfailing h hnone users
  cases users with
  | nil =>
    refine ⟨_, t, hseed (.ok ()) t (.done _ t), fun htruthful => ?_⟩
    exact htruthful.1.mp rfl ht.holds
  | cons u rest =>
    obtain ⟨hu, hrest⟩ := husers u rest rfl
    obtain ⟨e, v, now, hruns, hstored⟩ := saveAll_may_stop cached ht hu hrest
    refine ⟨_, v, hseed _ v hruns, fun htruthful => ?_⟩
    exact not_holds_of_isSome hstored (entered_self f now u) hnone (htruthful.2 e rfl)

/-- There is nothing to mislead about when the first user is invalid, or is the only one and never saved late. -/
theorem Seeded.truthful {users : List User} {v : World} {r : Except Fault Bool} (h : Seeded late f users v r) {u : User}
    {rest : List User} (husers : users = u :: rest) (hfirst : ¬u.Valid ∨ rest = [] ∧ ¬late) : Truthful f r v := by
  cases h with
  | unknown cause hv => exact ⟨⟨nofun, fun hnot => absurd hv hnot⟩, fun _ _ => hv⟩
  | occupied _ hv => exact ⟨⟨nofun, fun hnot => absurd hv hnot⟩, nofun⟩
  | complete hnone hvalid hg hsaved =>
    have hchanged : ¬v.storage.Holds f := not_holds_of_isSome hg (hsaved.mem (husers ▸ List.mem_cons_self)) hnone
    exact ⟨⟨fun _ => hchanged, fun _ => rfl⟩, nofun⟩
  | stopped hnone hstopped =>
    obtain ⟨before, x, after, cause, hsplit, hvalid, -, g, hg, hsaved⟩ := hstopped
    have hsame : v.storage.Holds f := by
      cases before with
      | nil =>
        obtain ⟨rfl, rfl⟩ := List.cons.inj (husers.symm.trans hsplit)
        obtain hsaved | ⟨hlate, hu, -⟩ := hsaved
        · cases hsaved
          exact hg
        · exact absurd hlate (hfirst.resolve_left (not_not_intro hu)).2
      | cons y before =>
        obtain ⟨rfl, hrest⟩ := List.cons.inj (husers.symm.trans hsplit)
        have hu : u.Valid := hvalid u List.mem_cons_self
        rw [(hfirst.resolve_left (not_not_intro hu)).1] at hrest
        exact absurd hrest.symm (by simp)
    exact ⟨⟨nofun, fun hnot => absurd hsame hnot⟩, fun _ _ => hsame⟩

/-- What comes of seeding. Whatever the store holds, whoever is to be seeded and whichever calls fail, it ends as `Seeded` says.
If it fails after something has been stored, then seeding the store again stores nothing. An empty store that works is seeded
with valid users. One can trust what seeding says, whatever fails, exactly if the store is not empty, or the list is not and
starts with a user who is invalid or, where nothing is stored late, is the only one. -/
theorem seeding_truthful_iff (cached : Bool) (late : Prop) (users : List User) {w : World} {f : Register}
    (h : w.storage.Holds f) :
    (∀ r v, Runs (World.Lossy late) (seed cached users).run w r v → Seeded late f users v r) ∧
    (∀ e v, Runs (World.Lossy late) (seed cached users).run w (.error e) v → ¬v.storage.Holds f →
      ∀ users' r v', Runs (World.Lossy late) (seed cached users').run v r v' →
        r ≠ .ok true ∧ ∃ g, v.storage.Holds g ∧ v'.storage.Holds g) ∧
    (w.Keeps f → (∀ id, f id = none) → (∀ u ∈ users, u.Valid) → (w.attempt (seed cached users)).1 = .ok true) ∧
    (w.failing = [] →
      ((∀ r v, Runs (World.Lossy late) (seed cached users).run w r v → Truthful f r v) ↔
        (∃ id, f id ≠ none) ∨ ∃ u rest, users = u :: rest ∧ (¬u.Valid ∨ rest = [] ∧ ¬late))) := by
  have hseeded : ∀ r v, Runs (World.Lossy late) (seed cached users).run w r v → Seeded late f users v r :=
    fun r v hruns => (seed_ensures cached users h).of_runs hruns
  refine ⟨hseeded, ?_, fun hkeeps hnone hvalid => seed_of_keeps cached hvalid hkeeps hnone, ?_⟩
  · intro e v hruns hchanged users' r v' hagain
    obtain ⟨g, hg, hsome⟩ := (hseeded _ v hruns).left_behind hchanged
    obtain ⟨hkept, hr⟩ := ((seed_ensures cached users' hg).of_runs hagain).of_occupied hsome
    exact ⟨hr, g, hg, hkept⟩
  · intro hfailing
    constructor
    · intro htruthful
      by_contra hlist
      obtain ⟨hempty, hmisleads⟩ := not_or.mp hlist
      have hnone : ∀ id, f id = none := fun id => not_not.mp fun hid => hempty ⟨id, hid⟩
      have husers : ∀ u rest, users = u :: rest → u.Valid ∧ (rest ≠ [] ∨ late) := by
        intro u rest heq
        have hfirst : ¬(¬u.Valid ∨ rest = [] ∧ ¬late) := fun hfirst => hmisleads ⟨u, rest, heq, hfirst⟩
        refine ⟨not_not.mp fun hinvalid => hfirst (.inl hinvalid), ?_⟩
        by_cases hrest : rest = []
        · exact .inr (not_not.mp fun hlate => hfirst (.inr ⟨hrest, hlate⟩))
        · exact .inl hrest
      obtain ⟨r, v, hruns, hmisleading⟩ := exists_misleading cached hfailing h hnone husers
      exact hmisleading (htruthful r v hruns)
    · rintro (hsome | ⟨u, rest, heq, hfirst⟩) r v hruns
      · obtain ⟨hkept, hr⟩ := (hseeded r v hruns).of_occupied hsome
        exact ⟨⟨fun htrue => absurd htrue hr, fun hnot => absurd hkept hnot⟩, fun _ _ => hkept⟩
      · exact (hseeded r v hruns).truthful heq hfirst

/-- Ann is stored and Bob, who has no name, is not. Seeding both again, with his name, then stores nothing. -/
theorem half_seeded_store_stays_so :
    let ann : User := { id := 1, name := "Ann", email := "ann@example.com", role := "admin", active := true }
    let bob : User := { id := 2, name := "", email := "bob@example.com", role := "viewer", active := true }
    let empty : World := { clock := 0, storage := .memory {} }
    let half := (empty.attempt (seed false [ann, bob])).2
    let again := half.attempt (seed false [ann, { bob with name := "Bob" }])
    empty.storage.Holds (fun _ => none) ∧
      (empty.attempt (seed false [ann, bob])).1 = .error (.during "seed user 2" .detailsMissing) ∧
      again.1 ≠ .ok true ∧ ∃ g, half.storage.Holds g ∧ again.2.storage.Holds g := by
  intro ann bob empty half again
  have hempty : empty.storage.Holds fun _ => none := Lists.nil
  have hfails : (empty.attempt (seed false [ann, bob])).1 = .error (.during "seed user 2" .detailsMissing) := by
    decide +kernel
  have hruns : Runs (World.Lossy False) (seed false [ann, bob]).run empty (empty.attempt (seed false [ann, bob])).1 half :=
    runs_run (World.Lossy.answered False) _ empty
  have hagain : Runs (World.Lossy False) (seed false [ann, { bob with name := "Bob" }]).run half again.1 again.2 :=
    runs_run (World.Lossy.answered False) _ half
  have hchanged : ¬half.storage.Holds fun _ => none := by
    intro hnobody
    have habsent := (World.keeps_calm hnobody).findById 1
    exact absurd habsent (by decide +kernel)
  rw [hfails] at hruns
  exact ⟨hempty, hfails, (seeding_truthful_iff false False [ann, bob] hempty).2.1 _ half hruns hchanged _ _ _ hagain⟩

/-- An empty list is reported as seeded though nothing is stored. A list with an invalid user is reported as failed though
somebody is stored, and after that, seeding stores nothing and says so. -/
theorem seeding_misreports :
    let ann : User := { id := 1, name := "Ann", email := "ann@example.com", role := "admin", active := true }
    let bob : User := { id := 2, name := "", email := "bob@example.com", role := "viewer", active := true }
    let empty : World := { clock := 0, storage := .memory {} }
    let idle := empty.attempt (seed false [])
    let half := empty.attempt (seed false [ann, bob])
    let again := half.2.attempt (seed false [ann, { bob with name := "Bob" }])
    (idle.1 = .ok true ∧ (World.answer .findAll idle.2).1 = .ok []) ∧
      (half.1 = .error (.during "seed user 2" .detailsMissing) ∧
        (World.answer .findAll half.2).1.map (List.map User.id) = .ok [1]) ∧
      again.1 = .ok false ∧ (World.answer .findAll again.2).1.map (List.map User.id) = .ok [1] := by
  decide +kernel

end Users

end Roster
