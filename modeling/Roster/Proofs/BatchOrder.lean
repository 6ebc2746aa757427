import Mathlib.Data.List.Nodup
import Mathlib.Logic.Relation
import Roster.Proofs.Endpoints
import Roster.Proofs.FailedOperations

/-!
# Fetches side by side

The users of a batch are fetched by workers that run side by side in one world. A worker makes its calls one at a time, sleeps
while it waits, and ends with an outcome (`Worker.Steps`); a crew takes steps of its workers in any order, and between two
steps the world may change in the ways that a relation allows (`Crew.Next`). When all have ended, the batch comes to what it
always comes to: the caller's patience decides first, then the outcomes by their places (`Crew.result_of_ended`).

Two kinds of fetch are followed to their end. Fetches from a store in memory end with what it holds. Simulated fetches sleep
for the same span; if time passes only while all of them sleep (`Crew.Prompt`), the caller's time is over at the end exactly
if it is shorter than that span.
-/

namespace Roster.Batch

open Program
open World (SameButLog)

/-! ## Completions -/

/-- What a batch comes to by the outcomes of its fetches: the users that were fetched, in order, unless there are none. -/
def gathered (os : List (Except Fault User)) : Except Fault (List User) :=
  match os.filterMap Except.toOption with
  | [] => .error .nobodyFound
  | users => .ok users

/-- Gathering looks at the users that came out, and not at the faults. -/
theorem gather_toOption (os : List (Except Fault User)) : gather (os.map Except.toOption) = gathered os := by
  unfold gather gathered
  rw [List.filterMap_map]
  rfl

/-- The outcomes are placed by their positions. -/
theorem mem_placed {os : List (Except Fault User)} {i : Nat} {o : Except Fault User} :
    (i, o) ∈ placed os ↔ os[i]? = some o := by
  rw [← List.mk_mem_zipIdx_iff_getElem?]
  unfold placed
  constructor
  · intro h
    obtain ⟨⟨o', i'⟩, hmem, heq⟩ := List.mem_map.1 h
    obtain ⟨rfl, rfl⟩ := Prod.mk.inj heq
    exact hmem
  · intro h
    exact List.mem_map.2 ⟨(o, i), h, rfl⟩

/-- Every place is taken once. -/
theorem nodup_placed (os : List (Except Fault User)) : ((placed os).map Prod.fst).Nodup := by
  have hplaces : (placed os).map Prod.fst = List.range' 0 os.length := by
    unfold placed
    rw [List.map_map, ← List.zipIdx_map_snd 0 os]
    rfl
  rw [hplaces]
  exact List.nodup_range'

/-- Filling a slot keeps their number. -/
theorem length_fill (slots : List (Option User)) (c : Nat × Except Fault User) : (fill slots c).length = slots.length := by
  unfold fill
  split
  · exact List.length_set
  · rfl

/-- Filling slots keeps their number. -/
theorem length_foldl_fill (cs : List (Nat × Except Fault User)) (slots : List (Option User)) :
    (cs.foldl fill slots).length = slots.length := by
  induction cs generalizing slots with
  | nil => rfl
  | cons c cs ih => rw [List.foldl_cons, ih, length_fill]

/-- Filling a slot leaves the others as they were. -/
theorem getElem?_fill_ne {c : Nat × Except Fault User} {i : Nat} (h : c.1 ≠ i) (slots : List (Option User)) :
    (fill slots c)[i]? = slots[i]? := by
  unfold fill
  split
  · exact List.getElem?_set_ne h
  · rfl

/-- A slot that no fetch is for stays as it is. -/
theorem getElem?_foldl_fill_of_notMem {cs : List (Nat × Except Fault User)} {i : Nat} (h : i ∉ cs.map Prod.fst)
    (slots : List (Option User)) : (cs.foldl fill slots)[i]? = slots[i]? := by
  induction cs generalizing slots with
  | nil => rfl
  | cons c cs ih =>
    rw [List.map_cons, List.mem_cons, not_or] at h
    rw [List.foldl_cons, ih h.2, getElem?_fill_ne (Ne.symm h.1)]

/-- An empty slot holds in the end what the one fetch for it came to. -/
theorem getElem?_foldl_fill {cs : List (Nat × Except Fault User)} (hcs : (cs.map Prod.fst).Nodup) {i : Nat}
    {o : Except Fault User} (h : (i, o) ∈ cs) {slots : List (Option User)} (hempty : slots[i]? = some none) :
    (cs.foldl fill slots)[i]? = some o.toOption := by
  induction cs generalizing slots with
  | nil => cases h
  | cons c cs ih =>
    rw [List.map_cons, List.nodup_cons] at hcs
    rw [List.foldl_cons]
    rcases List.mem_cons.1 h with rfl | hrest
    · rw [getElem?_foldl_fill_of_notMem hcs.1]
      cases o with
      | error f => exact hempty
      | ok u => exact List.getElem?_set_self (List.getElem?_eq_some_iff.1 hempty).1
    · have hne : c.1 ≠ i := fun heq => hcs.1 (heq ▸ List.mem_map.2 ⟨(i, o), hrest, rfl⟩)
      exact ih hcs.2 hrest ((getElem?_fill_ne hne slots).trans hempty)

/-- Each slot holds what the fetch for it came to, in whatever order the fetches complete. -/
theorem settle_of_perm {os : List (Except Fault User)} {completions : List (Nat × Except Fault User)}
    (h : completions.Perm (placed os)) : settle os.length completions = os.map Except.toOption := by
  have hplaces : (completions.map Prod.fst).Nodup := (h.map Prod.fst).nodup_iff.2 (nodup_placed os)
  apply List.ext_getElem?
  intro i
  rw [List.getElem?_map]
  cases hi : os[i]? with
  | none =>
    refine List.getElem?_eq_none ?_
    unfold settle
    rw [length_foldl_fill, List.length_replicate]
    exact List.getElem?_eq_none_iff.1 hi
  | some o =>
    have hlt : i < os.length := (List.getElem?_eq_some_iff.1 hi).1
    exact getElem?_foldl_fill hplaces (h.mem_iff.2 (mem_placed.2 hi)) (List.getElem?_replicate_of_lt hlt)

/-- In whatever order the outcomes come in, the batch comes to the same. -/
theorem gather_settle_of_perm {os : List (Except Fault User)} {completions : List (Nat × Except Fault User)}
    (h : completions.Perm (placed os)) : gather (settle os.length completions) = gathered os := by
  rw [settle_of_perm h, gather_toOption]

/-! ## Workers -/

/-- A fetch that is under way: it goes on, it sleeps until a moment, or it has ended. -/
inductive Worker where
  | active (rest : Act (Except Fault User))
  | asleep (due : Instant) (rest : Except Fault Unit → Act (Except Fault User))
  | ended (o : Except Fault User)

namespace Worker

/-- One step of a worker in a world. It ends; it makes a call, where to wait is to fall asleep; it wakes up because it is due,
or because the caller's patience has ended. A worker that is due when that has happened may go either way. -/
inductive Steps : Worker → World → Worker → World → Prop where
  | finish (o : Except Fault User) (w : World) : Steps (.active (.done o)) w (.ended o) w
  | rest (d : Span) (next : Except Fault Unit → Act (Except Fault User)) (w : World) :
      Steps (.active (.call (.wait d) next)) w (.asleep (w.clock + max d 0) next) w
  | call (c : Call) (next : c.Answer → Act (Except Fault User)) (w : World) (h : ∀ d, c ≠ .wait d) :
      Steps (.active (.call c next)) w (.active (next (World.answer c w).1)) (World.answer c w).2
  | wake {due : Instant} (next : Except Fault Unit → Act (Except Fault User)) {w : World} (h : due ≤ w.clock) :
      Steps (.asleep due next) w (.active (next (.ok ()))) w
  | quit (due : Instant) (next : Except Fault Unit → Act (Except Fault User)) {w : World} {f : Fault}
      (h : w.patience = .error f) : Steps (.asleep due next) w (.active (next (.error f))) w

/-- What a worker reports when it ends, with its place. -/
def report (i : Nat) : Worker → List (Nat × Except Fault User)
  | .ended o => [(i, o)]
  | _ => []

/-- Only a worker that has ended reports, and it reports its own outcome at its own place. -/
theorem mem_report {i j : Nat} {k : Worker} {o : Except Fault User} : (j, o) ∈ k.report i ↔ j = i ∧ k = .ended o := by
  cases k with
  | ended o' =>
    rw [report, List.mem_singleton, Prod.mk.injEq, Worker.ended.injEq]
    exact and_congr_right fun _ => eq_comm
  | active p => simp [report]
  | asleep due next => simp [report]

/-- A worker reports at most once. -/
theorem nodup_report (i : Nat) (k : Worker) : ((k.report i).map Prod.fst).Nodup := by
  cases k <;> simp [report]

/-- A worker that has ended takes no step. -/
theorem Steps.not_ended {k k' : Worker} {w v : World} (h : Steps k w k' v) (o : Except Fault User) : k ≠ .ended o := by
  cases h <;> exact Worker.noConfusion

end Worker

open Worker

/-! ## Crews -/

/-- Workers side by side in one world, and the outcomes of those that have ended, in the order they did. -/
structure Crew where
  workers : List Worker
  completions : List (Nat × Except Fault User)
  world : World

namespace Crew

/-- What happens next to a crew: its world changes in an allowed way, or one of its workers takes a step. -/
inductive Next (drifts : Crew → World → Prop) : Crew → Crew → Prop where
  | drift {C : Crew} {v : World} (h : drifts C v) : Next drifts C { C with world := v }
  | step {C : Crew} {i : Nat} {k k' : Worker} {v : World} (hi : C.workers[i]? = some k) (h : Steps k C.world k' v) :
      Next drifts C ⟨C.workers.set i k', C.completions ++ k'.report i, v⟩

/-- What can become of a crew. -/
abbrev Course (drifts : Crew → World → Prop) : Crew → Crew → Prop := Relation.ReflTransGen (Next drifts)

/-- A crew that sets out on the given fetches. -/
def start (fetches : List (Act (Except Fault User))) (w : World) : Crew := ⟨fetches.map .active, [], w⟩

/-- All workers have ended, with the given outcomes by their places. -/
structure Ended (C : Crew) (os : List (Except Fault User)) : Prop where
  workers : C.workers = os.map .ended

/-- What the batch comes to when all workers have ended. -/
def result (C : Crew) : Except Fault (List User) :=
  C.world.patience.bind fun _ => gather (settle C.workers.length C.completions)

/-- The completions of a crew are those of the workers that have ended, each once. -/
structure Tallied (C : Crew) : Prop where
  places : (C.completions.map Prod.fst).Nodup
  mem : ∀ i o, (i, o) ∈ C.completions ↔ C.workers[i]? = some (.ended o)

/-- A crew that sets out has no completions, and none of its workers has ended. -/
theorem tallied_start (fetches : List (Act (Except Fault User))) (w : World) : (start fetches w).Tallied := by
  refine ⟨List.nodup_nil, fun i o => ⟨fun h => absurd h List.not_mem_nil, fun h => ?_⟩⟩
  have hactive : (fetches[i]?).map Worker.active = some (.ended o) := List.getElem?_map ▸ h
  obtain ⟨p, _, hp⟩ := Option.map_eq_some_iff.1 hactive
  cases hp

variable {drifts : Crew → World → Prop} {C C' : Crew}

/-- A step of a crew keeps the tally. -/
theorem Tallied.next (h : C.Tallied) (hn : Next drifts C C') : C'.Tallied := by
  cases hn with
  | drift _ => exact ⟨h.places, h.mem⟩
  | @step i k k' v hi hs =>
    have hlt : i < C.workers.length := (List.getElem?_eq_some_iff.1 hi).1
    -- The worker had not ended, so its place is not among the completions yet.
    have hnew : ∀ o, (i, o) ∉ C.completions := fun o hmem =>
      hs.not_ended o (Option.some.inj (hi.symm.trans ((h.mem i o).1 hmem)))
    constructor
    · rw [List.map_append, List.nodup_append']
      refine ⟨h.places, nodup_report i k', ?_⟩
      intro j hj hj'
      obtain ⟨⟨_, o⟩, hmem, rfl⟩ := List.mem_map.1 hj
      obtain ⟨⟨j', o'⟩, hmem', hjj⟩ := List.mem_map.1 hj'
      obtain rfl : j' = _ := hjj
      obtain ⟨rfl, _⟩ := mem_report.1 hmem'
      exact hnew o hmem
    · intro j o
      rw [List.mem_append, mem_report]
      by_cases hj : j = i
      · subst hj
        rw [List.getElem?_set_self hlt, Option.some.injEq]
        exact ⟨fun hor => hor.elim (fun hmem => absurd hmem (hnew o)) And.right, fun heq => Or.inr ⟨rfl, heq⟩⟩
      · rw [List.getElem?_set_ne (Ne.symm hj), ← h.mem j o]
        exact ⟨fun hor => hor.resolve_right fun heq => hj heq.1, Or.inl⟩

/-- The tally is kept in the course of a crew. -/
theorem Tallied.course (h : C.Tallied) (hc : Course drifts C C') : C'.Tallied := by
  induction hc with
  | refl => exact h
  | tail _ hn ih => exact ih.next hn

/-- When all workers have ended, the completions are the outcomes at their places, in some order. -/
theorem Tallied.perm (h : C.Tallied) {os : List (Except Fault User)} (he : C.Ended os) : C.completions.Perm (placed os) := by
  refine (List.perm_ext_iff_of_nodup (List.Nodup.of_map _ h.places) (List.Nodup.of_map _ (nodup_placed os))).2 ?_
  rintro ⟨i, o⟩
  rw [h.mem, mem_placed, he.workers, List.getElem?_map]
  cases os[i]? with
  | none => exact iff_of_false (Option.some_ne_none _).symm (Option.some_ne_none _).symm
  | some o' => rw [Option.map_some, Option.some.injEq, Option.some.injEq, Worker.ended.injEq]

/-- When all workers have ended, the caller's patience decides first, and then the outcomes by their places. -/
theorem result_of_ended {fetches : List (Act (Except Fault User))} {w : World} (hc : Course drifts (start fetches w) C)
    {os : List (Except Fault User)} (he : C.Ended os) : C.result = C.world.patience.bind fun _ => gathered os := by
  have hlength : C.workers.length = os.length := by rw [he.workers, List.length_map]
  unfold result
  rw [hlength, gather_settle_of_perm (((tallied_start fetches w).course hc).perm he)]

/-- If any one worker can be taken from one state to another, whatever the others are at, all can. -/
theorem course_map {K : World → Prop} {a b : UInt64 → Worker}
    (h : ∀ (C : Crew) i id, K C.world → C.workers[i]? = some (a id) →
      ∃ cs v, Course drifts C ⟨C.workers.set i (b id), cs, v⟩ ∧ K v)
    (ids : List UInt64) (before : List Worker) (hC : C.workers = before ++ ids.map a) (hw : K C.world) :
    ∃ cs v, Course drifts C ⟨before ++ ids.map b, cs, v⟩ ∧ K v := by
  induction ids generalizing before C with
  | nil =>
    refine ⟨C.completions, C.world, ?_, hw⟩
    rw [show before ++ [].map b = C.workers from hC.symm]
  | cons id ids ih =>
    have hi : C.workers[before.length]? = some (a id) := by
      rw [hC, List.map_cons, List.getElem?_append_right (Nat.le_refl _), Nat.sub_self]
      rfl
    obtain ⟨cs, v, hfirst, hv⟩ := h C before.length id hw hi
    have hset : C.workers.set before.length (b id) = (before ++ [b id]) ++ ids.map a := by
      rw [hC, List.set_append_right _ _ (Nat.le_refl _), Nat.sub_self, List.append_assoc]
      rfl
    obtain ⟨cs', v', hrest, hv'⟩ := ih (C := ⟨C.workers.set before.length (b id), cs, v⟩) (before ++ [b id]) hset hv
    rw [List.append_assoc] at hrest
    exact ⟨cs', v', hfirst.trans hrest, hv'⟩

end Crew

/-! ## Fetches that only note how they end -/

/-- A program that ends with an outcome and only writes log entries before. -/
inductive Concludes (o : Except Fault User) : Act (Except Fault User) → Prop where
  | done : Concludes o (.done o)
  | log (e : Log.Entry) {next : Unit → Act (Except Fault User)} (h : Concludes o (next ())) :
      Concludes o (.call (.log e) next)

/-- The outcome of a result is that result, after a note of a fault. -/
theorem concludes_outcome (id : UInt64) (x : Except Fault User) : Concludes x (outcome id (Task.ofExcept x)) := by
  cases x with
  | ok u => exact .done
  | error f => exact .log _ .done

/-- A program that only notes how it ends comes to that end, and only the log is written. -/
theorem Concludes.run {o : Except Fault User} {p : Act (Except Fault User)} (h : Concludes o p) (w : World) :
    (w.run p).1 = o ∧ SameButLog w (w.run p).2 := by
  induction h generalizing w with
  | done => exact ⟨rfl, .refl w⟩
  | log e _ ih =>
    obtain ⟨ho, hv⟩ := ih { w with entries := e :: w.entries }
    exact ⟨ho, .trans ⟨_, rfl⟩ hv⟩

/-- A worker whose outcome is settled by a step gets there. -/
theorem Concludes.course {o : Except Fault User} {p : Act (Except Fault User)} (h : Concludes o p)
    (drifts : Crew → World → Prop) {C : Crew} {i : Nat} {k : Worker} {v : World} (hi : C.workers[i]? = some k)
    (hs : Steps k C.world (.active p) v) :
    ∃ cs v', C.Course drifts ⟨C.workers.set i (.ended o), cs, v'⟩ ∧ SameButLog v v' := by
  have hlt : i < C.workers.length := (List.getElem?_eq_some_iff.1 hi).1
  induction h generalizing C k v with
  | done =>
    have hfinish : Crew.Next drifts ⟨C.workers.set i (.active (.done o)), C.completions ++ [], v⟩ _ :=
      .step (List.getElem?_set_self hlt) (.finish o v)
    rw [List.set_set] at hfinish
    exact ⟨_, v, .tail (.single (.step hi hs)) hfinish, .refl v⟩
  | @log e next _ ih =>
    have hcall : Steps (.active (.call (.log e) next)) v (.active (next ())) (World.answer (.log e) v).2 :=
      .call (.log e) next v fun d => Call.noConfusion
    obtain ⟨cs, v', hrest, hv'⟩ := ih (C := ⟨C.workers.set i (.active (.call (.log e) next)), C.completions ++ [], v⟩)
      (List.getElem?_set_self hlt) hcall (Nat.lt_of_lt_of_eq hlt List.length_set.symm)
    rw [List.set_set] at hrest
    exact ⟨cs, v', hrest.head (.step hi hs), .trans ⟨_, rfl⟩ hv'⟩

/-- A worker whose outcome is settled: it has ended with it, or only notes it. -/
def Worker.Nears (o : Except Fault User) : Worker → Prop
  | .active p => Concludes o p
  | .asleep _ _ => False
  | .ended o' => o' = o

/-- A worker whose outcome is settled stays so, and its step only writes to the log. -/
theorem Worker.Nears.steps {o : Except Fault User} {k k' : Worker} {w v : World} (h : k.Nears o) (hs : Steps k w k' v) :
    k'.Nears o ∧ SameButLog w v := by
  cases hs with
  | finish o' w =>
    cases h with
    | done => exact ⟨rfl, .refl w⟩
  | rest d next w => nomatch h
  | call c next w hc =>
    cases h with
    | log e h => exact ⟨h, _, rfl⟩
  | wake next hdue => exact h.elim
  | quit due next hpatience => exact h.elim

/-! ## Crews whose workers are followed -/

/-- The fetches of a batch. -/
def fetches (f : Fetcher) (ids : List UInt64) : List (Act (Except Fault User)) := ids.map fun id => outcome id (fetch f id)

/-- Each worker of a list stands for an id, and can be replaced by one that stands for it as well. -/
theorem forall₂_set {P : UInt64 → Worker → Prop} {ids : List UInt64} {ks : List Worker} (h : List.Forall₂ P ids ks) {i : Nat}
    {k : Worker} (hi : ks[i]? = some k) : ∃ id, P id k ∧ ∀ k', P id k' → List.Forall₂ P ids (ks.set i k') := by
  induction h generalizing i with
  | nil => cases hi
  | @cons id k₀ ids ks hfirst hrest ih =>
    cases i with
    | zero =>
      obtain rfl : k₀ = k := Option.some.inj hi
      exact ⟨id, hfirst, fun k' hk' => .cons hk' hrest⟩
    | succ i =>
      obtain ⟨id', hk, hset⟩ := ih hi
      exact ⟨id', hk, fun k' hk' => .cons hfirst (hset k' hk')⟩

/-- If a worker can only end with one outcome, the outcomes of a crew that has ended are these. -/
theorem Crew.Ended.outcomes {P : UInt64 → Worker → Prop} {ids : List UInt64} {C : Crew} {os : List (Except Fault User)}
    (he : C.Ended os) (h : List.Forall₂ P ids C.workers) {x : UInt64 → Except Fault User}
    (hx : ∀ id o, P id (.ended o) → o = x id) : os = ids.map x := by
  rw [he.workers, List.forall₂_map_right_iff] at h
  have heach : List.Forall₂ (fun id o => x id = o) ids os := h.imp fun id o ho => (hx id o ho).symm
  rw [← List.forall₂_map_left_iff, List.forall₂_eq_eq_eq] at heach
  exact heach.symm

/-! ## Fetches from a store in memory -/

/-- What fetching a user comes to when the store has been asked for it. -/
def found (id : UInt64) : Option User → Except Fault User
  | some u => .ok u
  | none => .error (.fetchAbsent id)

/-- A fetch from the store is one look-up, and then it only notes how it ends. -/
theorem outcome_stored (id : UInt64) : outcome id (fetch .stored id) =
    .call (.findById id) fun r => outcome id (Task.ofExcept (r.bind (found id))) := by
  show Program.call _ _ = _
  congr
  funext r
  rcases r with f | _ | u <;> rfl

/-- What a batch comes to by what a store in memory holds under its ids. -/
def lookedUp (m : Store.Memory) (ids : List UInt64) : Except Fault (List User) :=
  match ids.filterMap m.find? with
  | [] => .error .nobodyFound
  | users => .ok users

/-- What the fetches come to together is what is found under the ids, or that nobody is. -/
theorem gathered_found (m : Store.Memory) (ids : List UInt64) :
    gathered (ids.map fun id => found id (m.find? id)) = lookedUp m ids := by
  have hfound : Except.toOption ∘ (fun id => found id (m.find? id)) = m.find? := by
    funext id
    rw [Function.comp_apply]
    cases m.find? id <;> rfl
  unfold gathered lookedUp
  rw [List.filterMap_map, hfound]

/-- A world with a store in memory that answers when it is asked for a user. -/
structure Reads (m : Store.Memory) (w : World) : Prop where
  storage : w.storage = .memory m
  works : w.failure? .findById = none

/-- The store still answers after some time. -/
theorem Reads.passes {m : Store.Memory} {w v : World} (h : Reads m w) (hv : w.Passes v) : Reads m v := by
  refine ⟨hv.storage.trans h.storage, ?_⟩
  rw [World.failure?, hv.failing]
  exact h.works

/-- The store still answers after something has been written to the log. -/
theorem Reads.logged {m : Store.Memory} {w v : World} (h : Reads m w) (hv : SameButLog w v) : Reads m v := by
  obtain ⟨entries, rfl⟩ := hv
  exact ⟨h.storage, h.works⟩

section Stored

variable {m : Store.Memory} {w : World} {drifts : Crew → World → Prop} {C : Crew}

/-- Where a fetch from a store in memory has come. -/
def Asks (m : Store.Memory) (id : UInt64) (k : Worker) : Prop :=
  k = .active (outcome id (fetch .stored id)) ∨ k.Nears (found id (m.find? id))

/-- A step of a fetch from the store leads to its outcome, and the store still answers. -/
theorem Asks.steps {id : UInt64} {k k' : Worker} {v : World} (h : Asks m id k) (hw : Reads m w) (hs : Steps k w k' v) :
    Asks m id k' ∧ Reads m v := by
  rcases h with rfl | h
  · rw [outcome_stored] at hs
    cases hs with
    | call c next w hc =>
      rw [World.answer_findById hw.storage hw.works]
      exact ⟨Or.inr (concludes_outcome id _), hw⟩
  · obtain ⟨hk', hv⟩ := h.steps hs
    exact ⟨Or.inr hk', hw.logged hv⟩

/-- In the course of a crew every fetch from the store is on the way to its outcome. -/
theorem asks_course {ids : List UInt64} (hw : Reads m w) (hd : ∀ C v, drifts C v → C.world.Passes v)
    (hc : Crew.Course drifts (.start (fetches .stored ids) w) C) : Reads m C.world ∧ List.Forall₂ (Asks m) ids C.workers := by
  induction hc with
  | refl =>
    refine ⟨hw, ?_⟩
    show List.Forall₂ (Asks m) ids ((fetches .stored ids).map .active)
    rw [fetches, List.map_map, List.forall₂_map_right_iff]
    exact List.forall₂_same.2 fun id _ => Or.inl rfl
  | @tail C C' _ hn ih =>
    obtain ⟨hreads, hasks⟩ := ih
    cases hn with
    | drift h => exact ⟨hreads.passes (hd _ _ h), hasks⟩
    | @step i k k' v hi hs =>
      obtain ⟨id, hk, hset⟩ := forall₂_set hasks hi
      obtain ⟨hk', hv⟩ := hk.steps hreads hs
      exact ⟨hv, hset k' hk'⟩

/-- Fetches from a store in memory come to what it holds, in whatever order they take their steps. -/
theorem result_of_stored {ids : List UInt64} (hw : Reads m w) (hd : ∀ C v, drifts C v → C.world.Passes v)
    (hc : Crew.Course drifts (.start (fetches .stored ids) w) C) {os : List (Except Fault User)} (he : C.Ended os) :
    C.result = C.world.patience.bind fun _ => lookedUp m ids := by
  have hos : os = ids.map fun id => found id (m.find? id) := by
    refine he.outcomes (asks_course hw hd hc).2 fun id o h => ?_
    rcases h with h | h
    · cases h
    · exact h
  rw [Crew.result_of_ended hc he, hos, gathered_found]

/-- Such a fetch can be taken to its end. -/
theorem course_stored (drifts : Crew → World → Prop) {i : Nat} {id : UInt64} (hC : Reads m C.world)
    (hi : C.workers[i]? = some (.active (outcome id (fetch .stored id)))) :
    ∃ cs v, Crew.Course drifts C ⟨C.workers.set i (.ended (found id (m.find? id))), cs, v⟩ ∧ Reads m v := by
  rw [outcome_stored] at hi
  have hcall := Steps.call (.findById id) (fun r => outcome id (Task.ofExcept (r.bind (found id)))) C.world
    fun d => Call.noConfusion
  rw [World.answer_findById hC.storage hC.works] at hcall
  obtain ⟨cs, v, hcourse, hv⟩ := (concludes_outcome id (found id (m.find? id))).course drifts hi hcall
  exact ⟨cs, v, hcourse, hC.logged hv⟩

/-- The fetches from the store can come to their end. -/
theorem exists_ended_stored (hw : Reads m w) (drifts : Crew → World → Prop) (ids : List UInt64) :
    ∃ C, Crew.Course drifts (.start (fetches .stored ids) w) C ∧ C.Ended (ids.map fun id => found id (m.find? id)) := by
  obtain ⟨cs, v, hcourse, _⟩ := Crew.course_map (C := .start (fetches .stored ids) w)
    (fun C i id hC hi => course_stored drifts hC hi) ids [] (List.map_map ..) hw
  exact ⟨_, hcourse, ⟨(List.map_map ..).symm⟩⟩

end Stored

/-! ## Simulated fetches -/

/-- What a simulated fetch does when it has slept. -/
def woken (id : UInt64) (r : Except Fault Unit) : Act (Except Fault User) :=
  outcome id (Task.ofExcept (r.bind fun _ => simulate id))

/-- A simulated fetch waits first, and what it does then depends on whether it was woken. -/
theorem outcome_simulated (delay : Span) (id : UInt64) :
    outcome id (fetch (.simulated delay) id) = .call (.wait delay) (woken id) := by
  show Program.call _ _ = _
  congr
  funext r
  cases r <;> rfl

namespace Crew

/-- Time passes for a crew whose workers lose none: only while one of them sleeps and none is active, and not beyond the
moment at which one of them is due. -/
def Prompt (C : Crew) (v : World) : Prop :=
  ∃ d : Span, 0 ≤ d ∧ v = C.world.advance d ∧ (∃ due next, .asleep due next ∈ C.workers) ∧
    ∀ k ∈ C.workers, match k with
      | .active _ => False
      | .asleep due _ => C.world.clock + d ≤ due
      | .ended _ => True

end Crew

/-- Where a simulated fetch that set out in a world has come at a moment. -/
inductive Sleeps (delay : Span) (w : World) (clock : Instant) (id : UInt64) : Worker → Prop where
  | fresh (h : clock = w.clock) : Sleeps delay w clock id (.active (.call (.wait delay) (woken id)))
  | asleep : Sleeps delay w clock id (.asleep (w.clock + max delay 0) (woken id))
  | rested {k : Worker} (h : w.clock + max delay 0 ≤ clock) (hk : k.Nears (simulate id)) : Sleeps delay w clock id k
  | roused {k : Worker} {t : Instant} {f : Fault} (ht : w.deadline = some t) (h : t ≤ clock) (hk : k.Nears (.error f)) :
      Sleeps delay w clock id k

/-- A caller who has not given up loses patience only when the time is over. -/
theorem deadline_of_patience {w : World} {f : Fault} (hc : w.canceled = false) (h : w.patience = .error f) :
    ∃ t, w.deadline = some t ∧ t ≤ w.clock := by
  rw [World.patience, hc] at h
  cases hd : w.deadline with
  | none =>
    rw [hd] at h
    cases h
  | some t =>
    rw [hd] at h
    by_cases ht : t ≤ w.clock
    · exact ⟨t, rfl, ht⟩
    · simp [ht] at h

section Simulated

variable {delay : Span} {w : World} {C : Crew}

/-- A step of a simulated fetch takes it on, and only the log is written. -/
theorem Sleeps.steps {u v : World} {id : UInt64} {k k' : Worker} (h : Sleeps delay w u.clock id k) (hu : u.canceled = false)
    (hd : u.deadline = w.deadline) (hs : Steps k u k' v) :
    Sleeps delay w u.clock id k' ∧ SameButLog u v := by
  cases h with
  | fresh hclock =>
    cases hs with
    | rest d next u => exact ⟨hclock ▸ .asleep, .refl u⟩
    | call c next u hc => exact absurd rfl (hc delay)
  | asleep =>
    cases hs with
    | wake next hdue => exact ⟨.rested hdue (concludes_outcome id _), .refl u⟩
    | quit due next hpatience =>
      obtain ⟨t, ht, hle⟩ := deadline_of_patience hu hpatience
      exact ⟨.roused (hd.symm.trans ht) hle (concludes_outcome id _), .refl u⟩
  | rested hdue hk => exact ⟨.rested hdue (hk.steps hs).1, (hk.steps hs).2⟩
  | roused ht hle hk => exact ⟨.roused ht hle (hk.steps hs).1, (hk.steps hs).2⟩

/-- A crew on simulated fetches that has lost no time. -/
structure Crew.Dozes (delay : Span) (w : World) (ids : List UInt64) (C : Crew) : Prop where
  canceled : C.world.canceled = false
  deadline : C.world.deadline = w.deadline
  clock : C.world.clock ≤ w.clock + max delay 0
  workers : List.Forall₂ (Sleeps delay w C.world.clock) ids C.workers

/-- Time that passes promptly wakes nobody late. -/
theorem Crew.Dozes.drift {ids : List UInt64} {v : World} (h : C.Dozes delay w ids) (hv : C.Prompt v) :
    Crew.Dozes delay w ids { C with world := v } := by
  obtain ⟨d, hd, rfl, ⟨due, next, hmem⟩, hidle⟩ := hv
  -- All who sleep are due at the same moment.
  have hdue : C.world.clock + d ≤ w.clock + max delay 0 := by
    obtain ⟨i, hi⟩ := List.mem_iff_getElem?.1 hmem
    obtain ⟨id, hk, _⟩ := forall₂_set h.workers hi
    cases hk with
    | asleep => exact hidle _ hmem
    | rested _ hk => exact hk.elim
    | roused _ _ hk => exact hk.elim
  refine ⟨h.canceled, h.deadline, hdue, ?_⟩
  have hlater : C.world.clock ≤ C.world.clock + d := Int.le_add_of_nonneg_right hd
  obtain ⟨hlength, heach⟩ := List.forall₂_iff_zip.1 h.workers
  refine List.forall₂_iff_zip.2 ⟨hlength, fun {id k} hpair => ?_⟩
  cases heach hpair with
  | fresh _ => exact (hidle _ (List.of_mem_zip hpair).2).elim
  | asleep => exact .asleep
  | rested hrested hk => exact .rested (Int.le_trans hrested hlater) hk
  | roused ht hle hk => exact .roused ht (Int.le_trans hle hlater) hk

/-- Whatever happens next, a crew on simulated fetches loses no time. -/
theorem Crew.Dozes.next {ids : List UInt64} {C' : Crew} (h : C.Dozes delay w ids) (hn : Crew.Next Crew.Prompt C C') :
    C'.Dozes delay w ids := by
  cases hn with
  | drift hv => exact h.drift hv
  | @step i k k' v hi hs =>
    obtain ⟨id, hk, hset⟩ := forall₂_set h.workers hi
    obtain ⟨hk', entries, rfl⟩ := hk.steps h.canceled h.deadline hs
    exact ⟨h.canceled, h.deadline, h.clock, hset k' hk'⟩

/-- In its whole course a crew on simulated fetches loses no time. -/
theorem dozes_course {ids : List UInt64} (hw : w.canceled = false)
    (hc : Crew.Course Crew.Prompt (.start (fetches (.simulated delay) ids) w) C) : C.Dozes delay w ids := by
  induction hc with
  | refl =>
    refine ⟨hw, rfl, ?_, ?_⟩
    · exact Int.le_add_of_nonneg_right (Int.le_max_right delay 0)
    · show List.Forall₂ (Sleeps delay w w.clock) ids ((fetches (.simulated delay) ids).map .active)
      rw [fetches, List.map_map, List.forall₂_map_right_iff]
      refine List.forall₂_same.2 fun id _ => ?_
      rw [Function.comp_apply, outcome_simulated]
      exact .fresh rfl
  | tail _ hn ih => exact ih.next hn

/-- What a batch of simulated fetches comes to, whose callers have time until a moment. -/
def awaited (delay : Span) (ids : List UInt64) (now t : Instant) : Except Fault (List User) :=
  if t < now + max delay 0 then .error .deadlineExceeded else gathered (ids.map simulate)

/-- The time is over exactly if it is shorter than the delay. -/
theorem awaited_eq_deadlineExceeded_iff {delay : Span} {ids : List UInt64} {now t : Instant} :
    awaited delay ids now t = .error .deadlineExceeded ↔ t < now + max delay 0 := by
  unfold awaited
  split
  next h => exact iff_of_true rfl h
  next h =>
    refine iff_of_false (fun heq => ?_) h
    unfold gathered at heq
    split at heq <;> cases heq

/-- A caller who has not given up has patience until the time is over. -/
theorem patience_of_deadline {w : World} {t : Instant} (hc : w.canceled = false) (hd : w.deadline = some t) :
    w.patience = if t ≤ w.clock then .error .deadlineExceeded else .ok () := by
  rw [World.patience, hc, hd]
  rfl

/-- If the caller's time is over before the fetches wake up, none of them ends before that. -/
theorem Crew.Dozes.over {ids : List UInt64} {t : Instant} {os : List (Except Fault User)} (h : C.Dozes delay w ids)
    (hids : ids ≠ []) (he : C.Ended os) (hd : w.deadline = some t) (ht : t < w.clock + max delay 0) : t ≤ C.world.clock := by
  have hne : os ≠ [] := by
    rintro rfl
    exact hids (List.length_eq_zero_iff.1 (h.workers.length_eq.trans (congrArg List.length he.workers)))
  obtain ⟨o, rest, rfl⟩ := List.exists_cons_of_ne_nil hne
  have hfirst : C.workers[0]? = some (.ended o) := by
    rw [he.workers]
    rfl
  obtain ⟨id, hk, _⟩ := forall₂_set h.workers hfirst
  cases hk with
  | rested hrested _ => exact Int.le_trans (Int.le_of_lt ht) hrested
  | roused hdeadline hle _ =>
    obtain rfl := Option.some.inj (hd.symm.trans hdeadline)
    exact hle

/-- A crew on simulated fetches comes to what its callers wait for, unless their time ends just when the fetches do. -/
theorem result_of_simulated {ids : List UInt64} {t : Instant} (hids : ids ≠ []) (hw : w.canceled = false)
    (hd : w.deadline = some t) (ht : t ≠ w.clock + max delay 0)
    (hc : Crew.Course Crew.Prompt (.start (fetches (.simulated delay) ids) w) C) {os : List (Except Fault User)}
    (he : C.Ended os) : C.result = awaited delay ids w.clock t := by
  have hdozes := dozes_course hw hc
  have hpatience := patience_of_deadline hdozes.canceled (hdozes.deadline.trans hd)
  rw [Crew.result_of_ended hc he, hpatience, awaited]
  by_cases hlong : t < w.clock + max delay 0
  · rw [if_pos (hdozes.over hids he hd hlong), if_pos hlong]
    rfl
  · have hin : ¬t ≤ C.world.clock := fun hle => hlong (Int.lt_iff_le_and_ne.2 ⟨Int.le_trans hle hdozes.clock, ht⟩)
    have hos : os = ids.map simulate := by
      refine he.outcomes hdozes.workers fun id o hk => ?_
      cases hk with
      | rested _ hk => exact hk
      | roused hdeadline hle _ =>
        obtain rfl := Option.some.inj (hd.symm.trans hdeadline)
        exact absurd hle hin
    rw [if_neg hin, if_neg hlong, hos]
    rfl

/-- Simulated fetches can all come to an end without losing time: all fall asleep, time passes, and all wake up. -/
theorem exists_ended_simulated (delay : Span) {ids : List UInt64} (hids : ids ≠ []) (w : World) :
    ∃ C, Crew.Course Crew.Prompt (.start (fetches (.simulated delay) ids) w) C ∧ C.Ended (ids.map simulate) := by
  have hasleep : ∀ (C : Crew) i id, C.world = w →
      C.workers[i]? = some (.active (outcome id (fetch (.simulated delay) id))) →
      ∃ cs v, Crew.Course Crew.Prompt C ⟨C.workers.set i (.asleep (w.clock + max delay 0) (woken id)), cs, v⟩ ∧ v = w := by
    rintro C i id rfl hi
    rw [outcome_simulated] at hi
    exact ⟨_, C.world, .single (.step hi (.rest delay (woken id) C.world)), rfl⟩
  obtain ⟨cs, v, hbegun, hv⟩ := Crew.course_map (K := (· = w)) (C := .start (fetches (.simulated delay) ids) w) hasleep ids []
    (List.map_map ..) rfl
  rw [hv] at hbegun
  obtain ⟨id, hid⟩ := List.exists_mem_of_ne_nil ids hids
  have hprompt : Crew.Prompt ⟨[] ++ ids.map fun id => .asleep (w.clock + max delay 0) (woken id), cs, w⟩
      (w.advance (max delay 0)) := by
    refine ⟨_, Int.le_max_right delay 0, rfl, ⟨_, woken id, List.mem_map.2 ⟨id, hid, rfl⟩⟩, fun k hk => ?_⟩
    obtain ⟨id', _, rfl⟩ := List.mem_map.1 hk
    exact Int.le_refl _
  have hrested : ∀ (C : Crew) i id, w.clock + max delay 0 ≤ C.world.clock →
      C.workers[i]? = some (.asleep (w.clock + max delay 0) (woken id)) →
      ∃ cs v, Crew.Course Crew.Prompt C ⟨C.workers.set i (.ended (simulate id)), cs, v⟩ ∧ w.clock + max delay 0 ≤ v.clock := by
    intro C i id hdue hi
    obtain ⟨cs, _, hcourse, entries, rfl⟩ :=
      (concludes_outcome id (simulate id)).course Crew.Prompt hi (.wake (woken id) hdue)
    exact ⟨cs, _, hcourse, hdue⟩
  obtain ⟨cs', v', hended, _⟩ := Crew.course_map (K := fun v => w.clock + max delay 0 ≤ v.clock)
    (C := ⟨[] ++ ids.map _, cs, w.advance (max delay 0)⟩) hrested ids [] rfl (Int.le_refl _)
  exact ⟨_, (hbegun.tail (.drift hprompt)).trans hended, ⟨(List.map_map ..).symm⟩⟩

end Simulated

/-! ## Batches run one fetch after the other -/

/-- What is written to the log does not tell on the caller's patience. -/
theorem patience_of_log {w v : World} (h : SameButLog w v) : v.patience = w.patience := by
  obtain ⟨entries, rfl⟩ := h
  rfl

/-- There is an outcome for every id. -/
theorem outcomes_length (f : Fetcher) (ids : List UInt64) : Ends (fun os => os.length = ids.length) (outcomes f ids) := by
  have hmapM : ∀ (g : UInt64 → Act (Except Fault User)) (ids : List UInt64),
      Ends (fun os => os.length = ids.length) (ids.mapM g) := by
    intro g ids
    induction ids with
    | nil => exact rfl
    | cons id ids ih =>
      rw [List.mapM_cons]
      exact Ends.bind (g id) fun o => ih.bind_of fun os hos => congrArg Nat.succ hos
  cases f with
  | stored => exact hmapM _ ids
  | simulated delay => exact fun waited => hmapM _ ids

/-- What a batch comes to is decided by its caller's patience after the fetches and by their outcomes. -/
theorem attempt_run (f : Fetcher) {ids : List UInt64} (h : ids ≠ []) (w : World) :
    (w.attempt (run f ids)).1 =
      (w.run (outcomes f ids)).2.patience.bind fun _ => gathered (w.run (outcomes f ids)).1 := by
  have hlength : (w.run (outcomes f ids)).1.length = ids.length := (outcomes_length f ids).of_run World.answer w
  have hanswer : ∀ v : World, World.answer .patience v = (v.patience, v) := fun _ => rfl
  rw [World.attempt, World.run, run_run, if_neg (fun hempty => h (List.isEmpty_iff.1 hempty)), run_bind, run_call, hanswer]
  cases hpatience : (w.run (outcomes f ids)).2.patience with
  | error e =>
    rw [show (Program.run World.answer (outcomes f ids) w).2.patience = .error e from hpatience]
    rfl
  | ok _ =>
    rw [show (Program.run World.answer (outcomes f ids) w).2.patience = .ok () from hpatience]
    show gather (settle ids.length (placed (w.run (outcomes f ids)).1)) = _
    rw [← hlength, gather_settle_of_perm (.refl _)]
    rfl

/-- Programs run one after the other end as each does in every world of a kind, if they keep to worlds of that kind. -/
theorem run_mapM {K : World → Prop} {g : UInt64 → Act (Except Fault User)} {x : UInt64 → Except Fault User}
    (h : ∀ id v, K v → (v.run (g id)).1 = x id ∧ K (v.run (g id)).2) (ids : List UInt64) {w : World} (hw : K w) :
    (w.run (ids.mapM g)).1 = ids.map x ∧ K (w.run (ids.mapM g)).2 := by
  induction ids generalizing w with
  | nil => exact ⟨rfl, hw⟩
  | cons id ids ih =>
    obtain ⟨hfirst, hv⟩ := h id w hw
    obtain ⟨hrest, hv'⟩ := ih hv
    rw [List.mapM_cons, World.run, Program.bind_eq, run_bind, Program.bind_eq, run_bind]
    exact ⟨congrArg₂ List.cons hfirst hrest, hv'⟩

/-- Run one after the other, fetches from the store come to the same. -/
theorem attempt_run_stored {m : Store.Memory} {w : World} (hw : Reads m w) {ids : List UInt64} (hids : ids ≠ []) :
    (w.attempt (run .stored ids)).1 = w.patience.bind fun _ => lookedUp m ids := by
  have hone : ∀ id v, SameButLog w v → (v.run (outcome id (fetch .stored id))).1 = found id (m.find? id) ∧
      SameButLog w (v.run (outcome id (fetch .stored id))).2 := by
    intro id v hv
    obtain ⟨ho, hlog⟩ := (concludes_outcome id (found id (m.find? id))).run v
    rw [outcome_stored, World.run, run_call, World.answer_findById (hw.logged hv).storage (hw.logged hv).works]
    exact ⟨ho, hv.trans hlog⟩
  obtain ⟨hos, hv⟩ := run_mapM hone ids (.refl w)
  have houtcomes : outcomes .stored ids = ids.mapM fun id => outcome id (fetch .stored id) := rfl
  rw [attempt_run .stored hids, houtcomes, hos, patience_of_log hv, gathered_found]

/-- A caller whose time is over before the wait is out of patience after it. -/
theorem patience_wait_of_lt {w : World} {t : Instant} {delay : Span} (hc : w.canceled = false) (hd : w.deadline = some t)
    (ht : t < w.clock + max delay 0) : (w.wait delay).2.patience = .error .deadlineExceeded := by
  by_cases hnow : t ≤ w.clock
  · have hpatience : w.patience = .error .deadlineExceeded := by rw [patience_of_deadline hc hd, if_pos hnow]
    rw [World.wait, hpatience]
    exact hpatience
  · have hpatience : w.patience = .ok () := by rw [patience_of_deadline hc hd, if_neg hnow]
    rw [World.wait, hpatience, hd]
    dsimp only
    rw [if_pos ht, patience_of_deadline (w := w.advance (t - w.clock)) hc hd, if_pos]
    exact Int.le_of_eq ((Int.add_comm w.clock _).trans (Int.sub_add_cancel t w.clock)).symm

/-- A wait that ends in time takes its span and succeeds. -/
theorem wait_of_gt {w : World} {t : Instant} {delay : Span} (hc : w.canceled = false) (hd : w.deadline = some t)
    (ht : w.clock + max delay 0 < t) : w.wait delay = (.ok (), w.advance (max delay 0)) := by
  have hlater : w.clock ≤ w.clock + max delay 0 := Int.le_add_of_nonneg_right (Int.le_max_right delay 0)
  have hnow : ¬t ≤ w.clock := Int.not_le.2 (Int.lt_of_le_of_lt hlater ht)
  have hpatience : w.patience = .ok () := by rw [patience_of_deadline hc hd, if_neg hnow]
  rw [World.wait, hpatience, hd]
  dsimp only
  rw [if_neg (Int.not_lt.2 (Int.le_of_lt ht))]

/-- Run one after the other, simulated fetches come to the same, as they wait only once. -/
theorem attempt_run_simulated {delay : Span} {w : World} {t : Instant} {ids : List UInt64} (hids : ids ≠ [])
    (hw : w.canceled = false) (hd : w.deadline = some t) (ht : t ≠ w.clock + max delay 0) :
    (w.attempt (run (.simulated delay) ids)).1 = awaited delay ids w.clock t := by
  -- The wait is over before any fetch goes on, and all are told the same about it.
  have hone : ∀ waited u id v, SameButLog u v → (v.run (woken id waited)).1 = waited.bind (fun _ => simulate id) ∧
      SameButLog u (v.run (woken id waited)).2 := by
    intro waited u id v hv
    obtain ⟨ho, hlog⟩ := (concludes_outcome id (waited.bind fun _ => simulate id)).run v
    exact ⟨ho, hv.trans hlog⟩
  obtain ⟨hos, hv⟩ := run_mapM (hone (w.wait delay).1 (w.wait delay).2) ids (.refl _)
  have houtcomes : w.run (outcomes (.simulated delay) ids) =
      (w.wait delay).2.run (ids.mapM fun id => woken id (w.wait delay).1) := rfl
  rw [attempt_run _ hids, houtcomes, hos, patience_of_log hv, awaited]
  by_cases hlong : t < w.clock + max delay 0
  · rw [if_pos hlong, patience_wait_of_lt hw hd hlong]
    rfl
  · have hshort : w.clock + max delay 0 < t := Int.lt_iff_le_and_ne.2 ⟨Int.not_lt.1 hlong, ht.symm⟩
    rw [if_neg hlong, wait_of_gt hw hd hshort]
    have hin : ¬t ≤ (w.advance (max delay 0)).clock := Int.not_le.2 hshort
    dsimp only
    rw [patience_of_deadline (w := w.advance (max delay 0)) hw hd, if_neg hin]
    rfl

/-! ## What a batch comes to -/

/-- What a batch comes to does not depend on the order in which its fetches complete, in five parts.
1. Completions in any order come to the users of the fetches that succeeded, by their places.
2. So do any fetches that run side by side, step by step in any order and whatever happens to the world between two steps,
   provided that their caller still waits when all have ended; otherwise the caller's reason stands.
3. A batch run on its own agrees with this, and one without ids is refused whatever the caller's patience.
4. Fetches from a store in memory that works come to what it holds under the ids, one by one, and they can all end.
5. If the caller's time is not over at the very moment at which simulated fetches wake up, it is exceeded exactly if it is
   over before. They take no time except to sleep, and they can all end. -/
theorem batch_independent_of_order :
    (∀ (os : List (Except Fault User)) (completions : List (Nat × Except Fault User)), completions.Perm (placed os) →
      gather (settle os.length completions) = gathered os) ∧
    (∀ (drifts : Crew → World → Prop) (fetches : List (Act (Except Fault User))) (w : World) (C : Crew)
      (os : List (Except Fault User)), Crew.Course drifts (.start fetches w) C → C.Ended os →
      C.result = C.world.patience.bind fun _ => gathered os) ∧
    (∀ (f : Fetcher) (ids : List UInt64) (w : World), (w.attempt (run f ids)).1 =
      if ids = [] then .error .idsEmpty
      else (w.run (outcomes f ids)).2.patience.bind fun _ => gathered (w.run (outcomes f ids)).1) ∧
    (∀ (m : Store.Memory) (w : World) (ids : List UInt64), ids ≠ [] → Reads m w →
      (w.attempt (run .stored ids)).1 = (w.patience.bind fun _ => lookedUp m ids) ∧
      ∀ drifts : Crew → World → Prop, (∀ C v, drifts C v → C.world.Passes v) →
        (∀ C os, Crew.Course drifts (.start (fetches .stored ids) w) C → C.Ended os →
          C.result = C.world.patience.bind fun _ => lookedUp m ids) ∧
        ∃ C os, Crew.Course drifts (.start (fetches .stored ids) w) C ∧ C.Ended os) ∧
    (∀ (delay : Span) (w : World) (t : Instant) (ids : List UInt64), ids ≠ [] → w.canceled = false → w.deadline = some t →
      t ≠ w.clock + max delay 0 →
      (w.attempt (run (.simulated delay) ids)).1 = awaited delay ids w.clock t ∧
      (∀ C os, Crew.Course Crew.Prompt (.start (fetches (.simulated delay) ids) w) C → C.Ended os →
        C.result = awaited delay ids w.clock t) ∧
      (∃ C os, Crew.Course Crew.Prompt (.start (fetches (.simulated delay) ids) w) C ∧ C.Ended os) ∧
      (awaited delay ids w.clock t = .error .deadlineExceeded ↔ t < w.clock + max delay 0)) := by
  refine ⟨fun os completions h => gather_settle_of_perm h, fun drifts fetches w C os hc he => Crew.result_of_ended hc he,
    ?_, ?_, ?_⟩
  · intro f ids w
    split
    next h =>
      subst h
      rfl
    next h => exact attempt_run f h w
  · intro m w ids hids hw
    refine ⟨attempt_run_stored hw hids, fun drifts hd => ⟨fun C os hc he => result_of_stored hw hd hc he, ?_⟩⟩
    obtain ⟨C, hcourse, hended⟩ := exists_ended_stored hw drifts ids
    exact ⟨C, _, hcourse, hended⟩
  · intro delay w t ids hids hw hd ht
    refine ⟨attempt_run_simulated hids hw hd ht, fun C os hc he => result_of_simulated hids hw hd ht hc he, ?_,
      awaited_eq_deadlineExceeded_iff⟩
    obtain ⟨C, hcourse, hended⟩ := exists_ended_simulated delay hids w
    exact ⟨C, _, hcourse, hended⟩

/-- Four simulated fetches, one of an id that is not known and two of the same, with time to spare and without. -/
theorem four_fetches_with_time_and_without :
    (∃ C, Crew.Course Crew.Prompt (.start (fetches (.simulated 3) [4, 7, 2, 4]) { clock := 0, deadline := some 5 }) C ∧
      C.result.map (List.map User.id) = .ok [4, 2, 4]) ∧
    (∃ C, Crew.Course Crew.Prompt (.start (fetches (.simulated 3) [4, 7, 2, 4]) { clock := 0, deadline := some 2 }) C ∧
      C.result = .error .deadlineExceeded) := by
  obtain ⟨_, _, _, _, hsimulated⟩ := batch_independent_of_order
  constructor
  · obtain ⟨_, hall, ⟨C, os, hcourse, hended⟩, _⟩ :=
      hsimulated 3 { clock := 0, deadline := some 5 } 5 [4, 7, 2, 4] (List.cons_ne_nil _ _) rfl rfl (by decide)
    refine ⟨C, hcourse, ?_⟩
    rw [hall C os hcourse hended]
    decide +kernel
  · obtain ⟨_, hall, ⟨C, os, hcourse, hended⟩, hlate⟩ :=
      hsimulated 3 { clock := 0, deadline := some 2 } 2 [4, 7, 2, 4] (List.cons_ne_nil _ _) rfl rfl (by decide)
    refine ⟨C, hcourse, ?_⟩
    rw [hall C os hcourse hended]
    exact hlate.2 (by decide)

end Roster.Batch
