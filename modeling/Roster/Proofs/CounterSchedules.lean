import Mathlib.Algebra.GroupWithZero.Nat
import Mathlib.Data.List.Induction
import Mathlib.Data.List.Nodup
import Roster.Counter
import Roster.Proofs.Program

/-!
# Counting under every schedule

What a worker does next depends on how many turns it has had: it counts, then it reads the total, then it reports what it has
read, and then it is done (`Worker.At`). So a schedule finishes the count exactly if it gives each worker its turns. What has
been counted and what is left to count always add up to the same (`Turn.conserved`), from which the bounds on every total
follow. The worker that reads last finds nothing left to count, so it reads the full total.
-/

namespace Roster.Counter

/-! ## Turns -/

/-- Where a worker with the given number of iterations has come after some turns. -/
inductive Worker.At (iterations n : Nat) : Worker → Prop where
  | counting {left : Nat} (h : n + left = iterations) : At iterations n { left }
  | informed (h : n = iterations + 1) (total : Nat) : At iterations n { left := 0, seen := some total }
  | finished (h : iterations + 2 ≤ n) (total : Nat) : At iterations n { left := 0, seen := some total, reported := true }

namespace Worker.At

variable {iterations n : Nat} {k : Worker}

/-- No worker has more left to count than it was given. -/
theorem left_le (h : k.At iterations n) : k.left ≤ iterations := by
  cases h with
  | counting h => exact h ▸ Nat.le_add_left ..
  | informed _ _ => exact Nat.zero_le _
  | finished _ _ => exact Nat.zero_le _

/-- Who has read a total has nothing left to count. -/
theorem left_of_seen (h : k.At iterations n) (hk : k.seen ≠ none) : k.left = 0 := by
  cases h with
  | counting _ => exact absurd rfl hk
  | informed _ _ => rfl
  | finished _ _ => rfl

/-- A worker has reported exactly if it has had two turns more than it has iterations. -/
theorem reported_iff (h : k.At iterations n) : k.reported = true ↔ iterations + 2 ≤ n := by
  cases h with
  | counting h => exact iff_of_false Bool.false_ne_true (by omega)
  | informed h _ => exact iff_of_false Bool.false_ne_true (by omega)
  | finished h _ => exact iff_of_true rfl h

/-- A worker that has reported has nothing left to count and has read a total. -/
theorem eq_of_reported (h : k.At iterations n) (hk : k.reported = true) :
    ∃ total, k = { left := 0, seen := some total, reported := true } := by
  cases h with
  | counting _ => cases hk
  | informed _ _ => cases hk
  | finished _ total => exact ⟨total, rfl⟩

end Worker.At

/-- A worker put in place of another. -/
def State.replace (s : State) (w : Nat) (k : Worker) : State := { s with workers := s.workers.setIfInBounds w k }

/-- What a turn of a worker can do. -/
inductive Turn (s : State) (w : Nat) : Event → State → Prop where
  | absent (h : s.workers[w]? = none) : Turn s w .idle s
  | finished {total : Nat} (h : s.workers[w]? = some { left := 0, seen := some total, reported := true }) : Turn s w .idle s
  | increment {n : Nat} (h : s.workers[w]? = some { left := n + 1 }) :
      Turn s w .incremented ({ s with count := s.count + 1 }.replace w { left := n })
  | read (h : s.workers[w]? = some { left := 0 }) : Turn s w .read (s.replace w { left := 0, seen := some s.count })
  | report {total : Nat} (h : s.workers[w]? = some { left := 0, seen := some total }) :
      Turn s w (.reported w total)
        ({ s with reports := s.reports ++ [(w, total)] }.replace w { left := 0, seen := some total, reported := true })

/-- A step is a turn of the worker, if it is where its turns have brought it. -/
theorem turn_step {s : State} {w iterations n : Nat} (h : ∀ k, s.workers[w]? = some k → k.At iterations n) :
    Turn s w (step s w).1 (step s w).2 := by
  cases hw : s.workers[w]? with
  | none =>
    simp only [step, hw]
    exact .absent hw
  | some k =>
    cases h k hw with
    | @counting left _ =>
      cases left with
      | zero =>
        simp only [step, hw]
        exact .read hw
      | succ m =>
        simp only [step, hw]
        exact .increment hw
    | informed _ total =>
      simp only [step, hw]
      exact .report hw
    | finished _ total =>
      simp only [step, hw]
      exact .finished hw

section Replace

variable {s : State} {w : Nat} {k k' : Worker}

/-- A worker that is put in place of another is there. -/
theorem getElem?_replace_self (h : s.workers[w]? = some k) : (s.replace w k').workers[w]? = some k' :=
  Array.getElem?_setIfInBounds_self_of_lt (Array.getElem?_eq_some_iff.1 h).1

/-- The other workers are left as they were. -/
theorem getElem?_replace_ne {v : Nat} (h : v ≠ w) : (s.replace w k').workers[v]? = s.workers[v]? :=
  Array.getElem?_setIfInBounds_ne h.symm

/-- What holds of all workers and their places holds of them after one has been replaced by another of which it holds. -/
theorem forall_replace {P : Nat → Worker → Prop} (h : s.workers[w]? = some k) (hk' : P w k')
    (hother : ∀ v x, v ≠ w → s.workers[v]? = some x → P v x) (v : Nat) (x : Worker)
    (hx : (s.replace w k').workers[v]? = some x) : P v x := by
  by_cases hv : v = w
  · subst hv
    rw [getElem?_replace_self h] at hx
    exact Option.some.inj hx ▸ hk'
  · rw [getElem?_replace_ne hv] at hx
    exact hother v x hv hx

end Replace

/-! ## What is left to count -/

/-- How many increments are left to all workers together. -/
def State.remaining (s : State) : Nat := (s.workers.toList.map Worker.left).sum

/-- Replacing one worker changes the sum by what that worker has left. -/
theorem sum_left_set {ks : List Worker} {i : Nat} {k : Worker} (h : ks[i]? = some k) (k' : Worker) :
    ((ks.set i k').map Worker.left).sum + k.left = (ks.map Worker.left).sum + k'.left := by
  induction ks generalizing i with
  | nil => cases h
  | cons x ks ih =>
    cases i with
    | zero =>
      obtain rfl : x = k := Option.some.inj h
      simp only [List.set_cons_zero, List.map_cons, List.sum_cons]
      omega
    | succ i =>
      have hrest := ih (i := i) h
      simp only [List.set_cons_succ, List.map_cons, List.sum_cons]
      omega

/-- Replacing a worker changes what is left to all by what that worker has left. -/
theorem remaining_replace {s : State} {w : Nat} {k : Worker} (h : s.workers[w]? = some k) (k' : Worker) :
    (s.replace w k').remaining + k.left = s.remaining + k'.left := by
  have hlist : s.workers.toList[w]? = some k := by rw [Array.getElem?_toList, h]
  have hset : (s.replace w k').workers.toList = s.workers.toList.set w k' := Array.toList_setIfInBounds
  rw [State.remaining, hset]
  exact sum_left_set hlist k'

namespace Turn

variable {s s' : State} {w : Nat} {e : Event}

/-- A turn counts exactly what it takes from what is left. -/
theorem conserved (h : Turn s w e s') : s'.count + s'.remaining = s.count + s.remaining := by
  cases h with
  | absent _ => rfl
  | finished _ => rfl
  | @increment n hk =>
    have hremaining := remaining_replace (s := { s with count := s.count + 1 }) hk { left := n }
    have hsame : ({ s with count := s.count + 1 } : State).remaining = s.remaining := rfl
    show s.count + 1 + _ = _
    rw [hsame] at hremaining
    dsimp only at hremaining
    omega
  | read hk => exact congrArg (s.count + ·) (remaining_replace hk _)
  | report hk => exact congrArg (s.count + ·) (remaining_replace (s := { s with reports := _ }) hk _)

/-- A turn keeps the number of workers. -/
theorem size (h : Turn s w e s') : s'.workers.size = s.workers.size := by
  cases h with
  | absent _ => rfl
  | finished _ => rfl
  | increment _ => exact Array.size_setIfInBounds
  | read _ => exact Array.size_setIfInBounds
  | report _ => exact Array.size_setIfInBounds

/-- A turn brings its worker one turn further. -/
theorem at_next (h : Turn s w e s') {iterations : Nat} {schedule : List Nat}
    (hat : ∀ (v : Nat) k, s.workers[v]? = some k → k.At iterations (schedule.count v)) (v : Nat) (k : Worker)
    (hk : s'.workers[v]? = some k) : k.At iterations ((schedule ++ [w]).count v) := by
  have hself : (schedule ++ [w]).count w = schedule.count w + 1 := by
    rw [List.count_append, List.count_singleton_self]
  have hother : ∀ (v : Nat) x, v ≠ w → s.workers[v]? = some x → x.At iterations ((schedule ++ [w]).count v) := by
    intro v x hv hx
    rw [List.count_append, List.count_singleton, if_neg (by simpa using hv.symm)]
    exact hat v x hx
  cases h with
  | absent h =>
    refine hother v k (fun hv => ?_) hk
    rw [hv, h] at hk
    cases hk
  | @finished total h =>
    by_cases hv : v = w
    · subst hv
      obtain rfl := Option.some.inj (hk.symm.trans h)
      refine .finished ?_ total
      have hover := (hat v _ h).reported_iff.1 rfl
      omega
    · exact hother v k hv hk
  | @increment n h =>
    refine forall_replace h ?_ hother v k hk
    rw [hself]
    cases hat w _ h with
    | counting hn => exact .counting (by omega)
  | read h =>
    refine forall_replace h ?_ hother v k hk
    rw [hself]
    cases hat w _ h with
    | counting hn => exact .informed (by omega) s.count
  | @report total h =>
    refine forall_replace h ?_ hother v k hk
    rw [hself]
    cases hat w _ h with
    | informed hn _ => exact .finished (by omega) total

end Turn

/-! ## Reports -/

/-- The reports are those of the workers that have made one, each once. -/
structure State.Accounted (s : State) : Prop where
  once : (s.reports.map Prod.fst).Nodup
  mem : ∀ w total, (w, total) ∈ s.reports ↔ s.workers[w]? = some { left := 0, seen := some total, reported := true }

/-- Replacing a worker that has not reported by one that has not either leaves the reports accounted for. -/
theorem State.Accounted.replace {s : State} {w : Nat} {k k' : Worker} (hs : s.Accounted) (h : s.workers[w]? = some k)
    (hk : k.reported = false) (hk' : k'.reported = false) : (s.replace w k').Accounted := by
  refine ⟨hs.once, fun v total => (hs.mem v total).trans ?_⟩
  by_cases hv : v = w
  · subst hv
    rw [h, getElem?_replace_self h]
    refine iff_of_false ?_ ?_
    · rintro ⟨rfl⟩
      cases hk
    · rintro ⟨rfl⟩
      cases hk'
  · rw [getElem?_replace_ne hv]

/-- A turn keeps the reports accounted for. -/
theorem Turn.accounted {s s' : State} {w : Nat} {e : Event} (h : Turn s w e s') (hs : s.Accounted) : s'.Accounted := by
  cases h with
  | absent _ => exact hs
  | finished _ => exact hs
  | increment hk => exact State.Accounted.replace ⟨hs.once, hs.mem⟩ hk rfl rfl
  | read hk => exact hs.replace hk rfl rfl
  | @report total hk =>
    -- The worker had not reported before, so its report is new.
    have hnew : ∀ total, (w, total) ∉ s.reports := by
      intro total' hmem
      rw [hs.mem, hk] at hmem
      cases hmem
    refine ⟨?_, fun v total' => ?_⟩
    · show ((s.reports ++ [(w, total)]).map Prod.fst).Nodup
      rw [List.map_append, List.nodup_append']
      refine ⟨hs.once, List.nodup_singleton _, ?_⟩
      intro v hv hw
      obtain rfl : v = w := List.mem_singleton.1 hw
      obtain ⟨⟨_, total'⟩, hmem, rfl⟩ := List.mem_map.1 hv
      exact hnew total' hmem
    · show (v, total') ∈ s.reports ++ [(w, total)] ↔ _
      rw [List.mem_append, List.mem_singleton, Prod.mk.injEq]
      by_cases hv : v = w
      · subst hv
        rw [getElem?_replace_self (s := { s with reports := s.reports ++ [(v, total)] }) hk]
        refine ⟨fun h => ?_, ?_⟩
        · rw [(h.resolve_left (hnew total')).2]
        · rintro ⟨rfl⟩
          exact .inr ⟨rfl, rfl⟩
      · rw [getElem?_replace_ne hv, hs.mem]
        exact ⟨fun h => h.resolve_right fun heq => hv heq.1, .inl⟩

/-- A total that a worker has seen was seen before the turn, or it is the count that the worker has just read. -/
theorem Turn.seen {s s' : State} {w : Nat} {e : Event} (h : Turn s w e s') {R : Nat → Nat → Prop}
    (hs : ∀ (v : Nat) k total, s.workers[v]? = some k → k.seen = some total → R v total) (hread : e = .read → R w s.count)
    (v : Nat) (k : Worker) (total : Nat) (hk : s'.workers[v]? = some k) (htotal : k.seen = some total) : R v total := by
  have hother : ∀ (v : Nat) x, v ≠ w → s.workers[v]? = some x → ∀ total, x.seen = some total → R v total :=
    fun v x _ hx total => hs v x total hx
  cases h with
  | absent _ => exact hs v k total hk htotal
  | finished _ => exact hs v k total hk htotal
  | increment h => exact forall_replace h (fun _ heq => by cases heq) hother v k hk total htotal
  | read h => exact forall_replace h (fun _ heq => Option.some.inj heq ▸ hread rfl) hother v k hk total htotal
  | report h => exact forall_replace h (fun total => hs w _ total h) hother v k hk total htotal

/-! ## The last to read -/

/-- Some worker has not read the total yet, or has read the given one. -/
def State.Awaits (s : State) (full : Nat) : Prop :=
  ∃ (w : Nat) (k : Worker), s.workers[w]? = some k ∧ (k.seen = none ∨ k.seen = some full)

/-- Nothing is left where no worker has anything left. -/
theorem remaining_eq_zero {s : State} (h : ∀ (w : Nat) k, s.workers[w]? = some k → k.left = 0) : s.remaining = 0 := by
  rw [State.remaining, List.sum_eq_zero_iff_forall_eq_nat]
  intro n hn
  obtain ⟨k, hk, rfl⟩ := List.mem_map.1 hn
  obtain ⟨w, hw⟩ := List.mem_iff_getElem?.1 hk
  exact h w k (by rw [← hw, Array.getElem?_toList])

/-- A turn leaves somebody who has yet to read, or has read the full total: the last to read finds nothing left to count. -/
theorem Turn.awaits {s s' : State} {w : Nat} {e : Event} (h : Turn s w e s') {full : Nat} (hs : s.Awaits full)
    (hseen : ∀ (v : Nat) k, s.workers[v]? = some k → k.seen ≠ none → k.left = 0) (hfull : s.count + s.remaining = full) :
    s'.Awaits full := by
  obtain ⟨v, x, hx, hxseen⟩ := hs
  cases h with
  | absent _ => exact ⟨v, x, hx, hxseen⟩
  | finished _ => exact ⟨v, x, hx, hxseen⟩
  | increment hk => exact ⟨w, _, getElem?_replace_self (s := { s with count := _ }) hk, .inl rfl⟩
  | read hk =>
    by_cases hother : ∃ (u : Nat) (y : Worker), u ≠ w ∧ s.workers[u]? = some y ∧ y.seen = none
    · obtain ⟨u, y, hu, hy, hnone⟩ := hother
      exact ⟨u, y, (getElem?_replace_ne hu).trans hy, .inl hnone⟩
    · -- All others have read, so nothing is left to count.
      have hleft : ∀ (u : Nat) y, s.workers[u]? = some y → y.left = 0 := by
        intro u y hy
        by_cases hu : u = w
        · subst hu
          obtain rfl := Option.some.inj (hy.symm.trans hk)
          rfl
        · exact hseen u y hy fun hnone => hother ⟨u, y, hu, hy, hnone⟩
      rw [remaining_eq_zero hleft, Nat.add_zero] at hfull
      exact ⟨w, _, getElem?_replace_self hk, .inr (congrArg some hfull)⟩
  | @report total hk =>
    by_cases hv : v = w
    · subst hv
      obtain rfl := Option.some.inj (hx.symm.trans hk)
      exact ⟨v, _, getElem?_replace_self (s := { s with reports := _ }) hk, hxseen⟩
    · exact ⟨v, x, (getElem?_replace_ne hv).trans hx, hxseen⟩

/-! ## Every schedule -/

/-- A schedule with one more turn is run up to it and then takes the turn. -/
theorem run_concat (s : State) (schedule : List Nat) (w : Nat) : run s (schedule ++ [w]) = (step (run s schedule) w).2 := by
  rw [run, List.foldl_append]
  rfl

/-- At some point of a schedule a worker reads a total, which is the count at that point. -/
def ReadIn (s : State) (schedule : List Nat) (w total : Nat) : Prop :=
  ∃ before after, schedule = before ++ w :: after ∧ (step (run s before) w).1 = .read ∧ total = (run s before).count

/-- What was read in a schedule was read in a longer one. -/
theorem ReadIn.concat {s : State} {schedule : List Nat} {w total : Nat} (h : ReadIn s schedule w total) (v : Nat) :
    ReadIn s (schedule ++ [v]) w total := by
  obtain ⟨before, after, rfl, hread, htotal⟩ := h
  exact ⟨before, after ++ [v], List.append_assoc .., hread, htotal⟩

/-- What a schedule from the start has led to. -/
structure Reached (workers iterations : Nat) (schedule : List Nat) (s : State) : Prop where
  size : s.workers.size = workers
  turns : ∀ (w : Nat) k, s.workers[w]? = some k → k.At iterations (schedule.count w)
  conserved : s.count + s.remaining = workers * iterations
  accounted : s.Accounted
  awaits : 0 < workers → s.Awaits (workers * iterations)
  reads : ∀ (w : Nat) k total, s.workers[w]? = some k → k.seen = some total →
    ReadIn (start workers iterations) schedule w total

/-- At the start nobody has had a turn. -/
theorem reached_start (workers iterations : Nat) : Reached workers iterations [] (start workers iterations) := by
  have hworker : ∀ (w : Nat) k, (start workers iterations).workers[w]? = some k → k = { left := iterations } := by
    intro w k hk
    exact (Array.mem_replicate.1 (Array.mem_of_getElem? hk)).2
  refine ⟨Array.size_replicate, ?_, ?_, ⟨List.nodup_nil, fun w total => ?_⟩, fun h => ?_, ?_⟩
  · intro w k hk
    rw [hworker w k hk]
    exact .counting (Nat.zero_add _)
  · show 0 + State.remaining _ = _
    rw [State.remaining, start, Array.toList_replicate, List.map_replicate, List.sum_replicate_nat, Nat.zero_add]
  · refine iff_of_false List.not_mem_nil fun hk => ?_
    cases hworker w _ hk
  · exact ⟨0, { left := iterations }, by simp [start, h], .inl rfl⟩
  · intro w k total hk hseen
    rw [hworker w k hk] at hseen
    cases hseen

/-- One more turn leads to what the longer schedule leads to. -/
theorem Reached.next {workers iterations : Nat} {schedule : List Nat}
    (h : Reached workers iterations schedule (run (start workers iterations) schedule)) (w : Nat) :
    Reached workers iterations (schedule ++ [w]) (run (start workers iterations) (schedule ++ [w])) := by
  rw [run_concat]
  have hturn := turn_step (h.turns w)
  have hseen : ∀ (v : Nat) k, (run (start workers iterations) schedule).workers[v]? = some k → k.seen ≠ none → k.left = 0 :=
    fun v k hk => (h.turns v k hk).left_of_seen
  refine ⟨hturn.size.trans h.size, hturn.at_next h.turns, hturn.conserved.trans h.conserved, hturn.accounted h.accounted,
    fun hpos => hturn.awaits (h.awaits hpos) hseen h.conserved, ?_⟩
  refine hturn.seen (fun v k total hk htotal => (h.reads v k total hk htotal).concat w) fun hread => ?_
  exact ⟨schedule, [], rfl, hread, rfl⟩

/-- Every schedule leads to a state that it can have led to. -/
theorem reached_run (workers iterations : Nat) (schedule : List Nat) :
    Reached workers iterations schedule (run (start workers iterations) schedule) := by
  induction schedule using List.reverseRecOn with
  | nil => exact reached_start workers iterations
  | append_singleton schedule w ih => exact ih.next w

/-! ## Bounds on the count -/

/-- How many workers have nothing left to count. -/
def State.through (s : State) : Nat := s.workers.toList.countP fun k => k.left == 0

/-- Each worker that is through has counted all of its iterations. -/
theorem sum_left_le {iterations : Nat} {ks : List Worker} (h : ∀ k ∈ ks, k.left ≤ iterations) :
    (ks.map Worker.left).sum + iterations * ks.countP (fun k => k.left == 0) ≤ ks.length * iterations := by
  induction ks with
  | nil => simp
  | cons k ks ih =>
    have hk := h k List.mem_cons_self
    have hks := ih fun x hx => h x (List.mem_cons_of_mem k hx)
    rw [List.map_cons, List.sum_cons, List.countP_cons, List.length_cons, Nat.mul_add, Nat.succ_mul]
    split
    next hzero =>
      have : k.left = 0 := by simpa using hzero
      omega
    next => omega

section Reached

variable {workers iterations : Nat} {schedule : List Nat} {s : State}

/-- The count is at least what the workers that are through have counted. -/
theorem Reached.through_le_count (h : Reached workers iterations schedule s) : iterations * s.through ≤ s.count := by
  have hleft : ∀ k ∈ s.workers.toList, k.left ≤ iterations := by
    intro k hk
    obtain ⟨w, hw⟩ := List.mem_iff_getElem?.1 hk
    exact (h.turns w k (by rw [← hw, Array.getElem?_toList])).left_le
  have hsum := sum_left_le hleft
  have hconserved := h.conserved
  rw [Array.length_toList, h.size] at hsum
  rw [State.remaining] at hconserved
  rw [State.through]
  omega

/-- The count is at most the product. -/
theorem Reached.count_le (h : Reached workers iterations schedule s) : s.count ≤ workers * iterations :=
  h.conserved ▸ Nat.le_add_right ..

/-! ## The end -/

/-- All workers have reported. -/
def State.Finished (s : State) : Prop := ∀ k ∈ s.workers, k.reported = true

/-- A schedule finishes the count exactly if it gives every worker its turns. -/
theorem Reached.finished_iff (h : Reached workers iterations schedule s) :
    s.Finished ↔ ∀ w < workers, iterations + 2 ≤ schedule.count w := by
  constructor
  · intro hfinished w hw
    have hk := Array.getElem?_eq_getElem (h.size.symm ▸ hw : w < s.workers.size)
    exact (h.turns w _ hk).reported_iff.1 (hfinished _ (Array.mem_of_getElem? hk))
  · intro hturns k hk
    obtain ⟨w, hw⟩ := Array.mem_iff_getElem?.1 hk
    have hlt : w < workers := h.size ▸ (Array.getElem?_eq_some_iff.1 hw).1
    exact (h.turns w k hw).reported_iff.2 (hturns w hlt)

/-- A finished count is the product. -/
theorem Reached.count_of_finished (h : Reached workers iterations schedule s) (hs : s.Finished) :
    s.count = workers * iterations := by
  have hleft : ∀ (w : Nat) k, s.workers[w]? = some k → k.left = 0 := by
    intro w k hk
    obtain ⟨total, rfl⟩ := (h.turns w k hk).eq_of_reported (hs k (Array.mem_of_getElem? hk))
    rfl
  rw [← h.conserved, remaining_eq_zero hleft, Nat.add_zero]

/-- A finished count has one report of every worker. -/
theorem Reached.perm_of_finished (h : Reached workers iterations schedule s) (hs : s.Finished) :
    (s.reports.map Prod.fst).Perm (List.range workers) := by
  refine (List.perm_ext_iff_of_nodup h.accounted.once List.nodup_range).2 fun w => ?_
  rw [List.mem_range, ← h.size]
  constructor
  · intro hw
    obtain ⟨⟨_, total⟩, hmem, rfl⟩ := List.mem_map.1 hw
    exact (Array.getElem?_eq_some_iff.1 ((h.accounted.mem _ total).1 hmem)).1
  · intro hw
    have hk := Array.getElem?_eq_getElem hw
    obtain ⟨total, htotal⟩ := (h.turns w _ hk).eq_of_reported (hs _ (Array.mem_of_getElem? hk))
    exact List.mem_map.2 ⟨(w, total), (h.accounted.mem w total).2 (htotal ▸ hk), rfl⟩

/-- In a finished count somebody reports the full total. -/
theorem Reached.full_report (h : Reached workers iterations schedule s) (hs : s.Finished) (hpos : 0 < workers) :
    ∃ w, (w, workers * iterations) ∈ s.reports := by
  obtain ⟨w, k, hk, hseen⟩ := h.awaits hpos
  obtain ⟨total, rfl⟩ := (h.turns w k hk).eq_of_reported (hs k (Array.mem_of_getElem? hk))
  obtain rfl := Option.some.inj (hseen.resolve_left (Option.some_ne_none total))
  exact ⟨w, (h.accounted.mem w _).2 hk⟩

/-- A reported total was read at some point of the schedule. -/
theorem Reached.readIn (h : Reached workers iterations schedule s) {w total : Nat} (hmem : (w, total) ∈ s.reports) :
    ReadIn (start workers iterations) schedule w total :=
  h.reads w _ total ((h.accounted.mem w total).1 hmem) rfl

end Reached

/-! ## Schedules performed -/

/-- What a step of a worker does to the surroundings. -/
inductive Deed where
  | pause
  | report (r : Report)

namespace Deed

/-- A deed as it is done. -/
def act (delay : Span) (onReport : Report → Act Unit) : Deed → Act Unit
  | pause => if delay > 0 then Act.ask (.pause delay) else pure ()
  | report r => onReport r

/-- The report that is passed on. -/
def report? : Deed → Option Report
  | pause => none
  | report r => some r

/-- The deed that an event is, in the state after it. -/
def of (s : State) : Event → List Deed
  | .incremented => [pause]
  | .reported worker total => [report { worker, total, finished := s.reports.length }]
  | .read | .idle => []

end Deed

/-- The deeds of a schedule. -/
def deeds : List Nat → State → List Deed
  | [], _ => []
  | w :: schedule, s => Deed.of (step s w).2 (step s w).1 ++ deeds schedule (step s w).2

/-- The reports that a schedule passes on, in order. -/
def passedOn (schedule : List Nat) (s : State) : List Report := (deeds schedule s).filterMap Deed.report?

/-- To perform a schedule is to do its deeds, one after the other. -/
theorem perform_eq (delay : Span) (onReport : Report → Act Unit) (schedule : List Nat) (s : State) :
    perform delay onReport schedule s = (do
      (deeds schedule s).forM (Deed.act delay onReport)
      pure (run s schedule)) := by
  induction schedule generalizing s with
  | nil => rfl
  | cons w schedule ih =>
    have hrun : run s (w :: schedule) = run (step s w).2 schedule := rfl
    rw [perform, deeds, hrun]
    obtain ⟨e, s'⟩ := step s w
    dsimp only
    rw [ih]
    cases e with
    | incremented =>
      show _ = (Deed.act delay onReport .pause >>= fun _ => (deeds schedule s').forM (Deed.act delay onReport)) >>= _
      rw [bind_assoc, Deed.act]
      dsimp only
      split
      · rfl
      · rfl
    | read => rfl
    | reported worker total => exact (bind_assoc ..).symm
    | idle => rfl

/-- A state has the reports that were there before and those passed on since. -/
theorem reports_run (schedule : List Nat) (s : State) :
    (run s schedule).reports = s.reports ++ (passedOn schedule s).map fun r => (r.worker, r.total) := by
  induction schedule generalizing s with
  | nil => exact (List.append_nil _).symm
  | cons w schedule ih =>
    have hrun : run s (w :: schedule) = run (step s w).2 schedule := rfl
    have hpassed : passedOn (w :: schedule) s =
        (Deed.of (step s w).2 (step s w).1).filterMap Deed.report? ++ passedOn schedule (step s w).2 := List.filterMap_append ..
    have hstep : (step s w).2.reports =
        s.reports ++ ((Deed.of (step s w).2 (step s w).1).filterMap Deed.report?).map fun r => (r.worker, r.total) := by
      unfold step
      split
      · exact (List.append_nil _).symm
      · exact (List.append_nil _).symm
      · exact (List.append_nil _).symm
      · rfl
      · exact (List.append_nil _).symm
    rw [hrun, hpassed, ih, hstep, List.map_append, List.append_assoc]

/-- A step passes on nothing, or a report that says how many reports there are now. -/
theorem step_passes (s : State) (w : Nat) :
    (Deed.of (step s w).2 (step s w).1).filterMap Deed.report? = [] ∧ (step s w).2.reports.length = s.reports.length ∨
    ∃ r, (Deed.of (step s w).2 (step s w).1).filterMap Deed.report? = [r] ∧ r.finished = s.reports.length + 1 ∧
      (step s w).2.reports.length = s.reports.length + 1 := by
  unfold step
  split
  · exact .inl ⟨rfl, rfl⟩
  · exact .inl ⟨rfl, rfl⟩
  · exact .inl ⟨rfl, rfl⟩
  · exact .inr ⟨_, rfl, List.length_append, List.length_append⟩
  · exact .inl ⟨rfl, rfl⟩

/-- The reports that are passed on are numbered one after the other. -/
theorem finished_passedOn (schedule : List Nat) (s : State) :
    (passedOn schedule s).map Report.finished = List.range' (s.reports.length + 1) (passedOn schedule s).length := by
  induction schedule generalizing s with
  | nil => rfl
  | cons w schedule ih =>
    have hpassed : passedOn (w :: schedule) s =
        (Deed.of (step s w).2 (step s w).1).filterMap Deed.report? ++ passedOn schedule (step s w).2 := List.filterMap_append ..
    have hrest := ih (step s w).2
    obtain ⟨hnone, hlength⟩ | ⟨r, hone, hr, hlength⟩ := step_passes s w
    · rw [hpassed, hnone, List.nil_append, hrest, hlength]
    · rw [hpassed, hone, List.singleton_append, List.map_cons, List.length_cons, List.range'_succ, hr, hrest, hlength]

section Reports

variable {workers iterations : Nat} {schedule : List Nat}

/-- The reports of a schedule are those that it passes on. -/
theorem reports_start :
    (run (start workers iterations) schedule).reports =
      (passedOn schedule (start workers iterations)).map fun r => (r.worker, r.total) :=
  (reports_run schedule _).trans (List.nil_append _)

/-- By the end every worker has reported once. -/
theorem length_passedOn (h : (run (start workers iterations) schedule).Finished) :
    (passedOn schedule (start workers iterations)).length = workers := by
  have hperm := (reached_run workers iterations schedule).perm_of_finished h
  rw [reports_start, List.map_map] at hperm
  simpa using hperm.length_eq

/-- No report is beyond the product. -/
theorem total_le {r : Report} (h : r ∈ passedOn schedule (start workers iterations)) : r.total ≤ workers * iterations := by
  have hmem : (r.worker, r.total) ∈ (run (start workers iterations) schedule).reports := by
    rw [reports_start]
    exact List.mem_map.2 ⟨r, h, rfl⟩
  obtain ⟨before, -, -, -, htotal⟩ := (reached_run workers iterations schedule).readIn hmem
  rw [htotal]
  exact (reached_run workers iterations before).count_le

end Reports

/-! ## What a count comes to -/

/-- With the workers one after the other, each gets its turns. -/
theorem turns_inTurn {workers iterations w : Nat} (h : w < workers) :
    iterations + 2 ≤ (inTurn workers iterations).count w := by
  have hpart : (List.replicate (iterations + 2) w).Sublist (inTurn workers iterations) := by
    rw [inTurn, List.flatMap_def]
    exact List.sublist_flatten_of_mem (List.mem_map.2 ⟨w, List.mem_range.2 h, rfl⟩)
  have hcount := hpart.count_le w
  rwa [List.count_replicate_self] at hcount

/-- Taking the workers one after the other finishes the count. -/
theorem finished_inTurn (workers iterations : Nat) :
    (run (start workers iterations) (inTurn workers iterations)).Finished :=
  (reached_run workers iterations _).finished_iff.2 fun _ h => turns_inTurn h

/-- A count does the deeds of its schedule and ends with the product. -/
theorem count_eq {workers iterations : Nat} (hw : 0 < workers) (hi : 0 < iterations) (delay : Span)
    (onReport : Report → Act Unit) :
    count workers iterations delay onReport = (do
      (deeds (inTurn workers iterations) (start workers iterations)).forM (Deed.act delay onReport)
      pure (workers * iterations)) := by
  have hpos : ¬((workers : Int) ≤ 0 || (iterations : Int) ≤ 0) = true := by
    simp only [Bool.or_eq_true, decide_eq_true_eq]
    omega
  have hcount := (reached_run workers iterations _).count_of_finished (finished_inTurn workers iterations)
  rw [count, finish, if_neg hpos]
  dsimp only
  rw [Int.toNat_natCast, Int.toNat_natCast, perform_eq, bind_assoc]
  simp only [pure_bind, hcount]

/-- A count ends with the product, whatever is done about its reports. -/
theorem ends_count {workers iterations : Nat} (hw : 0 < workers) (hi : 0 < iterations) (delay : Span)
    (onReport : Report → Act Unit) : Program.Ends (· = workers * iterations) (count workers iterations delay onReport) := by
  rw [count_eq hw hi]
  exact Program.Ends.bind _ fun _ => rfl

/-- No increment is lost, whatever the schedule, in three parts.
1. At no point of a schedule does the count exceed the product of workers and iterations. The workers have finished exactly if
   each of them has had its turns, and then the count is the product, each worker has passed on one report, and one of these
   says the product. Every total that is passed on was read by its worker at some point of the schedule; it is at least what
   those have counted who had nothing left to count at that point, and at most the product.
2. To perform a schedule is to do its deeds, of which the reports are those that the first part is about.
3. A count on its own ends with the product, whatever the surroundings answer. -/
theorem nothing_lost_under_any_schedule {workers iterations : Nat} (hw : 0 < workers) (hi : 0 < iterations) :
    (∀ schedule : List Nat,
      (run (start workers iterations) schedule).count ≤ workers * iterations ∧
      ((run (start workers iterations) schedule).Finished ↔ ∀ w < workers, iterations + 2 ≤ schedule.count w) ∧
      ((run (start workers iterations) schedule).Finished →
        (run (start workers iterations) schedule).count = workers * iterations ∧
        ((passedOn schedule (start workers iterations)).map Report.worker).Perm (List.range workers) ∧
        ∃ r ∈ passedOn schedule (start workers iterations), r.total = workers * iterations) ∧
      ∀ r ∈ passedOn schedule (start workers iterations), ∃ before after,
        schedule = before ++ r.worker :: after ∧
        (step (run (start workers iterations) before) r.worker).1 = .read ∧
        r.total = (run (start workers iterations) before).count ∧
        iterations * (run (start workers iterations) before).through ≤ r.total ∧
        r.total ≤ workers * iterations) ∧
    (∀ (delay : Span) (onReport : Report → Act Unit) (schedule : List Nat),
      perform delay onReport schedule (start workers iterations) = (do
        (deeds schedule (start workers iterations)).forM (Deed.act delay onReport)
        pure (run (start workers iterations) schedule))) ∧
    ∀ (delay : Span) (onReport : Report → Act Unit),
      Program.Ends (· = workers * iterations) (count workers iterations delay onReport) := by
  refine ⟨fun schedule => ?_, fun delay onReport schedule => perform_eq delay onReport schedule _, ends_count hw hi⟩
  have hreached := reached_run workers iterations schedule
  have hreports : (run (start workers iterations) schedule).reports =
      (passedOn schedule (start workers iterations)).map fun r => (r.worker, r.total) :=
    (reports_run schedule _).trans (List.nil_append _)
  refine ⟨hreached.count_le, hreached.finished_iff, fun hfinished => ⟨hreached.count_of_finished hfinished, ?_, ?_⟩, ?_⟩
  · have hperm := hreached.perm_of_finished hfinished
    rwa [hreports, List.map_map] at hperm
  · obtain ⟨w, hfull⟩ := hreached.full_report hfinished hw
    rw [hreports] at hfull
    obtain ⟨r, hr, heq⟩ := List.mem_map.1 hfull
    exact ⟨r, hr, congrArg Prod.snd heq⟩
  · intro r hr
    have hmem : (r.worker, r.total) ∈ (run (start workers iterations) schedule).reports := by
      rw [hreports]
      exact List.mem_map.2 ⟨r, hr, rfl⟩
    obtain ⟨before, after, hschedule, hread, htotal⟩ := hreached.readIn hmem
    have hbefore := reached_run workers iterations before
    exact ⟨before, after, hschedule, hread, htotal, htotal ▸ hbefore.through_le_count, htotal ▸ hbefore.count_le⟩

/-- Two workers with two iterations each. The first reads the total before the second counts, and reports it afterwards. -/
theorem early_reader_reports_less :
    passedOn [0, 0, 0, 1, 0, 1, 1, 1] (start 2 2) = [⟨0, 2, 1⟩, ⟨1, 4, 2⟩] ∧
      (run (start 2 2) [0, 0, 0, 1, 0, 1, 1, 1]).count = 2 * 2 := by
  obtain ⟨_, hfinished, hend, _⟩ :=
    (nothing_lost_under_any_schedule (by decide : 0 < 2) (by decide : 0 < 2)).1 [0, 0, 0, 1, 0, 1, 1, 1]
  exact ⟨by decide, (hend (hfinished.2 (by decide))).1⟩

end Roster.Counter
