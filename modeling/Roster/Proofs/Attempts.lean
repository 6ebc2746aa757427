import Roster.Limiter
import Roster.Proofs.Stores

/-!
# Runs of a limiter

What can happen to a limiter, one event after the other, and the attempts that are made on the way. Time only goes forward.
The sweeps that fall due while time passes are run at their own moments; a sweep may also come out of turn, as when the
sweeper is held up, and sweeping may stop at any point.

Main statement: a key is served as if it were the only one. All keys share one list of buckets, one sweeper and one clock,
but what the limiter keeps for a key (`Limiter.only`) changes by the attempts under that key and by the sweeps alone. Nothing
here depends on the arithmetic of tokens.
-/

namespace Roster

/-- Something that happens to a limiter. -/
inductive Limiter.Event where
  /-- Some nanoseconds pass, and the sweeps that fall due are run. -/
  | pass (d : Nat)
  /-- Somebody asks for a token. -/
  | ask (key : Text)
  /-- A sweep is run, due or not. -/
  | sweep
  /-- Sweeping stops for good. -/
  | stop
deriving DecidableEq, Repr

/-- Whether an event is other than an attempt under another key. -/
def Limiter.Event.concerns (key : Text) : Event → Bool
  | .ask key' => key' == key
  | _ => true

/-- An attempt, and whether it was let through. -/
structure Attempt where
  moment : Instant
  key : Text
  admitted : Bool
deriving DecidableEq, Repr

/-- Whether an attempt was made under a key, within a window of time with its ends included, and was let through. -/
def Attempt.counts (key : Text) (s t : Instant) (a : Attempt) : Bool :=
  a.key == key && a.admitted && decide (s ≤ a.moment) && decide (a.moment ≤ t)

/-- What counts for a window: attempts under the key that were let through at a moment of the window. -/
theorem Attempt.counts_iff {key : Text} {s t : Instant} {a : Attempt} :
    a.counts key s t = true ↔ a.key = key ∧ a.admitted = true ∧ s ≤ a.moment ∧ a.moment ≤ t := by
  simp [counts, and_assoc]

/-- A limiter at a moment. -/
structure Gate (ν : Type) where
  clock : Instant
  limiter : Limiter ν

namespace Gate

variable {ν : Type} [Amount ν]

/-- What an event does, and the attempt it is, if it is one. -/
def step (g : Gate ν) : Limiter.Event → Option Attempt × Gate ν
  | .pass d => (none, { clock := g.clock + d, limiter := g.limiter.sweep (g.clock + d) })
  | .ask key =>
    let (admitted, limiter) := g.limiter.allow g.clock key
    (some { moment := g.clock, key, admitted }, { g with limiter })
  | .sweep => (none, { g with limiter := g.limiter.evictIdle g.clock })
  | .stop => (none, { g with limiter := g.limiter.stop })

/-- The attempts among events that happen one after the other, and what they lead to. -/
def run : List Limiter.Event → Gate ν → List Attempt × Gate ν
  | [], g => ([], g)
  | e :: events, g =>
    let (a, g) := g.step e
    let (attempts, g) := run events g
    (a.toList ++ attempts, g)

/-- A limiter that has just been created. -/
def fresh (rate capacity : ν) (start : Instant) : Gate ν :=
  { clock := start, limiter := .create rate capacity start }

theorem run_cons (e : Limiter.Event) (events : List Limiter.Event) (g : Gate ν) :
    run (e :: events) g = ((g.step e).1.toList ++ (run events (g.step e).2).1, (run events (g.step e).2).2) := rfl

/-! ## Time -/

/-- Time does not go back. -/
theorem clock_le_step (g : Gate ν) (e : Limiter.Event) : g.clock ≤ (g.step e).2.clock := by
  cases e with
  | pass d => exact Int.le_add_of_nonneg_right (Int.natCast_nonneg d)
  | ask _ | sweep | stop => exact Int.le_refl _

/-- Only asking is an attempt. -/
theorem event_of_step {g : Gate ν} {e : Limiter.Event} {a : Attempt} (h : (g.step e).1 = some a) : e = .ask a.key := by
  cases e with
  | ask key => rw [← Option.some.inj h]
  | pass _ | sweep | stop => cases h

/-- An attempt is made at the moment of its event. -/
theorem moment_of_step {g : Gate ν} {e : Limiter.Event} {a : Attempt} (h : (g.step e).1 = some a) : a.moment = g.clock := by
  cases e with
  | ask key => rw [← Option.some.inj h]
  | pass _ | sweep | stop => cases h

/-- Attempts are made from now on. -/
theorem clock_le_moment {g : Gate ν} {events : List Limiter.Event} {a : Attempt} (h : a ∈ (run events g).1) :
    g.clock ≤ a.moment := by
  induction events generalizing g with
  | nil => cases h
  | cons e events ih =>
    rw [run_cons] at h
    rcases List.mem_append.mp h with h | h
    · exact Int.le_of_eq (moment_of_step (Option.mem_toList.mp h)).symm
    · exact Int.le_trans (g.clock_le_step e) (ih h)

end Gate

/-! ## Limiters that do not sweep -/

namespace Limiter

variable {ν : Type}

/-- After a bucket has been put it is under its key, and the others are as they were. -/
theorem lookup_put (l : Limiter ν) (key key' : Text) (b : Bucket ν) :
    (l.put key b).buckets.lookup key' = if key' = key then some b else l.buckets.lookup key' :=
  Cache.Local.get?_set ⟨l.buckets⟩ key key' b

/-- A limiter that has stopped does not sweep. -/
theorem sweep_of_stopped {l : Limiter ν} (h : l.nextSweep = none) (now : Instant) : l.sweep now = l := by
  simp only [sweep, due, h, sweepFrom]

/-- An attempt puts a bucket in place and leaves the appointments for sweeps alone. -/
theorem allow_puts [Amount ν] (l : Limiter ν) (now : Instant) (key : Text) : ∃ b, (l.allow now key).2 = l.put key b := by
  unfold allow
  dsimp only
  split
  · exact ⟨_, rfl⟩
  · exact ⟨_, rfl⟩

end Limiter

namespace Gate

variable {ν : Type} [Amount ν] {g : Gate ν}

/-- Where there are no sweeps, a bucket that is there stays, and an attempt leaves one behind. -/
theorem step_unswept (h : g.limiter.nextSweep = none) {e : Limiter.Event} (he : e ≠ .sweep) :
    (g.step e).2.limiter.nextSweep = none ∧
      ∀ key, (g.limiter.buckets.lookup key).isSome = true ∨ e = .ask key →
        ((g.step e).2.limiter.buckets.lookup key).isSome = true := by
  cases e with
  | pass d =>
    simp only [step, Limiter.sweep_of_stopped h]
    exact ⟨h, fun key hk => hk.resolve_right nofun⟩
  | ask key' =>
    obtain ⟨b, hb⟩ := g.limiter.allow_puts g.clock key'
    simp only [step, hb, Limiter.lookup_put]
    refine ⟨h, fun key hk => ?_⟩
    split
    · rfl
    · rename_i hne
      exact hk.resolve_right fun heq => hne (Limiter.Event.ask.inj heq).symm
  | sweep => exact absurd rfl he
  | stop => exact ⟨rfl, fun key hk => hk.resolve_right nofun⟩

/-- A limiter that has stopped keeps every key that it has ever had. -/
theorem run_unswept (h : g.limiter.nextSweep = none) {events : List Limiter.Event} (hs : .sweep ∉ events) {key : Text}
    (hk : (g.limiter.buckets.lookup key).isSome = true ∨ ∃ a ∈ (run events g).1, a.key = key) :
    ((run events g).2.limiter.buckets.lookup key).isSome = true := by
  induction events generalizing g with
  | nil => exact hk.resolve_right (by simp [run])
  | cons e events ih =>
    obtain ⟨hnext, hstep⟩ := step_unswept h (e := e) fun he => hs (he ▸ List.mem_cons_self)
    rw [run_cons] at hk ⊢
    refine ih hnext (fun hm => hs (List.mem_cons_of_mem e hm)) ?_
    rcases hk with hk | ⟨a, ha, rfl⟩
    · exact .inl (hstep key (.inl hk))
    · rcases List.mem_append.mp ha with ha | ha
      · exact .inl (hstep a.key (.inr (event_of_step (Option.mem_toList.mp ha))))
      · exact .inr ⟨a, ha, rfl⟩

end Gate

/-! ## What a limiter keeps for one key -/

namespace Limiter

variable {ν : Type}

/-- The limiter with the buckets of one key only. -/
def only (l : Limiter ν) (key : Text) : Limiter ν := { l with buckets := l.buckets.filter fun e => e.1 == key }

/-- A sweep acts on each key alone. -/
theorem evictIdle_only (l : Limiter ν) (key : Text) (t : Instant) : (l.only key).evictIdle t = (l.evictIdle t).only key := by
  simp only [only, evictIdle, List.filter_filter, Bool.and_comm]

/-- Overdue sweeps act on each key alone. -/
theorem sweepFrom_only (key : Text) (fuel : Nat) (l : Limiter ν) (now : Instant) :
    sweepFrom fuel (l.only key) now = (sweepFrom fuel l now).only key := by
  induction fuel generalizing l with
  | zero => rfl
  | succ fuel ih =>
    have hnext : (l.only key).nextSweep = l.nextSweep := rfl
    simp only [sweepFrom, hnext, evictIdle_only]
    cases l.nextSweep with
    | none => rfl
    | some t =>
      dsimp only
      split
      · exact ih { l.evictIdle t with nextSweep := some (t + sweepInterval) }
      · rfl

/-- A sweep deals with each key apart. -/
theorem sweep_only (l : Limiter ν) (key : Text) (now : Instant) : (l.only key).sweep now = (l.sweep now).only key :=
  sweepFrom_only key (l.due now) l now

/-- What is kept for a key alone is what is kept for it. -/
theorem lookup_only (l : Limiter ν) (key : Text) : (l.only key).buckets.lookup key = l.buckets.lookup key := by
  simp only [only]
  induction l.buckets with
  | nil => rfl
  | cons e rest ih =>
    obtain ⟨k, b⟩ := e
    by_cases h : key = k
    · subst h
      simp
    · have hk : (k == key) = false := by simpa using Ne.symm h
      have hk' : (key == k) = false := by simpa using h
      simp [List.lookup_cons, hk, hk', ih]

/-- The bucket of a key is there when nothing else is. -/
theorem bucket_only (l : Limiter ν) (now : Instant) (key : Text) : (l.only key).bucket now key = l.bucket now key := by
  simp only [bucket, lookup_only]
  rfl

/-- Putting a bucket under a key acts on that key alone. -/
theorem put_only (l : Limiter ν) (key : Text) (b : Bucket ν) : (l.only key).put key b = (l.put key b).only key := by
  have hself : (key == key) = true := by simp
  simp only [only, put, List.filter_cons, hself, if_true, List.filter_filter, Bool.and_comm]

/-- Putting a bucket under another key does not matter. -/
theorem put_only_other (l : Limiter ν) {key key' : Text} (h : key' ≠ key) (b : Bucket ν) :
    (l.put key' b).only key = l.only key := by
  have hk : (key' == key) = false := by simpa using h
  have hp : ∀ e : Text × Bucket ν, (e.1 == key && e.1 != key') = (e.1 == key) := by
    intro e
    by_cases he : e.1 = key
    · simp [he, Ne.symm h]
    · have : (e.1 == key) = false := by simpa using he
      simp [this]
  simp [only, put, hk, List.filter_filter, hp]

variable [Amount ν]

/-- An attempt is decided by the bucket of its key. -/
theorem allow_only (l : Limiter ν) (now : Instant) (key : Text) :
    (l.only key).allow now key = ((l.allow now key).1, (l.allow now key).2.only key) := by
  have hb : (l.only key).refill now ((l.only key).bucket now key) = l.refill now (l.bucket now key) := by
    rw [bucket_only]
    rfl
  simp only [allow, hb, put_only]
  split <;> rfl

/-- An attempt leaves the buckets of the other keys alone. -/
theorem allow_only_other (l : Limiter ν) (now : Instant) {key key' : Text} (h : key' ≠ key) :
    (l.allow now key').2.only key = l.only key := by
  unfold allow
  dsimp only
  split <;> exact put_only_other l h _

end Limiter

/-! ## Keys are independent -/

namespace Gate

variable {ν : Type} [Amount ν]

/-- The gate with the buckets of one key only. -/
def only (g : Gate ν) (key : Text) : Gate ν := { g with limiter := g.limiter.only key }

/-- An event that concerns a key does to what is kept for the key what it would do if nothing else were kept. -/
theorem step_only (g : Gate ν) {key : Text} {e : Limiter.Event} (he : e.concerns key = true) :
    (g.only key).step e = ((g.step e).1, (g.step e).2.only key) := by
  cases e with
  | pass d => simp only [step, only, Limiter.sweep_only]
  | ask key' =>
    obtain rfl : key' = key := by simpa [Limiter.Event.concerns] using he
    simp only [step, only, Limiter.allow_only]
  | sweep => simp only [step, only, Limiter.evictIdle_only]
  | stop => rfl

/-- An attempt under another key leaves what is kept for a key alone. -/
theorem step_only_other (g : Gate ν) {key key' : Text} (h : key' ≠ key) : (g.step (.ask key')).2.only key = g.only key := by
  simp only [step, only, Limiter.allow_only_other _ _ h]

/-- Two gates that keep the same for a key serve it alike, though one of them serves other keys as well. -/
theorem run_concerning {key : Text} (events : List Limiter.Event) {g g' : Gate ν} (h : g.only key = g'.only key) :
    ((run events g).1.filter fun a => a.key == key) = (run (events.filter (Limiter.Event.concerns key)) g').1 := by
  induction events generalizing g g' with
  | nil => rfl
  | cons e events ih =>
    rw [run_cons, List.filter_append]
    cases he : e.concerns key with
    | true =>
      have hstep : ((g.step e).1, (g.step e).2.only key) = ((g'.step e).1, (g'.step e).2.only key) := by
        rw [← step_only g he, ← step_only g' he, h]
      obtain ⟨hattempt, hkept⟩ := Prod.mk.inj hstep
      have hown : ((g.step e).1.toList.filter fun a => a.key == key) = (g.step e).1.toList := by
        rw [List.filter_eq_self]
        intro a ha
        rw [event_of_step (Option.mem_toList.mp ha)] at he
        exact he
      rw [List.filter_cons_of_pos he, run_cons, hown, ih hkept, hattempt]
    | false =>
      obtain ⟨key', rfl⟩ : ∃ key', e = .ask key' := by
        cases e with
        | ask key' => exact ⟨key', rfl⟩
        | pass _ | sweep | stop => cases he
      have hne : key' ≠ key := by simpa [Limiter.Event.concerns] using he
      have hnone : ((g.step (.ask key')).1.toList.filter fun a => a.key == key) = [] := by
        simpa [step] using hne
      rw [List.filter_cons_of_neg (by simp [he]), hnone, List.nil_append]
      exact ih ((step_only_other g hne).trans h)

/-- Keys are independent. Whatever the arithmetic of tokens and whatever happens to a limiter, the attempts under a key are
made at the moments, and have the outcomes, that they would have if nobody had asked under any other key. -/
theorem attempts_independent_of_other_keys (g : Gate ν) (events : List Limiter.Event) (key : Text) :
    ((run events g).1.filter fun a => a.key == key) = (run (events.filter (Limiter.Event.concerns key)) g).1 :=
  run_concerning events rfl

end Gate
end Roster
