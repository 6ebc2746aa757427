import Mathlib.Algebra.Order.Field.Rat
import Mathlib.Data.List.Nodup
import Mathlib.Tactic.Linarith
import Mathlib.Tactic.NormNum
import Mathlib.Tactic.Ring
import Roster.Proofs.Attempts

/-!
# The rate that a limiter enforces

With exact amounts, all that matters about a key at a moment is its level: the tokens that somebody who asks then finds. Every
event acts on the level alone (`Gate.Sound.step`), and a sweep leaves it alone: a bucket that is swept away has been idle for
so long that it would be full again, which is what a missing bucket counts as. For this the capacity has to refill within the
idle timeout of ten minutes.

Main statements: in any window of time no more attempts under a key are let through than the capacity and the refill of the
window allow, and a limiter that sweeps answers as one that never does.
-/

namespace Roster

/-! ## Exact amounts -/

/-- Whole seconds and the rest of nanoseconds are converted apart and then added, without rounding. -/
instance exactAmount : Amount ℚ where
  one := 1
  seconds d := (d.tdiv Span.second : ℚ) + (d.tmod Span.second : ℚ) / 1000000000
  decidableLt := inferInstance

namespace Amount

/-- A span is its nanoseconds in seconds, without rounding. -/
theorem seconds_eq (d : Span) : (seconds d : ℚ) = d / 1000000000 := by
  have h : (Span.second : ℚ) * (d.tdiv Span.second : ℚ) + (d.tmod Span.second : ℚ) = d := by
    exact_mod_cast Int.mul_tdiv_add_tmod d Span.second
  have hs : (Span.second : ℚ) = 1000000000 := by norm_num [Span.second]
  show (d.tdiv Span.second : ℚ) + (d.tmod Span.second : ℚ) / 1000000000 = d / 1000000000
  rw [hs] at h
  linarith

@[simp]
theorem seconds_zero : (seconds 0 : ℚ) = 0 := by simp [seconds_eq]

/-- Spans one after the other add up. -/
theorem seconds_add (d d' : Span) : (seconds (d + d') : ℚ) = seconds d + seconds d' := by
  simp only [seconds_eq, Int.cast_add, add_div]

/-- A longer span is more seconds. -/
theorem seconds_mono {d d' : Span} (h : d ≤ d') : (seconds d : ℚ) ≤ seconds d' := by
  have hq : (d : ℚ) ≤ d' := by exact_mod_cast h
  rw [seconds_eq, seconds_eq]
  linarith

/-- A span that is not negative is not a negative number of seconds. -/
theorem seconds_nonneg {d : Span} (h : 0 ≤ d) : (0 : ℚ) ≤ seconds d := seconds_zero ▸ seconds_mono h

/-- The idle timeout is ten minutes. -/
theorem seconds_idleTimeout : (seconds Limiter.idleTimeout : ℚ) = 600 := by
  rw [seconds_eq]
  norm_num [Limiter.idleTimeout, Span.minute, Span.second]

end Amount

/-! ## Levels -/

namespace Limiter

/-- The tokens that somebody who asks under a key at a moment finds. -/
def level (l : Limiter ℚ) (now : Instant) (key : Text) : ℚ := (l.refill now (l.bucket now key)).tokens

/-- What holds of a limiter at any moment of its life: its terms are fit for sweeping, there is one bucket for a key, and every
bucket holds a possible amount and was last used in the past. -/
structure Sound (l : Limiter ℚ) (now : Instant) : Prop where
  rate : 0 ≤ l.rate
  capacity : 0 ≤ l.capacity
  refills : l.capacity ≤ l.rate * 600
  keys : (l.buckets.map Prod.fst).Nodup
  buckets : ∀ e ∈ l.buckets, (0 ≤ e.2.tokens ∧ e.2.tokens ≤ l.capacity) ∧ e.2.last ≤ now

/-- A look-up among the entries that are kept finds the entry of the key if it is kept. -/
theorem lookup_filter {β : Type} (p : β → Bool) {es : List (Text × β)} (h : (es.map Prod.fst).Nodup) (key : Text) :
    (es.filter fun e => p e.2).lookup key = (es.lookup key).filter p := by
  induction es with
  | nil => rfl
  | cons e es ih =>
    obtain ⟨k, b⟩ := e
    obtain ⟨hk, hes⟩ := List.nodup_cons.mp h
    have hrest := ih hes
    by_cases hkey : key = k
    · subst hkey
      have hnone : es.lookup key = none := by
        rw [List.lookup_eq_none_iff]
        intro e he
        have hne : key ≠ e.1 := fun hkey => hk (List.mem_map.mpr ⟨e, he, hkey.symm⟩)
        simpa using hne
      rw [hnone] at hrest
      cases hp : p b with
      | true => simp [hp, Option.filter_some]
      | false => simp [hp, hrest, Option.filter_some]
    · have hne : (key == k) = false := by simpa using hkey
      cases hp : p b with
      | true => simp [hp, List.lookup_cons, hne, hrest]
      | false => simp [hp, List.lookup_cons, hne, hrest]

/-- After a sweep no key is there twice. -/
theorem keys_evictIdle {ν : Type} {l : Limiter ν} (h : (l.buckets.map Prod.fst).Nodup) (t : Instant) :
    ((l.evictIdle t).buckets.map Prod.fst).Nodup :=
  ((List.filter_sublist (l := l.buckets)).map Prod.fst).nodup h

/-- After a bucket has been put no key is there twice. -/
theorem keys_put {ν : Type} {l : Limiter ν} (h : (l.buckets.map Prod.fst).Nodup) (key : Text) (b : Bucket ν) :
    ((l.put key b).buckets.map Prod.fst).Nodup := by
  refine List.nodup_cons.mpr ⟨?_, ((List.filter_sublist (l := l.buckets)).map Prod.fst).nodup h⟩
  intro hmem
  obtain ⟨e, he, hkey⟩ := List.mem_map.mp hmem
  simpa [hkey] using (List.mem_filter.mp he).2

/-- A sweep keeps the buckets that have not been idle for too long. -/
theorem lookup_evictIdle {ν : Type} {l : Limiter ν} (h : (l.buckets.map Prod.fst).Nodup) (t : Instant) (key : Text) :
    (l.evictIdle t).buckets.lookup key = (l.buckets.lookup key).filter fun b => !decide (b.last < t - idleTimeout) :=
  lookup_filter (fun b : Bucket ν => !decide (b.last < t - idleTimeout)) h key

section Sound

variable {l : Limiter ℚ} {now : Instant}

/-- The level of a bucket is what is in it and what has been refilled since, up to the capacity. -/
theorem level_of_some {key : Text} {b : Bucket ℚ} (h : l.buckets.lookup key = some b) (now : Instant) :
    l.level now key = min (b.tokens + Amount.seconds (now - b.last) * l.rate) l.capacity := by
  unfold level bucket
  rw [h]
  rfl

/-- Where there is no bucket, there might as well be a full one. -/
theorem level_of_none {key : Text} (h : l.buckets.lookup key = none) (now : Instant) : l.level now key = l.capacity := by
  have hfull : l.level now key = min (l.capacity + Amount.seconds (now - now) * l.rate) l.capacity := by
    unfold level bucket
    rw [h]
    rfl
  rw [hfull, Int.sub_self, Amount.seconds_zero, zero_mul, add_zero, min_self]

/-- No level is above the capacity. -/
theorem level_le (l : Limiter ℚ) (now : Instant) (key : Text) : l.level now key ≤ l.capacity := min_le_right _ _

namespace Sound

/-- A bucket of a sound limiter is neither overdrawn nor too full, and was last used in the past. -/
theorem of_lookup (h : l.Sound now) {key : Text} {b : Bucket ℚ} (hb : l.buckets.lookup key = some b) :
    (0 ≤ b.tokens ∧ b.tokens ≤ l.capacity) ∧ b.last ≤ now := by
  obtain ⟨es, es', he, -⟩ := List.lookup_eq_some_iff.mp hb
  exact h.buckets (key, b) (by simp [he])

/-- No level is below zero. -/
theorem level_nonneg (h : l.Sound now) (key : Text) : 0 ≤ l.level now key := by
  cases hb : l.buckets.lookup key with
  | none => exact level_of_none hb now ▸ h.capacity
  | some b =>
    obtain ⟨⟨htokens, -⟩, hlast⟩ := h.of_lookup hb
    have hrefill : 0 ≤ Amount.seconds (now - b.last) * l.rate :=
      mul_nonneg (Amount.seconds_nonneg (Int.sub_nonneg_of_le hlast)) h.rate
    rw [level_of_some hb]
    exact le_min (add_nonneg htokens hrefill) h.capacity

/-! ### Time passes -/

/-- A sound limiter is still so later. -/
theorem later (h : l.Sound now) (d : Nat) : l.Sound (now + d) :=
  { h with buckets := fun e he => ⟨(h.buckets e he).1, (h.buckets e he).2.trans (by lia)⟩ }

/-- While nobody asks, the level rises with time up to the capacity. -/
theorem level_later (h : l.Sound now) (d : Nat) (key : Text) :
    l.level (now + d) key = min (l.level now key + Amount.seconds d * l.rate) l.capacity := by
  have hrefill : (0 : ℚ) ≤ Amount.seconds d * l.rate := mul_nonneg (Amount.seconds_nonneg (by lia)) h.rate
  cases hb : l.buckets.lookup key with
  | none =>
    rw [level_of_none hb, level_of_none hb, min_eq_right]
    linarith
  | some b =>
    have hspan : now + (d : Int) - b.last = now - b.last + d := by ring
    rw [level_of_some hb, level_of_some hb, hspan, Amount.seconds_add, add_mul, ← add_assoc]
    -- The cap may be reached already or only at the end, and it is the same either way.
    rcases le_total (b.tokens + Amount.seconds (now - b.last) * l.rate) l.capacity with hle | hle
    · rw [min_eq_left hle]
    · rw [min_eq_right hle, min_eq_right, min_eq_right] <;> linarith

/-! ### Sweeps -/

/-- A sweep leaves a sound limiter sound. -/
theorem evictIdle (h : l.Sound now) (t : Instant) : (l.evictIdle t).Sound now where
  rate := h.rate
  capacity := h.capacity
  refills := h.refills
  keys := keys_evictIdle h.keys t
  buckets e he := h.buckets e (List.mem_of_mem_filter he)

/-- A bucket that has been idle for longer than the timeout is full again, so dropping it is not noticed. -/
theorem level_evictIdle (h : l.Sound now) {t : Instant} (ht : t ≤ now) (key : Text) :
    (l.evictIdle t).level now key = l.level now key := by
  have hlookup := lookup_evictIdle h.keys t key
  cases hb : l.buckets.lookup key with
  | none =>
    rw [hb] at hlookup
    rw [level_of_none hb, level_of_none hlookup]
    rfl
  | some b =>
    rw [hb] at hlookup
    by_cases hidle : b.last < t - idleTimeout
    · have hgone : (l.evictIdle t).buckets.lookup key = none := by simp [hlookup, Option.filter_some, hidle]
      have hspan : (600 : ℚ) ≤ Amount.seconds (now - b.last) :=
        Amount.seconds_idleTimeout ▸ Amount.seconds_mono (by lia)
      have hfull : l.capacity ≤ b.tokens + Amount.seconds (now - b.last) * l.rate := by
        have hrefill : l.rate * 600 ≤ Amount.seconds (now - b.last) * l.rate := by
          rw [mul_comm l.rate]
          exact mul_le_mul_of_nonneg_right hspan h.rate
        have htokens := (h.of_lookup hb).1.1
        linarith [h.refills]
      rw [level_of_none hgone, level_of_some hb, min_eq_right hfull]
      rfl
    · have hkept : (l.evictIdle t).buckets.lookup key = some b := by simp [hlookup, Option.filter_some, hidle]
      rw [level_of_some hkept, level_of_some hb]
      rfl

/-- The sweeps that are due keep a limiter sound and leave its terms and every level alone. -/
theorem sweepFrom (fuel : Nat) {l : Limiter ℚ} (h : l.Sound now) :
    (Limiter.sweepFrom fuel l now).Sound now ∧ (Limiter.sweepFrom fuel l now).rate = l.rate ∧
      (Limiter.sweepFrom fuel l now).capacity = l.capacity ∧
      ∀ key, (Limiter.sweepFrom fuel l now).level now key = l.level now key := by
  induction fuel generalizing l with
  | zero => exact ⟨h, rfl, rfl, fun _ => rfl⟩
  | succ fuel ih =>
    unfold Limiter.sweepFrom
    split
    · rename_i t _
      split
      · rename_i hdue
        -- The next appointment is no part of what makes a limiter sound, nor of its levels.
        have hs := h.evictIdle t
        obtain ⟨hsound, hrate, hcapacity, hlevel⟩ :=
          ih (l := { l.evictIdle t with nextSweep := some (t + sweepInterval) })
            ⟨hs.rate, hs.capacity, hs.refills, hs.keys, hs.buckets⟩
        exact ⟨hsound, hrate, hcapacity, fun key => (hlevel key).trans (h.level_evictIdle hdue key)⟩
      · exact ⟨h, rfl, rfl, fun _ => rfl⟩
    · exact ⟨h, rfl, rfl, fun _ => rfl⟩

/-! ### Attempts -/

/-- A sound limiter takes a bucket that is neither overdrawn nor too full. -/
theorem put (h : l.Sound now) (key : Text) {x : ℚ} (hx : 0 ≤ x ∧ x ≤ l.capacity) :
    (l.put key { tokens := x, last := now }).Sound now where
  rate := h.rate
  capacity := h.capacity
  refills := h.refills
  keys := keys_put h.keys key _
  buckets e he := by
    rcases List.mem_cons.mp he with rfl | he
    · exact ⟨hx, le_refl now⟩
    · exact h.buckets e (List.mem_of_mem_filter he)

end Sound

/-- The level of a bucket that has just been put is what is in it. -/
theorem level_put_self (l : Limiter ℚ) (now : Instant) (key : Text) {x : ℚ} (hx : x ≤ l.capacity) :
    (l.put key { tokens := x, last := now }).level now key = x := by
  have hb : (l.put key { tokens := x, last := now }).buckets.lookup key = some { tokens := x, last := now } := by
    rw [lookup_put, if_pos rfl]
  rw [level_of_some hb, Int.sub_self, Amount.seconds_zero, zero_mul, add_zero]
  exact min_eq_left hx

/-- Putting a bucket leaves the levels of other keys as they were. -/
theorem level_put_other (l : Limiter ℚ) (now : Instant) {key key' : Text} (h : key' ≠ key) (b : Bucket ℚ) :
    (l.put key b).level now key' = l.level now key' := by
  have hb : (l.put key b).buckets.lookup key' = l.buckets.lookup key' := by rw [lookup_put, if_neg h]
  unfold level bucket
  rw [hb]
  rfl

/-- An attempt is let through where the level is one at least, and then takes one; a bucket with what is left is put in
place either way. -/
theorem allow_eq (l : Limiter ℚ) (now : Instant) (key : Text) :
    l.allow now key =
      if 1 ≤ l.level now key then (true, l.put key { tokens := l.level now key - 1, last := now })
      else (false, l.put key { tokens := l.level now key, last := now }) := by
  by_cases h : 1 ≤ l.level now key
  · rw [if_pos h]
    exact if_neg (not_lt.mpr h)
  · rw [if_neg h]
    exact if_pos (not_le.mp h)

end Sound

/-- What an event makes of the level of a key. -/
def Event.onLevel (rate capacity : ℚ) (key : Text) : Event → ℚ → ℚ
  | .pass d, x => min (x + Amount.seconds d * rate) capacity
  | .ask key', x => if key' = key ∧ 1 ≤ x then x - 1 else x
  | .sweep, x | .stop, x => x

end Limiter

/-! ## One event -/

namespace Gate

/-- The tokens that somebody who asks under a key now finds. -/
def level (g : Gate ℚ) (key : Text) : ℚ := g.limiter.level g.clock key

/-- What holds of a limiter now. -/
def Sound (g : Gate ℚ) : Prop := g.limiter.Sound g.clock

variable {g : Gate ℚ}

/-- No level is below zero now. -/
theorem Sound.level_nonneg (h : g.Sound) (key : Text) : 0 ≤ g.level key := Limiter.Sound.level_nonneg h key

/-- A new limiter is sound, if its capacity is refilled within the idle timeout. -/
theorem fresh_sound {rate capacity : ℚ} (hrate : 0 ≤ rate) (hcapacity : 0 ≤ capacity) (hrefills : capacity ≤ rate * 600)
    (start : Instant) : (fresh rate capacity start).Sound :=
  ⟨hrate, hcapacity, hrefills, List.nodup_nil, nofun⟩

/-- The level of a key decides every attempt under it. -/
theorem step_ask (g : Gate ℚ) (key : Text) :
    (g.step (.ask key)).1 = some { moment := g.clock, key, admitted := decide (1 ≤ g.level key) } := by
  unfold step level
  dsimp only
  rw [Limiter.allow_eq]
  split <;> simp_all

/-- Every event keeps a sound limiter sound and its terms as they are, and acts on the level of each key apart. -/
theorem Sound.step (h : g.Sound) (e : Limiter.Event) :
    (g.step e).2.Sound ∧ (g.step e).2.limiter.rate = g.limiter.rate ∧
      (g.step e).2.limiter.capacity = g.limiter.capacity ∧
      ∀ key, (g.step e).2.level key = e.onLevel g.limiter.rate g.limiter.capacity key (g.level key) := by
  cases e with
  | pass d =>
    have hlater := Limiter.Sound.later h d
    obtain ⟨hsound, hrate, hcapacity, hlevel⟩ := hlater.sweepFrom (g.limiter.due (g.clock + d))
    exact ⟨hsound, hrate, hcapacity, fun key => (hlevel key).trans (Limiter.Sound.level_later h d key)⟩
  | ask key =>
    have hle := g.limiter.level_le g.clock key
    have hnonneg := Limiter.Sound.level_nonneg h key
    simp only [Gate.step, Limiter.allow_eq, Limiter.Event.onLevel]
    split
    · rename_i hone
      have hone' : 1 ≤ g.level key := hone
      refine ⟨Limiter.Sound.put h key ⟨by linarith, by linarith⟩, rfl, rfl, fun key' => ?_⟩
      by_cases hkey : key = key'
      · subst hkey
        rw [if_pos ⟨rfl, hone'⟩]
        exact Limiter.level_put_self _ _ _ (by linarith)
      · rw [if_neg fun hc => hkey hc.1]
        exact Limiter.level_put_other _ _ (Ne.symm hkey) _
    · rename_i hone
      have hone' : ¬1 ≤ g.level key := hone
      refine ⟨Limiter.Sound.put h key ⟨hnonneg, hle⟩, rfl, rfl, fun key' => ?_⟩
      by_cases hkey : key = key'
      · subst hkey
        rw [if_neg fun hc => hone' hc.2]
        exact Limiter.level_put_self _ _ _ hle
      · rw [if_neg fun hc => hkey hc.1]
        exact Limiter.level_put_other _ _ (Ne.symm hkey) _
  | sweep => exact ⟨Limiter.Sound.evictIdle h g.clock, rfl, rfl, Limiter.Sound.level_evictIdle h (le_refl _)⟩
  | stop => exact ⟨⟨h.rate, h.capacity, h.refills, h.keys, h.buckets⟩, rfl, rfl, fun _ => rfl⟩

/-- A run leaves a sound limiter sound, with the capacity it had. -/
theorem Sound.run (h : g.Sound) (events : List Limiter.Event) :
    (run events g).2.Sound ∧ (run events g).2.limiter.capacity = g.limiter.capacity := by
  induction events generalizing g with
  | nil => exact ⟨h, rfl⟩
  | cons e events ih =>
    obtain ⟨hsound, -, hcapacity, -⟩ := h.step e
    obtain ⟨hrun, hrunCapacity⟩ := ih hsound
    exact ⟨hrun, hrunCapacity.trans hcapacity⟩

/-! ## Sweeping is not noticed -/

/-- Two limiters at the same moment, on the same terms, and with the same level for every key. -/
structure Level (g g' : Gate ℚ) : Prop where
  sound : g.Sound
  sound' : g'.Sound
  clock : g'.clock = g.clock
  rate : g'.limiter.rate = g.limiter.rate
  capacity : g'.limiter.capacity = g.limiter.capacity
  level : ∀ key, g'.level key = g.level key

namespace Level

variable {g' : Gate ℚ}

/-- The same event is the same attempt for both, and finds them level afterwards. -/
theorem step (h : Level g g') (e : Limiter.Event) : (g'.step e).1 = (g.step e).1 ∧ Level (g.step e).2 (g'.step e).2 := by
  obtain ⟨hsound, hrate, hcapacity, hlevel⟩ := h.sound.step e
  obtain ⟨hsound', hrate', hcapacity', hlevel'⟩ := h.sound'.step e
  have hclock : (g'.step e).2.clock = (g.step e).2.clock := by cases e <;> simp [Gate.step, h.clock]
  refine ⟨?_, hsound, hsound', hclock, ?_, ?_, fun key => ?_⟩
  · cases e with
    | ask key => rw [step_ask, step_ask, h.clock, h.level]
    | pass _ | sweep | stop => rfl
  · rw [hrate', hrate, h.rate]
  · rw [hcapacity', hcapacity, h.capacity]
  · rw [hlevel', hlevel, h.rate, h.capacity, h.level]

/-- Two limiters that are level stay so when only one of them sweeps. -/
theorem sweep (h : Level g g') : Level (g.step .sweep).2 g' := by
  obtain ⟨hsound, hrate, hcapacity, hlevel⟩ := h.sound.step .sweep
  exact ⟨hsound, h.sound', h.clock, h.rate.trans hrate.symm, h.capacity.trans hcapacity.symm,
    fun key => (h.level key).trans (hlevel key).symm⟩

/-- Limiters that are level answer alike, whether they sweep or not. -/
theorem run (h : Level g g') (events : List Limiter.Event) :
    (Gate.run events g).1 = (Gate.run (events.filter (· != .sweep)) g').1 := by
  induction events generalizing g g' with
  | nil => rfl
  | cons e events ih =>
    by_cases he : e = .sweep
    · subst he
      exact ih h.sweep
    · obtain ⟨hattempt, hlevel⟩ := h.step e
      rw [List.filter_cons_of_pos (by simpa using he), run_cons, run_cons, ih hlevel, hattempt]

end Level

/-- Sweeping is not noticed. A limiter whose capacity refills within ten minutes answers every attempt, whatever happens to it,
as one does whose sweeping is stopped before it has begun. The latter indeed forgets nobody: it has a bucket for every key
that has been asked for. -/
theorem sweeping_unnoticed {rate capacity : ℚ} (hrate : 0 ≤ rate) (hcapacity : 0 ≤ capacity)
    (hrefills : capacity ≤ rate * 600) (start : Instant) (events : List Limiter.Event) :
    let kept := run (.stop :: events.filter (· != .sweep)) (fresh rate capacity start)
    (run events (fresh rate capacity start)).1 = kept.1 ∧
      ∀ a ∈ kept.1, (kept.2.limiter.buckets.lookup a.key).isSome = true := by
  have hsound := fresh_sound hrate hcapacity hrefills start
  have hlevel : Level (fresh rate capacity start) ((fresh rate capacity start).step .stop).2 :=
    ⟨hsound, (hsound.step .stop).1, rfl, rfl, rfl, fun _ => rfl⟩
  refine ⟨hlevel.run events, fun a ha => ?_⟩
  exact run_unswept (g := ((fresh rate capacity start).step .stop).2) rfl (by simp) (.inr ⟨a, ha, rfl⟩)

/-- A bucket that was emptied is swept away a quarter of an hour later, and the attempt after that has the outcome that it has
where the bucket was kept. -/
theorem swept_bucket_not_missed :
    let events : List Limiter.Event := List.replicate 6 (.ask "a") ++ [.pass 960000000000, .ask "a"]
    let g : Gate ℚ := fresh (1 / 5) 5 0
    (run (events.take 7) g).2.limiter.buckets.length = 0 ∧
      (run (.stop :: events.take 7) g).2.limiter.buckets.length = 1 ∧
      (run events g).1 = (run (.stop :: events.filter (· != .sweep)) g).1 := by
  intro events g
  refine ⟨by decide +kernel, by decide +kernel, ?_⟩
  exact (sweeping_unnoticed (by norm_num) (by norm_num) (by norm_num) 0 events).1

/-! ## The rate is kept -/

/-- What is let through under a key comes out of its level and of the refill in the meantime. -/
theorem Sound.count_step (h : g.Sound) (e : Limiter.Event) (key : Text) (s t : Instant) :
    ((g.step e).1.toList.countP (Attempt.counts key s t) : ℚ) + (g.step e).2.level key ≤
      g.level key + g.limiter.rate * Amount.seconds ((g.step e).2.clock - g.clock) := by
  rw [(h.step e).2.2.2 key]
  cases e with
  | pass d =>
    have hspan : g.clock + (d : Int) - g.clock = d := by ring
    simp only [Gate.step, Limiter.Event.onLevel, hspan, Option.toList_none, List.countP_nil, Nat.cast_zero, zero_add]
    rw [mul_comm]
    exact min_le_left _ _
  | ask key' =>
    have hspan : (g.step (.ask key')).2.clock - g.clock = 0 := sub_self g.clock
    rw [step_ask, hspan, Amount.seconds_zero, mul_zero, add_zero]
    simp only [Limiter.Event.onLevel, Option.toList_some]
    by_cases hc : key' = key ∧ 1 ≤ g.level key
    · have hcount : ([{ moment := g.clock, key := key', admitted := decide (1 ≤ g.level key') }].countP
          (Attempt.counts key s t) : ℚ) ≤ 1 := by exact_mod_cast List.countP_le_length
      rw [if_pos hc]
      linarith
    · have hno : [{ moment := g.clock, key := key', admitted := decide (1 ≤ g.level key') }].countP
          (Attempt.counts key s t) = 0 := by
        rw [List.countP_eq_zero]
        intro a ha hcounts
        obtain rfl := List.mem_singleton.mp ha
        obtain ⟨rfl, hone, -⟩ := Attempt.counts_iff.mp hcounts
        exact hc ⟨rfl, of_decide_eq_true hone⟩
      rw [if_neg hc, hno, Nat.cast_zero, zero_add]
  | sweep | stop => simp [Gate.step, Limiter.Event.onLevel]

/-- After a window, nothing counts for it any more. -/
theorem count_of_late {key : Text} (s : Instant) {t : Instant} (h : t < g.clock) (events : List Limiter.Event) :
    (run events g).1.countP (Attempt.counts key s t) = 0 := by
  rw [List.countP_eq_zero]
  intro a ha hc
  obtain ⟨-, -, -, hend⟩ := Attempt.counts_iff.mp hc
  exact absurd ((clock_le_moment ha).trans hend) (not_le.mpr h)

/-- From now on, no more is let through under a key up to a moment than its level and the refill until then. -/
theorem Sound.count_le (h : g.Sound) (events : List Limiter.Event) (key : Text) (s : Instant) {t : Instant}
    (ht : g.clock ≤ t) :
    ((Gate.run events g).1.countP (Attempt.counts key s t) : ℚ) ≤
      g.level key + g.limiter.rate * Amount.seconds (t - g.clock) := by
  induction events generalizing g with
  | nil =>
    have hrefill := mul_nonneg h.rate (Amount.seconds_nonneg (Int.sub_nonneg_of_le ht))
    simpa [Gate.run] using add_nonneg (h.level_nonneg key) hrefill
  | cons e events ih =>
    obtain ⟨hsound, hrate, -, -⟩ := h.step e
    have hstep := h.count_step e key s t
    rw [run_cons, List.countP_append, Nat.cast_add]
    by_cases hlate : (g.step e).2.clock ≤ t
    · have hrest := ih hsound hlate
      have hspan : t - g.clock = (g.step e).2.clock - g.clock + (t - (g.step e).2.clock) := by ring
      rw [hspan, Amount.seconds_add, mul_add]
      rw [hrate] at hrest
      linarith
    · -- The window ends while time passes, so neither this event nor a later one counts.
      obtain ⟨d, rfl⟩ : ∃ d, e = .pass d := by
        cases e with
        | pass d => exact ⟨d, rfl⟩
        | ask _ | sweep | stop => exact absurd ht hlate
      have hrefill := mul_nonneg h.rate (Amount.seconds_nonneg (Int.sub_nonneg_of_le ht))
      rw [count_of_late s (not_le.mp hlate)]
      simpa [Gate.step] using add_nonneg (h.level_nonneg key) hrefill

/-- In a window of time, no more is let through under a key than the capacity and the refill of the window. -/
theorem Sound.count_window (h : g.Sound) (events : List Limiter.Event) (key : Text) {s t : Instant} (hst : s ≤ t) :
    ((Gate.run events g).1.countP (Attempt.counts key s t) : ℚ) ≤
      g.limiter.capacity + g.limiter.rate * Amount.seconds (t - s) := by
  have hrefill := mul_nonneg h.rate (Amount.seconds_nonneg (Int.sub_nonneg_of_le hst))
  induction events generalizing g with
  | nil => simpa [Gate.run] using add_nonneg h.capacity hrefill
  | cons e events ih =>
    by_cases hs : s ≤ g.clock
    · by_cases ht : g.clock ≤ t
      · have hle := h.count_le (e :: events) key s ht
        have hlevel : g.level key ≤ g.limiter.capacity := g.limiter.level_le g.clock key
        have hspan : g.limiter.rate * Amount.seconds (t - g.clock) ≤ g.limiter.rate * Amount.seconds (t - s) :=
          mul_le_mul_of_nonneg_left (Amount.seconds_mono (by lia)) h.rate
        linarith
      · rw [count_of_late s (not_le.mp ht)]
        simpa using add_nonneg h.capacity hrefill
    · -- Before the window nothing counts.
      obtain ⟨hsound, hrate, hcapacity, -⟩ := h.step e
      have hnone : (g.step e).1.toList.countP (Attempt.counts key s t) = 0 := by
        rw [List.countP_eq_zero]
        intro a ha hc
        obtain ⟨-, -, hbegin, -⟩ := Attempt.counts_iff.mp hc
        exact hs (moment_of_step (Option.mem_toList.mp ha) ▸ hbegin)
      have hrest := ih hsound (hrate.symm ▸ hrefill)
      rw [hrate, hcapacity] at hrest
      rw [run_cons, List.countP_append, hnone, Nat.zero_add]
      exact hrest

/-- The rate is kept. If the capacity refills within ten minutes, then whatever happens to a limiter after its creation, no
more attempts under a key are let through in any window of time than the capacity and the refill of the window allow, and
every bucket holds between nothing and the capacity. -/
theorem admitted_within_window {rate capacity : ℚ} (hrate : 0 ≤ rate) (hcapacity : 0 ≤ capacity)
    (hrefills : capacity ≤ rate * 600) (start : Instant) (events : List Limiter.Event) :
    let r := run events (fresh rate capacity start)
    (∀ (key : Text) (s : Instant) (T : Nat),
      (r.1.countP (Attempt.counts key s (s + T)) : ℚ) ≤ capacity + rate * Amount.seconds T) ∧
    ∀ e ∈ r.2.limiter.buckets, 0 ≤ e.2.tokens ∧ e.2.tokens ≤ capacity := by
  have hsound := fresh_sound hrate hcapacity hrefills start
  obtain ⟨hend, hterms⟩ := hsound.run events
  constructor
  · intro key s T
    have hspan : s + (T : Int) - s = T := by ring
    have hcount := hsound.count_window events key (show s ≤ s + (T : Int) by lia)
    rw [hspan] at hcount
    exact hcount
  · intro e he
    have hbucket := (hend.buckets e he).1
    rw [hterms] at hbucket
    exact hbucket

/-- The bound is reached: five attempts at once, a sixth refused, and two more after ten seconds, on the terms of signing
in. -/
theorem seven_of_nine_admitted :
    let events : List Limiter.Event := List.replicate 6 (.ask "a") ++ [.pass 10000000000] ++ List.replicate 3 (.ask "a")
    let r := run events (fresh (1 / 5 : ℚ) 5 0)
    r.1.countP (Attempt.counts "a" 0 10000000000) = 7 ∧
      (r.1.countP (Attempt.counts "a" 0 (0 + (10000000000 : Nat))) : ℚ) ≤
        5 + 1 / 5 * Amount.seconds (10000000000 : Nat) ∧
      (5 + 1 / 5 * Amount.seconds (10000000000 : Nat) : ℚ) = 7 ∧
      ∀ e ∈ r.2.limiter.buckets, 0 ≤ e.2.tokens ∧ e.2.tokens ≤ 5 := by
  intro events r
  have h := @admitted_within_window (1 / 5) 5 (by norm_num) (by norm_num) (by norm_num) 0 events
  refine ⟨by decide +kernel, h.1 "a" 0 10000000000, ?_, h.2⟩
  rw [Amount.seconds_eq]
  norm_num

end Gate
end Roster
