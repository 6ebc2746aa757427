import Mathlib.Logic.Function.Basic
import Roster.Proofs.IdleKeys

/-!
# How long buckets live

A limiter sweeps every five minutes, counted from its creation, and forgets the keys that nobody has used for more than ten.
Attempts come at any moments, also at that of a sweep, before it or after it. So a key is kept for ten minutes after its last
use, and is forgotten within a quarter of an hour.

A run is watched together with what the last attempt under each key has left (`Timely`). At every point of it, the limiter keeps
just that for a key, or nothing if the key was idle for too long at the last sweep (`Timely.swept`). Nothing here depends on the
arithmetic of tokens.
-/

namespace Roster

/-- An attempt puts a bucket in place that was used just now. -/
theorem Limiter.allow_puts_now {ν : Type} [Amount ν] (l : Limiter ν) (now : Instant) (key : Text) :
    ∃ b, b.last = now ∧ (l.allow now key).2 = l.put key b := by
  unfold allow
  dsimp only
  split
  · exact ⟨_, rfl, rfl⟩
  · exact ⟨_, rfl, rfl⟩

namespace Gate

open Limiter

variable {ν : Type} [Amount ν]

/-- What an attempt under a key leaves behind: the tokens in the bucket, and the moment. -/
def leaves (g : Gate ν) (key : Text) : Bucket ν :=
  { tokens := ((g.step (.ask key)).2.limiter.bucket g.clock key).tokens, last := g.clock }

/-- A sweep that is due, and the appointment for the next one. -/
def sweeps (g : Gate ν) : Gate ν :=
  { g with limiter := { g.limiter.evictIdle g.clock with nextSweep := some (g.clock + sweepInterval) } }

/-- What can become of a limiter whose sweeps are run at their moments, and what the last attempt under each key has left. Time
goes on only when no sweep is due, and not beyond the next one. At the moment of a sweep, attempts may come before it or after
it. -/
inductive Timely (rate capacity : ν) (start : Instant) : Gate ν → (Text → Option (Bucket ν)) → Prop where
  | created : Timely rate capacity start (fresh rate capacity start) fun _ => none
  | pass {g : Gate ν} {left : Text → Option (Bucket ν)} (d : Nat) : Timely rate capacity start g left →
      (∀ t ∈ g.limiter.nextSweep, g.clock + d ≤ t) → Timely rate capacity start { g with clock := g.clock + d } left
  | ask {g : Gate ν} {left : Text → Option (Bucket ν)} (key : Text) : Timely rate capacity start g left →
      Timely rate capacity start (g.step (.ask key)).2 (Function.update left key (some (g.leaves key)))
  | sweep {g : Gate ν} {left : Text → Option (Bucket ν)} : Timely rate capacity start g left →
      g.limiter.nextSweep = some g.clock → Timely rate capacity start g.sweeps left

/-- No sweep is due. -/
def Settled (g : Gate ν) : Prop := g.limiter.nextSweep ≠ some g.clock

namespace Timely

variable {rate capacity : ν} {start : Instant} {g : Gate ν} {left : Text → Option (Bucket ν)}

/-- The limiter has swept a number of times, at every moment up to now for which there was an appointment, and keeps for each
key what its last use has left, unless that was too long before the last sweep. -/
theorem swept (h : Timely rate capacity start g left) :
    ∃ k : Nat, (∀ key, g.limiter.Swept start k key (left key)) ∧
      start + k * sweepInterval ≤ g.clock ∧ g.clock ≤ start + (k + 1) * sweepInterval := by
  induction h with
  | created =>
    refine ⟨0, fun key => ⟨List.nodup_nil, ?_, rfl⟩, ?_, ?_⟩
    · show some (start + sweepInterval) = _
      simp
    · show start + _ ≤ start
      simp
    · show start ≤ start + _
      unfold sweepInterval Span.minute Span.second
      lia
  | @pass g left d _ hdue ih =>
    obtain ⟨k, hswept, hlast, hnext⟩ := ih
    exact ⟨k, hswept, Int.le_trans hlast (Int.le_add_of_nonneg_right (Int.natCast_nonneg d)), hdue _ (hswept []).next⟩
  | @ask g left key _ ih =>
    obtain ⟨k, hswept, hlast, hnext⟩ := ih
    refine ⟨k, fun key' => ?_, hlast, hnext⟩
    obtain ⟨b, hb, hput⟩ := g.limiter.allow_puts_now g.clock key
    have hlimiter : (g.step (.ask key)).2.limiter = g.limiter.put key b := hput
    have hleaves : g.leaves key = b := by
      unfold leaves
      rw [hlimiter, bucket, lookup_put, if_pos rfl, Option.getD_some, ← hb]
    rw [hlimiter, hleaves]
    refine ⟨keys_put (hswept key).keys key b, (hswept key).next, ?_⟩
    rw [lookup_put, Function.update_apply]
    split
    · -- A bucket that was used just now is not idle.
      have hused : ¬b.last < start + k * sweepInterval - idleTimeout := by
        rw [hb]
        exact Int.not_lt.mpr (Int.le_trans (Int.sub_le_self _ (by decide)) hlast)
      rw [Option.filter_some, if_pos (by simpa using hused)]
    · exact (hswept key').lookup
  | @sweep g left _ hdue ih =>
    obtain ⟨k, hswept, hlast, hnext⟩ := ih
    have hclock : g.clock = start + (k + 1) * sweepInterval :=
      Option.some.inj (hdue.symm.trans (hswept []).next)
    refine ⟨k + 1, fun key => ?_, ?_, ?_⟩
    · have hevicted := (hswept key).evictIdle
      rw [← hclock] at hevicted
      exact_mod_cast hevicted
    · show start + _ ≤ g.clock
      rw [hclock]
      push_cast
      exact Int.le_refl _
    · show g.clock ≤ _
      rw [hclock]
      unfold sweepInterval Span.minute Span.second
      push_cast
      lia

/-- Where no sweep is due, the next one is still to come. -/
theorem swept_settled (h : Timely rate capacity start g left) (hsettled : g.Settled) :
    ∃ k : Nat, (∀ key, g.limiter.Swept start k key (left key)) ∧
      start + k * sweepInterval ≤ g.clock ∧ g.clock < start + (k + 1) * sweepInterval := by
  obtain ⟨k, hswept, hlast, hnext⟩ := h.swept
  refine ⟨k, hswept, hlast, Int.lt_iff_le_and_ne.mpr ⟨hnext, fun hclock => hsettled ?_⟩⟩
  rw [(hswept []).next, hclock]

/-- What is kept for a key was left by its last use, which is less than a quarter of an hour ago. -/
theorem recent_of_kept (h : Timely rate capacity start g left) (hsettled : g.Settled) {key : Text} {b : Bucket ν}
    (hb : g.limiter.buckets.lookup key = some b) : left key = some b ∧ g.clock - b.last < 15 * Span.minute := by
  obtain ⟨k, hswept, -, hbefore⟩ := h.swept_settled hsettled
  rw [(hswept key).lookup, Option.filter_eq_some_iff] at hb
  obtain ⟨hleft, hlive⟩ := hb
  have hlast : ¬b.last < start + k * sweepInterval - idleTimeout := by simpa using hlive
  refine ⟨hleft, ?_⟩
  unfold sweepInterval at hbefore hlast
  unfold idleTimeout at hlast
  unfold Span.minute Span.second at hbefore hlast ⊢
  lia

/-- What the last use of a key has left is kept for ten minutes, the last moment included. -/
theorem kept_of_recent (h : Timely rate capacity start g left) {key : Text} {b : Bucket ν} (hb : left key = some b)
    (hrecent : g.clock - b.last ≤ idleTimeout) : g.limiter.buckets.lookup key = some b := by
  obtain ⟨k, hswept, hlast, -⟩ := h.swept
  have hlive : ¬b.last < start + k * sweepInterval - idleTimeout :=
    not_lt.mpr ((sub_le_sub_right hlast idleTimeout).trans (sub_le_comm.mp hrecent))
  rw [(hswept key).lookup, hb, Option.filter_some, if_pos (by simpa using hlive)]

/-! ## Runs with the sweeps at once -/

/-- Going through the appointments up to a moment, one after the other. -/
theorem sweepFrom (n : Nat) {now : Instant} {clock : Instant} {l : Limiter ν} (h : Timely rate capacity start ⟨clock, l⟩ left)
    (hclock : clock ≤ now) :
    ∃ clock', clock' ≤ now ∧ Timely rate capacity start ⟨clock', Limiter.sweepFrom n l now⟩ left := by
  induction n generalizing clock l with
  | zero => exact ⟨clock, hclock, h⟩
  | succ n ih =>
    obtain ⟨k, hswept, -, hnext⟩ := h.swept
    have happointed := (hswept []).next
    dsimp only at hnext happointed
    generalize start + (k + 1) * sweepInterval = t at hnext happointed
    simp only [Limiter.sweepFrom, happointed]
    split
    · -- Time goes on to the appointment, and the sweep is run.
      rename_i hdue
      obtain ⟨d, hd⟩ := Int.le.dest hnext
      have hpass : Timely rate capacity start ⟨t, l⟩ left := by
        rw [← hd]
        refine h.pass d fun t' ht' => ?_
        obtain rfl := Option.some.inj (happointed.symm.trans ht')
        exact Int.le_of_eq hd
      exact ih (hpass.sweep happointed) hdue
    · exact ⟨clock, hclock, h⟩

/-- Time passes, and the sweeps that fall due are run at once. -/
theorem pass_on (h : Timely rate capacity start g left) (hsettled : g.Settled) (d : Nat) :
    Timely rate capacity start (g.step (.pass d)).2 left ∧ (g.step (.pass d)).2.Settled := by
  obtain ⟨k, hswept, hlast, hbefore⟩ := h.swept_settled hsettled
  have hcount : (g.clock - start) / sweepInterval = k := by
    unfold sweepInterval Span.minute Span.second at hlast hbefore ⊢
    lia
  have happointed := ((hcount ▸ hswept []).sweep d).1.next
  have hlater : g.clock + d < start + ((g.clock + d - start) / sweepInterval + 1) * sweepInterval := by
    unfold sweepInterval Span.minute Span.second
    lia
  obtain ⟨clock', hclock', hreached⟩ :=
    h.sweepFrom (g.limiter.due (g.clock + d)) (Int.le_add_of_nonneg_right (Int.natCast_nonneg d))
  obtain ⟨d', hd'⟩ := Int.le.dest hclock'
  have hpass := hreached.pass d' fun t ht => by
    obtain rfl := Option.some.inj (happointed.symm.trans ht)
    exact Int.le_trans (Int.le_of_eq hd') (Int.le_of_lt hlater)
  dsimp only at hpass
  rw [hd'] at hpass
  refine ⟨hpass, fun hdue => ?_⟩
  exact Int.ne_of_gt hlater (Option.some.inj (happointed.symm.trans hdue))

/-- When somebody asks, no sweep falls due. -/
theorem settled_ask (hsettled : g.Settled) (key : Text) : (g.step (.ask key)).2.Settled := by
  obtain ⟨b, -, hput⟩ := g.limiter.allow_puts_now g.clock key
  have hlimiter : (g.step (.ask key)).2.limiter = g.limiter.put key b := hput
  show (g.step (.ask key)).2.limiter.nextSweep ≠ _
  rw [hlimiter]
  exact hsettled

/-- Runs in which time passes and somebody asks are timely, and what the last attempt under a key has left is dated by it. -/
theorem run {events : List Event} (hregular : Regular events) (h : Timely rate capacity start g left) (hsettled : g.Settled) :
    ∃ left', Timely rate capacity start (Gate.run events g).2 left' ∧ (Gate.run events g).2.Settled ∧
      ∀ key, (left' key).map Bucket.last =
        (((Gate.run events g).1.filter fun a => a.key == key).getLast?.map Attempt.moment).or ((left key).map Bucket.last) := by
  induction events generalizing g left with
  | nil => exact ⟨left, h, hsettled, fun _ => rfl⟩
  | cons e events ih =>
    have hrest : Regular events := fun e he => hregular e (List.mem_cons_of_mem _ he)
    simp only [run_cons]
    cases e with
    | pass d =>
      obtain ⟨hpass, hsettled'⟩ := h.pass_on hsettled d
      exact ih hrest hpass hsettled'
    | ask key =>
      obtain ⟨left', htimely, hsettled', hdated⟩ := ih hrest (h.ask key) (settled_ask hsettled key)
      refine ⟨left', htimely, hsettled', fun key' => ?_⟩
      rw [hdated key', List.filter_append, List.getLast?_append, Option.map_or, Option.or_assoc]
      congr 1
      have hattempt : (g.step (.ask key)).1.toList = [⟨g.clock, key, (g.limiter.allow g.clock key).1⟩] := rfl
      rw [hattempt, Function.update_apply]
      by_cases hkey : key' = key
      · subst hkey
        simp [leaves]
      · simp [hkey, Ne.symm hkey]
    | sweep => exact absurd rfl (hregular .sweep List.mem_cons_self).1
    | stop => exact absurd rfl (hregular .stop List.mem_cons_self).2

end Timely

/-- Idle buckets go and live ones stay. At every moment of a timely run at which no sweep is due:
1. What the limiter keeps for a key was left by the last attempt under it, less than a quarter of an hour ago; and what an
   attempt has left is kept for ten minutes, the last moment included, unless there is another one.
2. The sweeps have come at every multiple of five minutes after the creation up to now.
The runs in which the sweeps are run at once are timely, and the last attempts are those of the run. -/
theorem idle_buckets_go_and_live_ones_stay (rate capacity : ν) (start : Instant) :
    (∀ (g : Gate ν) (left : Text → Option (Bucket ν)), Timely rate capacity start g left → g.Settled →
      (∀ key,
        (∀ b, g.limiter.buckets.lookup key = some b → left key = some b ∧ g.clock - b.last < 15 * Span.minute) ∧
        ∀ b, left key = some b → g.clock - b.last ≤ 10 * Span.minute → g.limiter.buckets.lookup key = some b) ∧
      ∃ k : Nat, start + k * (5 * Span.minute) ≤ g.clock ∧ g.clock < start + (k + 1) * (5 * Span.minute) ∧
        g.limiter.nextSweep = some (start + (k + 1) * (5 * Span.minute))) ∧
    ∀ events, Regular events → ∃ left, Timely rate capacity start (run events (fresh rate capacity start)).2 left ∧
      (run events (fresh rate capacity start)).2.Settled ∧
      ∀ key, (left key).map Bucket.last =
        ((run events (fresh rate capacity start)).1.filter fun a => a.key == key).getLast?.map Attempt.moment := by
  constructor
  · intro g left h hsettled
    refine ⟨fun key => ⟨fun b hb => h.recent_of_kept hsettled hb, fun b hb hrecent => h.kept_of_recent hb hrecent⟩, ?_⟩
    obtain ⟨k, hswept, hlast, hbefore⟩ := h.swept_settled hsettled
    exact ⟨k, hlast, hbefore, (hswept []).next⟩
  · intro events hregular
    have hsettled : (fresh rate capacity start).Settled := by
      intro hdue
      have hzero : start + sweepInterval = start := Option.some.inj hdue
      unfold sweepInterval Span.minute Span.second at hzero
      lia
    obtain ⟨left, htimely, hsettled', hdated⟩ := Timely.run hregular .created hsettled
    exact ⟨left, htimely, hsettled', fun key => by rw [hdated key]; simp⟩

/-- One key is used at the creation and another one five minutes later, just before the sweep of that moment. After ten minutes
the first key is still there, with the token that is left of two. After a quarter of an hour it is gone, and the second one is
there. -/
theorem key_kept_for_ten_minutes :
    ∃ (g g' : Gate ℚ) (left : Text → Option (Bucket ℚ)),
      (Timely 0 2 0 g left ∧ g.Settled ∧ g.clock = 10 * Span.minute ∧
        g.limiter.buckets.lookup (utf8 "a") = some { tokens := 1, last := 0 }) ∧
      (Timely 0 2 0 g' left ∧ g'.Settled ∧ g'.clock = 15 * Span.minute ∧ g'.limiter.buckets.lookup (utf8 "a") = none ∧
        g'.limiter.buckets.lookup (utf8 "b") = some { tokens := 1, last := 5 * Span.minute }) := by
  let opened : Gate ℚ := fresh 0 2 0
  let used : Gate ℚ := { (opened.step (.ask "a")).2 with clock := 5 * Span.minute }
  let swept : Gate ℚ := (used.step (.ask "b")).2.sweeps
  let ten : Gate ℚ := { swept with clock := 10 * Span.minute }.sweeps
  let fifteen : Gate ℚ := { ten with clock := 15 * Span.minute }.sweeps
  let first : Text → Option (Bucket ℚ) := Function.update (fun _ => none) (utf8 "a") (some (opened.leaves "a"))
  let left := Function.update first "b" (some (used.leaves "b"))
  have hused : Timely 0 2 0 used first := (Timely.created.ask "a").pass 300000000000 (by decide +kernel)
  have hswept : Timely 0 2 0 swept left := (hused.ask "b").sweep (by decide +kernel)
  have hten : Timely 0 2 0 ten left := (hswept.pass 300000000000 (by decide +kernel)).sweep (by decide +kernel)
  have hfifteen : Timely 0 2 0 fifteen left := (hten.pass 300000000000 (by decide +kernel)).sweep (by decide +kernel)
  have ha : left (utf8 "a") = some { tokens := 1, last := 0 } := by
    have htokens : (opened.leaves "a").tokens = 1 := by decide +kernel
    rw [← htokens]
    exact (Function.update_of_ne (by decide) _ _).trans (Function.update_self _ _ _)
  have hb : left (utf8 "b") = some { tokens := 1, last := 5 * Span.minute } := by
    have htokens : (used.leaves "b").tokens = 1 := by decide +kernel
    rw [← htokens]
    exact Function.update_self _ _ _
  have hclock : ten.clock = 10 * Span.minute := rfl
  have hclock' : fifteen.clock = 15 * Span.minute := rfl
  have hsettled : ten.Settled := by
    show ten.limiter.nextSweep ≠ some ten.clock
    decide +kernel
  have hsettled' : fifteen.Settled := by
    show fifteen.limiter.nextSweep ≠ some fifteen.clock
    decide +kernel
  clear_value ten fifteen left
  have hall := (idle_buckets_go_and_live_ones_stay (0 : ℚ) 2 0).1
  refine ⟨ten, fifteen, left, ⟨hten, hsettled, hclock, ?_⟩, hfifteen, hsettled', hclock', ?_, ?_⟩
  · refine ((hall ten left hten hsettled).1 (utf8 "a")).2 _ ha ?_
    rw [hclock]
    decide
  · rw [Option.eq_none_iff_forall_ne_some]
    intro b hkept
    obtain ⟨hlast, hrecent⟩ := ((hall fifteen left hfifteen hsettled').1 (utf8 "a")).1 b hkept
    obtain rfl := Option.some.inj (ha.symm.trans hlast)
    rw [hclock'] at hrecent
    exact absurd hrecent (by decide)
  · refine ((hall fifteen left hfifteen hsettled').1 (utf8 "b")).2 _ hb ?_
    rw [hclock']
    decide

end Gate
end Roster
