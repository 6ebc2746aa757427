import Mathlib.Data.List.SplitBy
import Mathlib.Data.Rat.Floor
import Roster.Proofs.RateLimit

/-!
# Keys that a limiter forgets

A limiter sweeps every five minutes, counted from its creation, and a sweep forgets the keys that nobody has used for more than
ten. Where the capacity refills in that time, nobody notices. Where nothing refills at all, a key that is forgotten gets a full
bucket once more.

So the attempts under a key fall into spells, which end where the key is forgotten, and every spell has the whole capacity to
itself. Main statement: with a rate of zero, the first attempts of each spell are let through, as many as the capacity is
worth, and no others; a key gets no more than the capacity as long as it is not forgotten, and it can get any number if it is.
-/

namespace Roster

namespace Limiter

/-! ## The sweeps that have been -/

/-- The last moment up to now at which a limiter that was created at the start sweeps. The start itself counts, when there is
nothing to sweep. -/
def lastSweep (start now : Instant) : Instant := start + (now - start) / sweepInterval * sweepInterval

/-- Whether a key that was used last at a moment has been forgotten by now. -/
def forgets (start last now : Instant) : Bool := decide (last < lastSweep start now - idleTimeout)

/-- The last sweep is not in the future. -/
theorem lastSweep_le (start now : Instant) : lastSweep start now ≤ now := by
  unfold lastSweep sweepInterval Span.minute Span.second
  lia

/-- A key is not forgotten at once. -/
theorem forgets_self (start now : Instant) : forgets start now now = false := by
  have hle := lastSweep_le start now
  have hlate : ¬now < lastSweep start now - idleTimeout := by
    unfold idleTimeout Span.minute Span.second
    lia
  simpa [forgets] using hlate

/-- After a quarter of an hour a key is forgotten wherever the sweeps fall. -/
theorem forgets_after_quarter (start last : Instant) : forgets start last (last + (900000000000 : Nat)) = true := by
  have hlate : last < lastSweep start (last + (900000000000 : Nat)) - idleTimeout := by
    unfold lastSweep sweepInterval idleTimeout Span.minute Span.second
    lia
  exact decide_eq_true hlate

/-- The limiter has swept a number of times since its start. What it keeps for a key is the bucket that the last use of the
key left behind, unless the key was idle for too long at the last sweep. -/
structure Swept {ν : Type} (l : Limiter ν) (start : Instant) (k : Int) (key : Text) (left : Option (Bucket ν)) : Prop where
  keys : (l.buckets.map Prod.fst).Nodup
  next : l.nextSweep = some (start + (k + 1) * sweepInterval)
  lookup : l.buckets.lookup key = left.filter fun b => !decide (b.last < start + k * sweepInterval - idleTimeout)

namespace Swept

variable {ν : Type} {l : Limiter ν} {start now : Instant} {k : Int} {key : Text} {left : Option (Bucket ν)}

/-- One more sweep. Whoever was idle at the one before is still idle. -/
theorem evictIdle (h : l.Swept start k key left) :
    Swept { l.evictIdle (start + (k + 1) * sweepInterval) with
      nextSweep := some (start + (k + 1) * sweepInterval + sweepInterval) } start (k + 1) key left where
  keys := keys_evictIdle h.keys _
  next := by
    have hspan : start + (k + 1) * sweepInterval + sweepInterval = start + (k + 1 + 1) * sweepInterval := by ring
    rw [hspan]
  lookup := by
    show (l.evictIdle (start + (k + 1) * sweepInterval)).buckets.lookup key = _
    rw [lookup_evictIdle h.keys, h.lookup, Option.filter_filter]
    congr 1
    funext b
    have hlater : start + k * sweepInterval ≤ start + (k + 1) * sweepInterval := by
      unfold sweepInterval Span.minute Span.second
      lia
    by_cases hidle : b.last < start + k * sweepInterval - idleTimeout
    · have hidle' : b.last < start + (k + 1) * sweepInterval - idleTimeout := by lia
      simp [hidle']
    · simp [hidle]

/-- The sweeps that are due follow one another, and none changes the terms. -/
theorem sweepFrom (n : Nat) {l : Limiter ν} {k : Int} (h : l.Swept start k key left)
    (hdue : start + (k + n) * sweepInterval ≤ now) :
    (Limiter.sweepFrom n l now).Swept start (k + n) key left ∧ (Limiter.sweepFrom n l now).rate = l.rate ∧
      (Limiter.sweepFrom n l now).capacity = l.capacity := by
  induction n generalizing l k with
  | zero => exact ⟨by simpa [Limiter.sweepFrom] using h, rfl, rfl⟩
  | succ n ih =>
    have hsucc : k + ((n + 1 : Nat) : Int) = k + 1 + n := by lia
    rw [hsucc] at hdue ⊢
    have hnow : start + (k + 1) * sweepInterval ≤ now := by
      unfold sweepInterval Span.minute Span.second at hdue ⊢
      lia
    simp only [Limiter.sweepFrom, h.next, if_pos hnow]
    obtain ⟨hswept, hrate, hcapacity⟩ := ih h.evictIdle hdue
    exact ⟨hswept, hrate, hcapacity⟩

/-- With those that are due, as many sweeps have been as there are intervals since the start. -/
theorem due_eq (h : l.Swept start ((now - start) / sweepInterval) key left) (d : Nat) :
    (now - start) / sweepInterval + l.due (now + d) = (now + d - start) / sweepInterval := by
  unfold due
  rw [h.next]
  dsimp only
  unfold sweepInterval Span.minute Span.second
  split <;> lia

/-- Time passes, and the sweeps that fall due meanwhile are run. -/
theorem sweep (h : l.Swept start ((now - start) / sweepInterval) key left) (d : Nat) :
    (l.sweep (now + d)).Swept start ((now + d - start) / sweepInterval) key left ∧
      (l.sweep (now + d)).rate = l.rate ∧ (l.sweep (now + d)).capacity = l.capacity := by
  have hdue := h.due_eq d
  have hle := lastSweep_le start (now + d)
  unfold lastSweep at hle
  rw [← hdue] at hle ⊢
  exact h.sweepFrom (l.due (now + d)) hle

end Swept

/-! ## What is left in a bucket that does not refill -/

/-- What a number of attempts leave of a full bucket: each takes a token as long as there is a whole one. -/
def remainder (capacity : ℚ) (n : Nat) : ℚ := capacity - min n ⌊capacity⌋₊

theorem remainder_zero (capacity : ℚ) : remainder capacity 0 = capacity := by simp [remainder]

/-- No attempt leaves more than the capacity. -/
theorem remainder_le (capacity : ℚ) (n : Nat) : remainder capacity n ≤ capacity := by
  have hnonneg : (0 : ℚ) ≤ (min n ⌊capacity⌋₊ : Nat) := Nat.cast_nonneg _
  unfold remainder
  linarith

/-- There is a whole token left exactly until the capacity has been used up. -/
theorem one_le_remainder_iff {capacity : ℚ} (h : 0 ≤ capacity) (n : Nat) : 1 ≤ remainder capacity n ↔ n < ⌊capacity⌋₊ := by
  unfold remainder
  constructor
  · intro hone
    by_contra hn
    have hceil := Nat.lt_floor_add_one capacity
    rw [min_eq_right (not_lt.mp hn)] at hone
    linarith
  · intro hn
    have hfloor := Nat.floor_le h
    have hsucc : (n : ℚ) + 1 ≤ ⌊capacity⌋₊ := by exact_mod_cast hn
    rw [min_eq_left hn.le]
    linarith

/-- One more attempt takes a token, if there is a whole one. -/
theorem remainder_succ {capacity : ℚ} (h : 0 ≤ capacity) (n : Nat) :
    remainder capacity (n + 1) =
      if 1 ≤ remainder capacity n then remainder capacity n - 1 else remainder capacity n := by
  by_cases hn : n < ⌊capacity⌋₊
  · rw [if_pos ((one_le_remainder_iff h n).mpr hn)]
    unfold remainder
    rw [min_eq_left hn.le, min_eq_left (Nat.succ_le_of_lt hn)]
    push_cast
    ring
  · have hle : ⌊capacity⌋₊ ≤ n := not_lt.mp hn
    rw [if_neg fun hone => hn ((one_le_remainder_iff h n).mp hone)]
    unfold remainder
    rw [min_eq_right hle, min_eq_right (Nat.le_succ_of_le hle)]

/-- How often a key has been used in its current spell, by the last use and the number of uses up to it. -/
def uses (start now : Instant) : Option (Instant × Nat) → Nat
  | none => 0
  | some (last, n) => if forgets start last now then 0 else n

end Limiter

namespace Gate

open Limiter

/-- The limiter has never refilled nor missed a sweep, and a key was used last as given: at what moment, and how often in its
spell up to then. -/
structure Spent (g : Gate ℚ) (start : Instant) (capacity : ℚ) (key : Text) (seen : Option (Instant × Nat)) : Prop where
  rate : g.limiter.rate = 0
  terms : g.limiter.capacity = capacity
  swept : g.limiter.Swept start ((g.clock - start) / sweepInterval) key
    (seen.map fun s => { tokens := remainder capacity s.2, last := s.1 })

namespace Spent

variable {g : Gate ℚ} {start : Instant} {capacity : ℚ} {key : Text} {seen : Option (Instant × Nat)}

/-- The level of a key is what the uses in its current spell have left. -/
theorem level (h : g.Spent start capacity key seen) : g.level key = remainder capacity (uses start g.clock seen) := by
  have hlookup := h.swept.lookup
  rcases seen with _ | ⟨last, n⟩
  · have hnone : g.limiter.buckets.lookup key = none := hlookup
    show g.limiter.level g.clock key = remainder capacity 0
    rw [level_of_none hnone, h.terms, remainder_zero]
  · have hforgets : decide (last < start + (g.clock - start) / sweepInterval * sweepInterval - idleTimeout) =
      forgets start last g.clock := rfl
    simp only [Option.map_some, Option.filter_some, hforgets] at hlookup
    show g.limiter.level g.clock key = remainder capacity (if forgets start last g.clock then 0 else n)
    cases hf : forgets start last g.clock with
    | true =>
      rw [hf] at hlookup
      rw [level_of_none hlookup, h.terms, if_pos rfl, remainder_zero]
    | false =>
      rw [hf] at hlookup
      rw [level_of_some hlookup, h.rate, h.terms, mul_zero, add_zero, if_neg Bool.false_ne_true]
      exact min_eq_left (remainder_le capacity n)

/-- While time passes, nothing is refilled. -/
theorem pass (h : g.Spent start capacity key seen) (d : Nat) : (g.step (.pass d)).2.Spent start capacity key seen := by
  obtain ⟨hswept, hrate, hcapacity⟩ := h.swept.sweep d
  exact ⟨hrate.trans h.rate, hcapacity.trans h.terms, hswept⟩

/-- Somebody who asks under another key takes nothing from this one. -/
theorem ask_other (h : g.Spent start capacity key seen) {key' : Text} (hne : key ≠ key') :
    (g.step (.ask key')).2.Spent start capacity key seen := by
  obtain ⟨b, hb⟩ := g.limiter.allow_puts g.clock key'
  have hlimiter : (g.step (.ask key')).2.limiter = g.limiter.put key' b := hb
  refine ⟨by rw [hlimiter]; exact h.rate, by rw [hlimiter]; exact h.terms, ?_⟩
  rw [hlimiter]
  refine ⟨keys_put h.swept.keys key' b, h.swept.next, ?_⟩
  rw [lookup_put, if_neg hne]
  exact h.swept.lookup

/-- An attempt is one more use, and is let through while there is a whole token. -/
theorem ask (h : g.Spent start capacity key seen) (hcapacity : 0 ≤ capacity) :
    (g.step (.ask key)).1 =
        some { moment := g.clock, key, admitted := decide (uses start g.clock seen < ⌊capacity⌋₊) } ∧
      (g.step (.ask key)).2.Spent start capacity key (some (g.clock, uses start g.clock seen + 1)) := by
  have hlevel := h.level
  have hone := one_le_remainder_iff hcapacity (uses start g.clock seen)
  constructor
  · rw [step_ask, hlevel, decide_eq_decide.mpr hone]
  · have hlimiter : (g.step (.ask key)).2.limiter =
        g.limiter.put key { tokens := remainder capacity (uses start g.clock seen + 1), last := g.clock } := by
      show (g.limiter.allow g.clock key).2 = _
      have hlevel' : g.limiter.level g.clock key = remainder capacity (uses start g.clock seen) := hlevel
      rw [allow_eq, hlevel', remainder_succ hcapacity]
      split <;> rfl
    refine ⟨by rw [hlimiter]; exact h.rate, by rw [hlimiter]; exact h.terms, ?_⟩
    rw [hlimiter]
    refine ⟨keys_put h.swept.keys key _, h.swept.next, ?_⟩
    have hkept : decide (g.clock < start + (g.clock - start) / sweepInterval * sweepInterval - idleTimeout) = false :=
      forgets_self start g.clock
    rw [lookup_put, if_pos rfl]
    show _ = Option.filter _ (some _)
    rw [Option.filter_some, if_pos]
    show (!decide (g.clock < start + (g.clock - start) / sweepInterval * sweepInterval - idleTimeout)) = true
    rw [hkept]
    rfl

end Spent

/-- A new limiter that does not refill has not been used. -/
theorem fresh_spent (capacity : ℚ) (start : Instant) (key : Text) : (fresh 0 capacity start).Spent start capacity key none := by
  refine ⟨rfl, rfl, List.nodup_nil, ?_, rfl⟩
  have hzero : (start - start) / sweepInterval = 0 := by simp
  show some (start + sweepInterval) = some (start + ((start - start) / sweepInterval + 1) * sweepInterval)
  rw [hzero]
  simp

/-! ## Spells -/

/-- Attempts under a key in spells: one ends where the key is forgotten before the next attempt. -/
def spells (start : Instant) (attempts : List Attempt) : List (List Attempt) :=
  attempts.splitBy fun a b => !forgets start a.moment b.moment

/-- The outcomes that attempts have by their moments: let through as long as the capacity lasts in the spell. -/
def outcomes (start : Instant) (capacity : ℚ) : Option (Instant × Nat) → List Attempt → List Bool
  | _, [] => []
  | seen, a :: attempts =>
    decide (uses start a.moment seen < ⌊capacity⌋₊) ::
      outcomes start capacity (some (a.moment, uses start a.moment seen + 1)) attempts

/-- Time only passes, or somebody asks: no sweep comes out of turn, and sweeping does not stop. -/
def Regular (events : List Limiter.Event) : Prop := ∀ e ∈ events, e ≠ .sweep ∧ e ≠ .stop

section Run

variable {g : Gate ℚ} {start : Instant} {capacity : ℚ} {key : Text} {seen : Option (Instant × Nat)}

/-- The attempts under a key have the outcomes that their moments say. -/
theorem Spent.run (hcapacity : 0 ≤ capacity) {events : List Limiter.Event} (hregular : Regular events)
    (h : g.Spent start capacity key seen) :
    let own := (Gate.run events g).1.filter fun a => a.key == key
    own.map Attempt.admitted = outcomes start capacity seen own := by
  induction events generalizing g seen with
  | nil => rfl
  | cons e events ih =>
    have hrest : Regular events := fun e he => hregular e (List.mem_cons_of_mem _ he)
    dsimp only
    rw [run_cons, List.filter_append]
    cases e with
    | pass d => exact ih hrest (h.pass d)
    | ask key' =>
      by_cases hkey : key = key'
      · subst hkey
        obtain ⟨hattempt, hspent⟩ := h.ask hcapacity
        have hown : ((g.step (.ask key)).1.toList.filter fun a => a.key == key) = (g.step (.ask key)).1.toList := by
          rw [hattempt]
          simp
        rw [hown, hattempt]
        exact congrArg₂ List.cons rfl (ih hrest hspent)
      · have hnone : ((g.step (.ask key')).1.toList.filter fun a => a.key == key) = [] := by
          simpa [step] using Ne.symm hkey
        rw [hnone]
        exact ih hrest (h.ask_other hkey)
    | sweep => exact absurd rfl (hregular .sweep List.mem_cons_self).1
    | stop => exact absurd rfl (hregular .stop List.mem_cons_self).2

/-- While a key is not forgotten, its uses are counted on. -/
theorem outcomes_append {a : Attempt} {spell : List Attempt}
    (hchain : (a :: spell).IsChain fun a b => (!forgets start a.moment b.moment) = true) (later : List Attempt) :
    outcomes start capacity seen (a :: spell ++ later) =
      ((List.range' (uses start a.moment seen) (spell.length + 1)).map fun i => decide (i < ⌊capacity⌋₊)) ++
        outcomes start capacity
          (some (((a :: spell).getLast (List.cons_ne_nil _ _)).moment, uses start a.moment seen + (spell.length + 1)))
          later := by
  induction spell generalizing a seen with
  | nil => rfl
  | cons b spell ih =>
    obtain ⟨hab, hrest⟩ := List.isChain_cons_cons.mp hchain
    have huses : uses start b.moment (some (a.moment, uses start a.moment seen + 1)) = uses start a.moment seen + 1 := by
      have hforgets : forgets start a.moment b.moment = false := by simpa using hab
      simp [uses, hforgets]
    have hb : outcomes start capacity (some (a.moment, uses start a.moment seen + 1)) (b :: spell ++ later) = _ := ih hrest
    rw [huses] at hb
    show decide _ :: outcomes start capacity (some (a.moment, uses start a.moment seen + 1)) (b :: spell ++ later) = _
    rw [hb, List.getLast_cons (List.cons_ne_nil _ _), List.length_cons, Nat.add_assoc, Nat.add_comm 1]
    rfl

/-- Each of several spells starts with the whole capacity. -/
theorem admitted_of_spells {spells : List (List Attempt)} (hne : [] ∉ spells)
    (hchain : ∀ s ∈ spells, s.IsChain fun a b => (!forgets start a.moment b.moment) = true)
    (hapart : spells.IsChain fun s s' => ∃ hs hs', (!forgets start (s.getLast hs).moment (s'.head hs').moment) = false)
    (hfirst : ∀ a ∈ spells.flatten.head?, uses start a.moment seen = 0)
    (h : spells.flatten.map Attempt.admitted = outcomes start capacity seen spells.flatten) :
    ∀ s ∈ spells, s.map Attempt.admitted = (List.range s.length).map fun i => decide (i < ⌊capacity⌋₊) := by
  induction spells generalizing seen with
  | nil => nofun
  | cons s spells ih =>
    obtain ⟨a, rest, rfl⟩ : ∃ a rest, s = a :: rest := by
      cases s with
      | nil => exact absurd List.mem_cons_self hne
      | cons a rest => exact ⟨a, rest, rfl⟩
    have hzero : uses start a.moment seen = 0 := hfirst a rfl
    rw [List.flatten_cons, List.map_append, outcomes_append (hchain _ List.mem_cons_self), hzero] at h
    obtain ⟨hhere, hlater⟩ := List.append_inj h (by simp)
    have hlast : ∀ b ∈ spells.flatten.head?,
        uses start b.moment (some (((a :: rest).getLast (List.cons_ne_nil _ _)).moment, 0 + (rest.length + 1))) = 0 := by
      intro b hb
      cases spells with
      | nil => cases hb
      | cons s' spells =>
        obtain ⟨hs, hs', hforgets⟩ := (List.isChain_cons_cons.mp hapart).1
        obtain ⟨c, rest', rfl⟩ := List.exists_cons_of_ne_nil hs'
        obtain rfl : c = b := Option.some.inj hb
        have hforgets' : forgets start ((a :: rest).getLast hs).moment c.moment = true := by simpa using hforgets
        simp only [uses, hforgets', if_true]
    intro s hs
    rcases List.mem_cons.mp hs with rfl | hs
    · rw [hhere, List.range_eq_range']
      rfl
    · exact ih (fun hmem => hne (List.mem_cons_of_mem _ hmem)) (fun s hs => hchain s (List.mem_cons_of_mem _ hs))
        (List.IsChain.tail hapart) hlast hlater s hs

/-- If the first attempts are let through, they are as many as there are, up to the number that may be. -/
theorem countP_of_first {s : List Attempt} {n : Nat}
    (h : s.map Attempt.admitted = (List.range s.length).map fun i => decide (i < n)) :
    s.countP Attempt.admitted = min s.length n := by
  have hcount : (s.map Attempt.admitted).countP id = s.countP Attempt.admitted := by
    rw [List.countP_map]
    rfl
  rw [← hcount, h, List.countP_map]
  induction s.length with
  | zero => simp
  | succ m ih =>
    rw [List.range_succ, List.countP_append, ih, List.countP_singleton]
    simp only [Function.comp_apply, id_eq, decide_eq_true_eq]
    split <;> lia

/-- Asking once and then waiting for a quarter of an hour, over and over. -/
def rounds (key : Text) : Nat → List Limiter.Event
  | 0 => []
  | n + 1 => .ask key :: .pass 900000000000 :: rounds key n

/-- In the rounds no sweep comes out of turn. -/
theorem rounds_regular (key : Text) (n : Nat) : Regular (rounds key n) := by
  induction n with
  | zero => nofun
  | succ n ih =>
    intro e he
    rcases List.mem_cons.mp he with rfl | he
    · exact ⟨nofun, nofun⟩
    · rcases List.mem_cons.mp he with rfl | he
      · exact ⟨nofun, nofun⟩
      · exact ih e he

/-- Whoever waits long enough is let through every time. -/
theorem Spent.rounds (hcapacity : 1 ≤ capacity) (h : g.Spent start capacity key seen) (hidle : uses start g.clock seen = 0)
    (n : Nat) : ((Gate.run (rounds key n) g).1.filter fun a => a.key == key).countP Attempt.admitted = n := by
  induction n generalizing g seen with
  | zero => rfl
  | succ n ih =>
    obtain ⟨hattempt, hspent⟩ := h.ask (zero_le_one.trans hcapacity)
    have hfirst : uses start g.clock seen < ⌊capacity⌋₊ := hidle ▸ Nat.floor_pos.mpr hcapacity
    have hforgotten : uses start (g.clock + (900000000000 : Nat)) (some (g.clock, uses start g.clock seen + 1)) = 0 := by
      simp only [uses, forgets_after_quarter, if_true]
    have hrest := ih (hspent.pass 900000000000) hforgotten
    unfold Gate.rounds
    rw [run_cons, run_cons, hattempt, List.filter_append, List.countP_append]
    simp only [decide_eq_true hfirst]
    rw [Nat.add_comm n 1]
    exact congrArg₂ (· + ·) (by simp) hrest

/-- In every spell the first attempts are let through, as many as the capacity is worth. -/
theorem admitted_by_spell (hcapacity : 0 ≤ capacity) {events : List Limiter.Event} (hregular : Regular events) (start : Instant)
    (key : Text) : ∀ spell ∈ spells start ((run events (fresh 0 capacity start)).1.filter fun a => a.key == key),
      spell.map Attempt.admitted = (List.range spell.length).map fun i => decide (i < ⌊capacity⌋₊) := by
  have hrun := (fresh_spent capacity start key).run hcapacity hregular
  dsimp only at hrun
  generalize ((run events (fresh 0 capacity start)).1.filter fun a => a.key == key) = own at hrun ⊢
  have hall : (spells start own).flatten = own := List.flatten_splitBy _ own
  rw [← hall] at hrun
  exact admitted_of_spells (List.nil_notMem_splitBy _ own) (fun spell hspell => List.isChain_of_mem_splitBy hspell)
    (List.isChain_getLast_head_splitBy (fun a b : Attempt => !forgets start a.moment b.moment) own) (fun _ _ => rfl) hrun

/-- The attempts that are let through are counted spell by spell. -/
theorem count_by_spell {own : List Attempt} (h : ∀ spell ∈ spells start own,
      spell.map Attempt.admitted = (List.range spell.length).map fun i => decide (i < ⌊capacity⌋₊)) :
    own.countP Attempt.admitted = ((spells start own).map fun spell => min spell.length ⌊capacity⌋₊).sum := by
  have hall : own = (spells start own).flatten := (List.flatten_splitBy _ own).symm
  rw [congrArg (List.countP Attempt.admitted) hall, List.countP_flatten]
  exact congrArg List.sum (List.map_congr_left fun spell hspell => countP_of_first (h spell hspell))

/-- Attempts under a key that is never forgotten are one spell. -/
theorem count_unforgotten (hcapacity : 0 ≤ capacity) {own : List Attempt}
    (hcount : own.countP Attempt.admitted = ((spells start own).map fun spell => min spell.length ⌊capacity⌋₊).sum)
    (hkept : own.IsChain fun a b => forgets start a.moment b.moment = false) :
    (own.countP Attempt.admitted : ℚ) ≤ capacity := by
  by_cases hnil : own = []
  · subst hnil
    simpa using hcapacity
  · have hone : spells start own = [own] :=
      List.splitBy_of_isChain hnil (hkept.imp fun a b hab => by simp [hab])
    have hle : own.countP Attempt.admitted ≤ ⌊capacity⌋₊ := by
      rw [hcount, hone]
      simp
    exact (Nat.cast_le.mpr hle).trans (Nat.floor_le hcapacity)

end Run

/-- Without refilling, a key gets the capacity anew each time it has been forgotten, and only then. Say that attempts are made
under a rate of zero, with the sweeps at their moments. In each spell of a key the first attempts are let through, as many as
the capacity is worth, and no others, which makes the total; it is within the capacity for a key that is never forgotten. For a
key that may be forgotten it is so only under a capacity that lets nobody through at all. -/
theorem zero_rate_admits_by_spell {capacity : ℚ} (hcapacity : 0 ≤ capacity) :
    (∀ (start : Instant) (events : List Limiter.Event) (key : Text), Regular events →
      let own := (run events (fresh 0 capacity start)).1.filter fun a => a.key == key
      (∀ spell ∈ spells start own,
        spell.map Attempt.admitted = (List.range spell.length).map fun i => decide (i < ⌊capacity⌋₊)) ∧
      own.countP Attempt.admitted = ((spells start own).map fun spell => min spell.length ⌊capacity⌋₊).sum ∧
      ((own.IsChain fun a b => forgets start a.moment b.moment = false) → (own.countP Attempt.admitted : ℚ) ≤ capacity)) ∧
    ((∀ (start : Instant) (events : List Limiter.Event) (key : Text), Regular events →
      (((run events (fresh 0 capacity start)).1.filter fun a => a.key == key).countP Attempt.admitted : ℚ) ≤ capacity) ↔
      capacity < 1) := by
  constructor
  · intro start events key hregular own
    have hspells := admitted_by_spell hcapacity hregular start key
    have hcount := count_by_spell hspells
    exact ⟨hspells, hcount, count_unforgotten hcapacity hcount⟩
  · constructor
    · intro hbound
      by_contra hone
      have hcapacity' : 1 ≤ capacity := not_lt.mp hone
      -- One round more than the capacity is worth.
      have hle := hbound 0 (rounds [] (⌊capacity⌋₊ + 1)) [] (rounds_regular [] _)
      rw [(fresh_spent capacity 0 []).rounds hcapacity' rfl] at hle
      have hceil := Nat.lt_floor_add_one capacity
      push_cast at hle
      linarith
    · intro hone start events key hregular
      have hfloor : ⌊capacity⌋₊ = 0 := Nat.floor_eq_zero.mpr hone
      have hcount := count_by_spell (admitted_by_spell hcapacity hregular start key)
      rw [hcount, hfloor]
      simpa using hcapacity

/-- Two of three attempts are let through at once and one of one a quarter of an hour later, whatever happens to other keys. -/
theorem three_of_four_in_two_spells :
    let events : List Limiter.Event := [.ask "a", .ask "a", .ask "b", .ask "a", .pass 900000000000, .ask "a"]
    let own := (run events (fresh 0 (2 : ℚ) 0)).1.filter fun a => a.key == utf8 "a"
    (0 : ℚ) ≤ 2 ∧ Regular events ∧ (spells 0 own).map List.length = [3, 1] ∧
      own.countP Attempt.admitted = ((spells 0 own).map fun spell => min spell.length ⌊(2 : ℚ)⌋₊).sum ∧
      own.countP Attempt.admitted = 3 := by
  intro events own
  have hregular : Regular events := by
    unfold Regular
    decide +kernel
  have h := @zero_rate_admits_by_spell 2 (by norm_num)
  exact ⟨by norm_num, hregular, by decide +kernel, (h.1 0 events "a" hregular).2.1, by decide +kernel⟩

/-- A key with a single token that is never refilled is let through twice. -/
theorem idle_key_gets_second_token :
    let events : List Limiter.Event := [.ask "k", .pass 900000000000, .ask "k"]
    let own := (run events (fresh 0 (1 : ℚ) 0)).1.filter fun a => a.key == utf8 "k"
    Regular events ∧ own.map Attempt.admitted = [true, true] ∧ ¬(own.countP Attempt.admitted : ℚ) ≤ 1 := by
  intro events own
  have hcount : own.countP Attempt.admitted = 2 := by decide +kernel
  refine ⟨by unfold Regular; decide +kernel, by decide +kernel, ?_⟩
  rw [hcount]
  norm_num

end Gate
end Roster
