import Roster.Time.Timestamp

/-!
# Limiting attempts

Every key has a bucket of tokens that refills at a steady rate up to a capacity; an attempt takes one
token or is refused. Buckets that nobody has used for a while are swept away at regular moments.

The arithmetic of tokens is a parameter: floating point when run, exact numbers when reasoned about.
-/

namespace Roster

/-- What the limiter needs of a type of amounts: how long a span is in seconds, and arithmetic. -/
class Amount (ν : Type) extends Add ν, Sub ν, Mul ν, Min ν, LT ν where
  one : ν
  seconds : Span → ν
  decidableLt : DecidableRel (α := ν) (· < ·)

instance decidableAmountLt {ν : Type} [Amount ν] : DecidableRel (α := ν) (· < ·) := Amount.decidableLt

/-- An integer as a floating-point number. -/
def floatOfInt (n : Int) : Float :=
  if n < 0 then -(n.natAbs.toUInt64.toFloat) else n.natAbs.toUInt64.toFloat

/-- Whole seconds and the rest of nanoseconds are converted apart and then added. -/
instance : Amount Float where
  one := 1
  seconds d := floatOfInt (d.tdiv Span.second) + floatOfInt (d.tmod Span.second) / 1000000000
  decidableLt := inferInstance

/-- The tokens of a key, as of its last use. -/
structure Bucket (ν : Type) where
  tokens : ν
  last : Instant
deriving Repr

/-- Buckets by key, and the moment of the next sweep unless sweeping has stopped. -/
structure Limiter (ν : Type) where
  rate : ν
  capacity : ν
  buckets : List (Text × Bucket ν) := []
  nextSweep : Option Instant

namespace Limiter

variable {ν : Type}

/-- The time between two sweeps. -/
def sweepInterval : Span := 5 * Span.minute

/-- A bucket that has not been used for longer than this is swept away. -/
def idleTimeout : Span := 10 * Span.minute

/-- A limiter without buckets, created at a moment. -/
def create (rate capacity : ν) (now : Instant) : Limiter ν :=
  { rate, capacity, nextSweep := some (now + sweepInterval) }

/-- The bucket after refilling, as of now. -/
def refill [Amount ν] (l : Limiter ν) (now : Instant) (b : Bucket ν) : Bucket ν :=
  { tokens := min (b.tokens + Amount.seconds (now - b.last) * l.rate) l.capacity, last := now }

/-- The bucket of a key; a full one if there is none. -/
def bucket (l : Limiter ν) (now : Instant) (key : Text) : Bucket ν :=
  (l.buckets.lookup key).getD { tokens := l.capacity, last := now }

/-- Puts a bucket under a key. -/
def put (l : Limiter ν) (key : Text) (b : Bucket ν) : Limiter ν :=
  { l with buckets := (key, b) :: l.buckets.filter fun e => e.1 != key }

/-- Takes a token for a key if there is one. A refused attempt counts as a use too. -/
def allow [Amount ν] (l : Limiter ν) (now : Instant) (key : Text) : Bool × Limiter ν :=
  let b := l.refill now (l.bucket now key)
  if b.tokens < Amount.one then (false, l.put key b)
  else (true, l.put key { b with tokens := b.tokens - Amount.one })

/-- Drops the buckets that were last used longer than the timeout ago. -/
def evictIdle (l : Limiter ν) (now : Instant) : Limiter ν :=
  { l with buckets := l.buckets.filter fun e => !decide (e.2.last < now - idleTimeout) }

/-- Runs the sweeps that are due; `fuel` bounds their number. -/
def sweepFrom : Nat → Limiter ν → Instant → Limiter ν
  | 0, l, _ => l
  | fuel + 1, l, now =>
    match l.nextSweep with
    | some t =>
      if t ≤ now then sweepFrom fuel { l.evictIdle t with nextSweep := some (t + sweepInterval) } now
      else l
    | none => l

/-- The number of sweeps that are due. -/
def due (l : Limiter ν) (now : Instant) : Nat :=
  match l.nextSweep with
  | some t => if t ≤ now then ((now - t) / sweepInterval).toNat + 1 else 0
  | none => 0

/-- Runs every sweep due up to now, each at its own moment. -/
def sweep (l : Limiter ν) (now : Instant) : Limiter ν := sweepFrom (l.due now) l now

/-- Stops sweeping for good. -/
def stop (l : Limiter ν) : Limiter ν := { l with nextSweep := none }

end Limiter

end Roster
