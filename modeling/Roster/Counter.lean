import Roster.Call

/-!
# Counting side by side

Several workers share a counter behind a lock. Each adds one to it a number of times, then reads the
total and reports it. A worker's steps come one after the other; between workers they come in any
order, which a schedule fixes: it names the worker that makes the next step.
-/

namespace Roster.Counter

/-- A worker: the increments it has left, the total it has read, whether it has reported. -/
structure Worker where
  left : Nat
  seen : Option Nat := none
  reported : Bool := false
deriving Repr, DecidableEq, Inhabited

/-- The shared counter, the workers, and the reports so far as pairs of worker and total. -/
structure State where
  count : Nat := 0
  workers : Array Worker
  reports : List (Nat × Nat) := []
deriving Repr

/-- What a step of a worker does besides changing the state. -/
inductive Event where
  | incremented
  | read
  | reported (worker total : Nat)
  | idle
deriving Repr, DecidableEq

/-- The state before the first step. -/
def start (workers iterations : Nat) : State :=
  { workers := Array.replicate workers { left := iterations } }

/-- The next step of a worker. -/
def step (s : State) (w : Nat) : Event × State :=
  match s.workers[w]? with
  | none => (.idle, s)
  | some { left := n + 1, seen, reported } =>
    (.incremented,
      { s with
        count := s.count + 1
        workers := s.workers.setIfInBounds w { left := n, seen, reported } })
  | some { left := 0, seen := none, reported } =>
    (.read, { s with workers := s.workers.setIfInBounds w { left := 0, seen := some s.count, reported } })
  | some { left := 0, seen := some total, reported := false } =>
    (.reported w total,
      { s with
        workers := s.workers.setIfInBounds w { left := 0, seen := some total, reported := true }
        reports := s.reports ++ [(w, total)] })
  | some _ => (.idle, s)

/-- Runs a schedule. -/
def run (s : State) (schedule : List Nat) : State :=
  schedule.foldl (fun s w => (step s w).2) s

/-- The schedule in which the workers come one after the other. -/
def inTurn (workers iterations : Nat) : List Nat :=
  (List.range workers).flatMap fun w => List.replicate (iterations + 2) w

/-- A report as it is passed on: the worker, the total it has read, and how many workers have reported,
itself included. -/
structure Report where
  worker : Nat
  total : Nat
  finished : Nat
deriving Repr, DecidableEq

/-- Runs a schedule against the surroundings: an increment takes time, a report is passed on. -/
def perform (delay : Span) (onReport : Report → Act Unit) : List Nat → State → Act State
  | [], s => pure s
  | w :: schedule, s => do
    let (event, s) := step s w
    match event with
    | .incremented => if delay > 0 then Act.ask (.pause delay)
    | .reported worker total => onReport { worker, total, finished := s.reports.length }
    | .read | .idle => pure ()
    perform delay onReport schedule s

/-- Runs the given numbers of workers and iterations to the end; nothing happens unless both are
positive. -/
def finish (workers iterations : Int) (delay : Span) (onReport : Report → Act Unit) : Act State :=
  if workers ≤ 0 || iterations ≤ 0 then pure (start 0 0)
  else
    let w := workers.toNat
    let i := iterations.toNat
    perform delay onReport (inTurn w i) (start w i)

/-- The final count of the given numbers of workers and iterations. -/
def count (workers iterations : Int) (delay : Span) (onReport : Report → Act Unit) : Act Nat := do
  return (← finish workers iterations delay onReport).count

end Roster.Counter
