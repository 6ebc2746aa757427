/-!
# Programs

A program is a pure description of a computation that makes calls to its surroundings and goes on
with their answers. It can be run against any surroundings, one call at a time, so one description
serves a store in memory, a table behind a driver, and surroundings that fail or interleave.
-/

namespace Roster

/-- The calls a program can make, and the type of the answer to each. -/
structure Interface where
  Call : Type
  Answer : Call → Type

/-- A computation that ends with a value or makes a call and goes on with its answer. -/
inductive Program (I : Interface) (α : Type) where
  | done (a : α)
  | call (c : I.Call) (next : I.Answer c → Program I α)

namespace Program

variable {I : Interface} {α β σ : Type}

/-- Goes on with the value of a program. -/
def bind : Program I α → (α → Program I β) → Program I β
  | .done a, f => f a
  | .call c next, f => .call c fun x => bind (next x) f

instance : Monad (Program I) where
  pure := .done
  bind := bind

/-- A single call. -/
def ask (c : I.Call) : Program I (I.Answer c) := .call c .done

/-- Runs a program against surroundings with a state. -/
def run (answer : (c : I.Call) → σ → I.Answer c × σ) : Program I α → σ → α × σ
  | .done a, s => (a, s)
  | .call c next, s =>
    let (x, s) := answer c s
    run answer (next x) s

end Program

end Roster
