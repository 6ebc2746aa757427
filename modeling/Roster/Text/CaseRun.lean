/-!
# Runs of case mappings

Case mappings are given as runs of code points that move by the same distance. Code points outside every
run stay where they are.
-/

namespace Roster.Text

/-- The code points `low`, `low + step`, … up to `high`, each moved by `shift`. -/
structure CaseRun where
  low : Nat
  high : Nat
  step : Nat
  shift : Int

/-- Where runs move a code point. -/
def CaseRun.move (runs : List CaseRun) (n : Nat) : Nat :=
  match runs.find? fun r => r.low ≤ n && n ≤ r.high with
  | some r => if (n - r.low) % r.step == 0 then (n + r.shift).toNat else n
  | none => n

end Roster.Text
