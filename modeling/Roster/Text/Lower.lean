import Roster.Text.LowerTable
import Roster.Text.Rune

/-!
# Lower case

A text in lower case, over all of Unicode. Every character becomes one character, whatever stands beside
it. A stray byte becomes the replacement character.
-/

namespace Roster.Text

/-- A code point in lower case. -/
def lowerCode (n : Nat) : Nat :=
  if n < 128 then if 65 ≤ n && n ≤ 90 then n + 32 else n
  else CaseRun.move lowerRuns n

/-- A text with its letters in lower case. -/
def lowered (t : Text) : Text :=
  t.runes.flatMap fun r => String.utf8EncodeChar (Char.ofNat (lowerCode r.code))

end Roster.Text
