import Roster.Text.Rune
import Roster.Text.FoldTable

/-!
# Equality up to case

Two texts are equal up to case when they have the same characters after simple case folding. Stray
bytes count as replacement characters. A second, narrower equality, that of the table's email column,
knows the ASCII letters only.
-/

namespace Roster.Text

/-- The code point that stands for all case variants of a code point. -/
def foldCode (n : Nat) : Nat :=
  if n < 128 then if 65 ≤ n && n ≤ 90 then n + 32 else n
  else CaseRun.move foldRuns n

/-- The folded code points of a text. -/
def foldKey (t : Text) : List Nat := t.runes.map fun r => foldCode r.code

/-- Equality up to case, over all of Unicode. -/
def equalFold (s t : Text) : Bool := foldKey s == foldKey t

/-- The collation of the table's email column: ASCII case is ignored, bytes are compared up to the
first NUL of either text, and texts that agree so far are equal when their lengths are. -/
def equalNoCase : Text → Text → Bool
  | [], [] => true
  | a :: s, b :: t =>
    if lowerByte a != lowerByte b then false
    else if a == 0 then s.length == t.length
    else equalNoCase s t
  | _, _ => false

end Roster.Text
