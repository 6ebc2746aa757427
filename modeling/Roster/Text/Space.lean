import Roster.Text.Rune

/-!
# White space

The characters of Unicode that count as white space, and texts without those at their ends.
-/

namespace Roster

/-- Whether a rune is white space. -/
def Rune.isSpace (r : Rune) : Bool :=
  let n := r.code
  n == 32 || (9 ≤ n && n ≤ 13) || n == 0x85 || n == 0xA0 || n == 0x1680 || (0x2000 ≤ n && n ≤ 0x200A) ||
    n == 0x2028 || n == 0x2029 || n == 0x202F || n == 0x205F || n == 0x3000

/-- A text without white space at its ends. -/
def Text.trimSpaces (t : Text) : Text :=
  Text.ofRunes ((t.runes.dropWhile Rune.isSpace).reverse.dropWhile Rune.isSpace).reverse

end Roster
