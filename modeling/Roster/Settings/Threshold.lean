import Roster.Log
import Roster.Text.Numeral
import Roster.Word

/-!
# Log thresholds

The level from which on entries are logged: the name of a level, perhaps with an offset.
-/

namespace Roster.Log

/-- A letter in upper case, as far as it is an ASCII letter then. -/
def upperRune : Rune → Text
  | .char c =>
    if c.toNat == 0x131 then "I" else if c.toNat == 0x17F then "S"
    else (String.utf8EncodeChar c).map Text.upperByte
  | .bad b => [b]

/-- The level with a name, whatever its case. -/
def Level.named? (t : Text) : Option Level :=
  [Level.debug, .info, .warn, .error].find? fun l => l.name == t.runes.flatMap upperRune

/-- Reads a threshold; the error says why the text is none. -/
def threshold (t : Text) : Except Text Int :=
  let name := t.takeWhile fun b => b != Text.byte '+' && b != Text.byte '-'
  let rest := t.drop name.length
  let offset := if rest.isEmpty then .ok 0 else Numeral.integer rest
  match offset with
  | .error f => .error (Numeral.refusal "Atoi" rest f)
  | .ok n =>
    match Level.named? name with
    | some l => .ok ((l.value + n).bmod Word.count)
    | none => .error "unknown name"

/-- The name of a level with the distance from it. -/
def nameWithOffset (l : Level) (n : Int) : Text :=
  if n == l.value then l.name
  else l.name ++ (if n > l.value then utf8 "+" else []) ++ Text.decimalInt (n - l.value)

/-- The text of a threshold: the highest named level that it reaches, and the distance. -/
def thresholdName (n : Int) : Text :=
  if n < Level.info.value then nameWithOffset .debug n
  else if n < Level.warn.value then nameWithOffset .info n
  else if n < Level.error.value then nameWithOffset .warn n
  else nameWithOffset .error n

end Roster.Log
