import Roster.Text.Basic

/-!
# Base 64

Three bytes become four digits of six bits. Two alphabets are in use for tokens and for data, and a
third for password hashes. Text can be filled up with `=`. Readers skip line ends and ignore the spare
bits of the last digit.
-/

namespace Roster.Text

/-- The digits of a base-64 alphabet, in order of value. -/
structure Alphabet where
  digits : Array UInt8

namespace Alphabet

/-- The letters, the digits and two more bytes. -/
def common (x y : Char) : Array UInt8 :=
  (utf8 "ABCDEFGHIJKLMNOPQRSTUVWXYZabcdefghijklmnopqrstuvwxyz0123456789" ++ [byte x, byte y]).toArray

/-- The standard alphabet. -/
def standard : Alphabet := ⟨common '+' '/'⟩

/-- The alphabet for file names and addresses. -/
def url : Alphabet := ⟨common '-' '_'⟩

/-- The digit with a value. -/
def digit (a : Alphabet) (n : Nat) : UInt8 := a.digits.getD n 0

/-- The value of a digit. -/
def value? (a : Alphabet) (b : UInt8) : Option Nat := a.digits.findIdx? (· == b)

end Alphabet

/-- The digits of a text without padding. -/
def toBase64 (a : Alphabet) : Text → Text
  | x :: y :: z :: t =>
    let n := x.toNat * 65536 + y.toNat * 256 + z.toNat
    a.digit (n / 262144) :: a.digit (n / 4096 % 64) :: a.digit (n / 64 % 64) :: a.digit (n % 64)
      :: toBase64 a t
  | [x, y] =>
    let n := x.toNat * 1024 + y.toNat * 4
    [a.digit (n / 4096), a.digit (n / 64 % 64), a.digit (n % 64)]
  | [x] => [a.digit (x.toNat * 16 / 64), a.digit (x.toNat * 16 % 64)]
  | [] => []

/-- The bytes of six-bit values; spare bits are dropped, a single value left over is refused. -/
def ofSixes : List Nat → Option Text
  | w :: x :: y :: z :: t =>
    let n := w * 262144 + x * 4096 + y * 64 + z
    (ofSixes t).map fun rest =>
      (n / 65536).toUInt8 :: (n / 256 % 256).toUInt8 :: (n % 256).toUInt8 :: rest
  | [w, x, y] =>
    let n := w * 4096 + x * 64 + y
    some [(n / 1024).toUInt8, (n / 4 % 256).toUInt8]
  | [w, x] => some [((w * 64 + x) / 16).toUInt8]
  | [_] => none
  | [] => some []

/-- The bytes that unpadded digits stand for. -/
def ofBase64 (a : Alphabet) (t : Text) : Option Text :=
  ((t.filter fun b => b != 10 && b != 13).mapM a.value?).bind ofSixes

/-- The digits of a text, filled up to a multiple of four. -/
def toPaddedBase64 (a : Alphabet) (t : Text) : Text :=
  let d := toBase64 a t
  d ++ List.replicate ((4 - d.length % 4) % 4) (byte '=')

/-- The bytes that digits stand for which are filled up to a multiple of four. -/
def ofPaddedBase64 (a : Alphabet) (t : Text) : Option Text :=
  let d := t.filter fun b => b != 10 && b != 13
  let digits := dropEndWhile (· == byte '=') d
  if d.length % 4 == 0 && d.length ≤ digits.length + 2 then ofBase64 a digits else none

end Roster.Text
