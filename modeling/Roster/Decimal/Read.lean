import Roster.Text.Basic
import Roster.Word

/-!
# Reading decimals as floating-point numbers

A decimal numeral denotes an exact rational number. The floating-point number it is read as is the
nearest one, an even significand winning a tie. All arithmetic is on natural numbers.
-/

namespace Roster.Decimal

/-- The exponent `e` with `2 ^ e ≤ num / den < 2 ^ (e + 1)`, for positive `num` and `den`. -/
def exponent2 (num den : Nat) : Int :=
  let e := (num.log2 : Int) - den.log2
  let reached := if e ≥ 0 then den * Nat.pow 2 e.toNat ≤ num else den ≤ num * Nat.pow 2 (-e).toNat
  if reached then e else e - 1

/-- The quotient of two numbers, rounded to nearest, ties to even. -/
def roundDiv (num den : Nat) : Nat :=
  let q := num / den
  let twice := 2 * (num % den)
  if twice < den then q
  else if twice > den then q + 1
  else if q % 2 == 0 then q else q + 1

/-- The bits of the floating-point number nearest to `num / den`, which is not negative. -/
def nearestBits (num den : Nat) : Nat :=
  if num == 0 then 0
  else
    let e := max (-1074) (exponent2 num den - 52)
    let q := if e ≥ 0 then roundDiv num (den * Nat.pow 2 e.toNat) else roundDiv (num * Nat.pow 2 (-e).toNat) den
    if q < Nat.pow 2 52 then q
    else
      let (q, e) := if q == Nat.pow 2 53 then (Nat.pow 2 52, e + 1) else (q, e)
      let biased := (e + 1075).toNat
      if biased ≥ 2047 then 2047 * Nat.pow 2 52 else biased * Nat.pow 2 52 + (q - Nat.pow 2 52)

/-- The bits of the floating-point number nearest to `m * 10 ^ e`. -/
def decimalBits (m : Nat) (e : Int) : Nat :=
  if m == 0 || e + (m.log2 : Int) < -1500 then 0
  else if e > 400 then 2047 * Nat.pow 2 52
  else if e ≥ 0 then nearestBits (m * Nat.pow 10 e.toNat) 1
  else nearestBits m (Nat.pow 10 (-e).toNat)

/-- A floating-point number without its sign: a quotient whose divisor is a power of two. -/
structure Binary where
  dividend : Nat
  divisor : Nat
deriving Repr, DecidableEq

namespace Binary

/-- A whole number times a power of two. -/
def scaled (significand : Nat) (exponent : Int) : Binary :=
  { dividend := significand * Nat.pow 2 exponent.toNat, divisor := Nat.pow 2 (-exponent).toNat }

/-- The number that the bits of a finite one stand for. -/
def ofBits (bits : Nat) : Binary :=
  let unit := Nat.pow 2 52
  if bits < unit then scaled bits (-1074) else scaled (bits % unit + unit) (bits / unit - 1075)

/-- The part before the point. -/
def whole (b : Binary) : Nat := b.dividend / b.divisor

/-- The bits of the floating-point number nearest to `factor` times the part after the point. -/
def restTimes (factor : Nat) (b : Binary) : Nat := nearestBits (b.dividend % b.divisor * factor) b.divisor

end Binary

/-- The bits of one. -/
def oneBits : Nat := 1023 * Nat.pow 2 52

/-- A numeral in parts: sign, digits before and after the point, exponent. -/
structure Numeral where
  negative : Bool
  whole : Text
  fraction : Text
  exponent : Int
deriving Repr, DecidableEq

/-- The bits of infinity. Bits without a sign below them stand for a finite number. -/
def infinityBits : Nat := 2047 * Nat.pow 2 52

/-- The bits of the nearest floating-point number without its sign; those of infinity when the numeral is
too large. -/
def Numeral.bits (n : Numeral) : Nat :=
  decimalBits ((Text.toNat? (n.whole ++ n.fraction)).getD 0) (n.exponent - n.fraction.length)

/-- Whether the nearest floating-point number is finite. -/
def Numeral.isFinite (n : Numeral) : Bool := n.bits < infinityBits

/-- The nearest floating-point number; infinite when the numeral is too large. -/
def Numeral.toFloat (n : Numeral) : Float :=
  Float.ofBits (n.bits + if n.negative then Word.half else 0).toUInt64

/-- Splits off an optional sign. -/
def takeSign : Text → Bool × Text
  | [] => (false, [])
  | b :: t =>
    if b == Text.byte '-' then (true, t) else if b == Text.byte '+' then (false, t) else (false, b :: t)

/-- Splits off the digits after a point, if a point stands there. -/
def takeFraction : Text → Text × Text
  | [] => ([], [])
  | b :: t =>
    if b == Text.byte '.' then (t.takeWhile Text.isDigit, t.dropWhile Text.isDigit) else ([], b :: t)

/-- The exponent written at the end of a numeral; empty text means zero, a malformed one `none`. -/
def readExponent : Text → Option Int
  | [] => some 0
  | e :: t =>
    if e == Text.byte 'e' || e == Text.byte 'E' then
      let (negative, digits) := takeSign t
      (Text.toNat? digits).map fun n => if negative then -(n : Int) else n
    else none

/-- Reads digits with an optional sign, point and exponent. -/
def numeral? (t : Text) : Option Numeral :=
  let (negative, t) := takeSign t
  let whole := t.takeWhile Text.isDigit
  let (fraction, rest) := takeFraction (t.dropWhile Text.isDigit)
  if whole.isEmpty && fraction.isEmpty then none
  else (readExponent rest).map fun exponent => { negative, whole, fraction, exponent }

end Roster.Decimal
