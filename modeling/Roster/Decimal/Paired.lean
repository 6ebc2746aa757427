import Roster.Decimal.Read

/-!
# Decimals in pairs of floating-point numbers

A quicker way to read a decimal than to look for the nearest floating-point number: its digits, as far as
they fit into 64 bits, are multiplied by powers of ten in arithmetic on pairs, where a second number holds
what the first one lacks. The last place of the answer can differ from that of the nearest number.
-/

namespace Roster.Decimal

/-- A number as the sum of a leading part and a small correction. -/
structure Paired where
  lead : Float
  correction : Float
deriving Repr

/-- The upper half of the bits of a significand. -/
def upperHalf (x : Float) : Float := Float.ofBits (x.toBits &&& 0xfffffffffc000000)

/-- A pair times the sum of a factor and its correction. -/
def Paired.times (p : Paired) (factor correction : Float) : Paired :=
  let upper := upperHalf p.lead
  let lower := p.lead - upper
  let factorUpper := upperHalf factor
  let factorLower := factor - factorUpper
  let product := upper * factorUpper
  let cross := upper * factorLower + lower * factorUpper
  let sum := product + cross
  let missing := product - sum + cross + lower * factorLower
  let missing := p.lead * correction + p.correction * factor + missing
  let lead := sum + missing
  { lead, correction := (sum - lead) + missing }

/-- A pair multiplied a number of times. -/
def Paired.timesRepeated (p : Paired) (factor correction : Float) (n : Nat) : Paired :=
  n.fold (fun _ _ p => p.times factor correction) p

/-- The pair of a number of 64 bits. -/
def Paired.ofNat (n : Nat) : Paired :=
  let lead := n.toUInt64.toFloat
  if lead ≤ 18446744073709549568.0 then
    let m := lead.toUInt64.toNat
    { lead, correction := if m ≤ n then (n - m).toUInt64.toFloat else -(m - n).toUInt64.toFloat }
  else { lead, correction := 0 }

/-- A pair times a power of ten, hundreds of the exponent first, then tens, then ones. -/
def Paired.scale (p : Paired) (e : Int) : Paired :=
  let n := e.natAbs
  if e ≥ 0 then
    ((p.timesRepeated 1e100 (-1.5902891109759918046e83) (n / 100)).timesRepeated 1e10 0 (n % 100 / 10)).timesRepeated
      1e1 0 (n % 10)
  else
    ((p.timesRepeated 1e-100 (-1.99918998026028836196e-117) (n / 100)).timesRepeated 1e-10
      (-3.6432197315497741579e-27) (n % 100 / 10)).timesRepeated 1e-1 (-5.5511151231257827021e-18) (n % 10)

/-- The one number nearest to a pair; a pair that has lost its value counts as too large. -/
def Paired.toFloat (p : Paired) : Float :=
  let x := p.lead + p.correction
  if x.isNaN then 1 / 0 else x

/-- Digits are added to a significand below this. -/
def significandLimit : Nat := (Word.count - 10) / 10

/-- The digits of a numeral as far as they are kept, and the power of ten to multiply them by. -/
def Numeral.significand (n : Numeral) : Nat × Int :=
  let whole := n.whole.foldl (fun (s, d) (b : UInt8) =>
    if s < significandLimit then (s * 10 + (b.toNat - 48), d) else (s, d + 1)) (0, (0 : Int))
  n.fraction.foldl (fun (s, d) (b : UInt8) =>
    if s < significandLimit then (s * 10 + (b.toNat - 48), d - 1) else (s, d)) whole

/-- Exponents of more than five digits count as ten thousand. -/
def cappedExponent (e : Int) : Int :=
  if e ≥ 100000 then 10000 else if e ≤ -100000 then -10000 else e

/-- Moves zeros from a positive exponent into the significand as long as it fits into 64 bits. -/
def lowerExponent : Nat → Nat → Nat × Nat
  | s, 0 => (s, 0)
  | s, e + 1 => if s < (Word.count - 2048) / 10 then lowerExponent (s * 10) e else (s, e + 1)

/-- Moves zeros at the end of a significand into a negative exponent. -/
def raiseExponent : Nat → Nat → Nat × Nat
  | s, 0 => (s, 0)
  | s, e + 1 => if s % 10 == 0 then raiseExponent (s / 10) e else (s, e + 1)

/-- The value of a numeral, by multiplication in pairs. -/
def Numeral.toFloatPaired (n : Numeral) : Float :=
  let (s, d) := n.significand
  let e := cappedExponent n.exponent + d
  let x :=
    if s == 0 then 0
    else if e ≥ 0 then
      let (s, e) := lowerExponent s e.toNat
      ((Paired.ofNat s).scale e).toFloat
    else
      let (s, e) := raiseExponent s (-e).toNat
      ((Paired.ofNat s).scale (-(e : Int))).toFloat
  if n.negative then -x else x

end Roster.Decimal
