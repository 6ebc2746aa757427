import Roster.Text.Basic
import Roster.Word

/-!
# The shortest decimal of a floating-point number

Of all decimals that read back as a given floating-point number, the one with the fewest digits, and
of those the nearest. The number is taken apart into `m * 2 ^ q`; the decimals that read back form an
interval, closed exactly when `m` is even. For one digit, two digits, and so on, the number's two
neighbours on the decimal grid are tested until one lies in the interval.
-/

namespace Roster.Decimal

/-- A positive decimal `0.d₁d₂… * 10 ^ point`, without leading or trailing zeros. -/
structure Digits where
  digits : Text
  point : Int
deriving Repr, DecidableEq

/-- A floating-point number by its shortest decimal. -/
inductive Shown where
  | finite (negative : Bool) (digits : Digits)
  | zero (negative : Bool)
  | infinite (negative : Bool)
  | nan
deriving Repr, DecidableEq

/-- The digits of a positive number `d * 10 ^ k`. -/
def digitsOf (d : Nat) (k : Int) : Digits :=
  let t := Text.decimal d
  { digits := Text.dropEndWhile (· == 48) t, point := t.length + k }

/-- Looks for a decimal with few digits between `low` and `high`, which with the value `v` count
units of `1 / den`. `top` is the number of digits before the point of the value; `n` digits are
tried next, and `fuel` bounds how many more. -/
def search (low v high den : Nat) (closed : Bool) (top : Int) : Nat → Nat → Digits
  | 0, n => digitsOf v (top - n)
  | fuel + 1, n =>
    let k := top - n
    let scale := Nat.pow 10 k.natAbs
    let unit := if k ≥ 0 then den * scale else den
    let stretch := if k ≥ 0 then 1 else scale
    let inside := fun d =>
      let x := d * unit
      if closed then low * stretch ≤ x && x ≤ high * stretch
      else low * stretch < x && x < high * stretch
    let below := v * stretch / unit
    let above := below + 1
    let toBelow := v * stretch - below * unit
    let toAbove := above * unit - v * stretch
    if inside below && inside above then
      digitsOf (if toBelow < toAbove || (toBelow == toAbove && below % 2 == 0) then below else above) k
    else if inside below then digitsOf below k
    else if inside above then digitsOf above k
    else search low v high den closed top fuel (n + 1)

/-- The number of digits before the point of `v / den`, negative for leading zeros after it. -/
def magnitude (v den : Nat) : Int :=
  ((Text.decimal (v * Nat.pow 10 340 / den)).length : Int) - 340

/-- The shortest decimal of `m * 2 ^ q`, for positive `m`. `narrow` says that the next smaller
number lies half as far away as the next larger one. -/
def shortestOf (m : Nat) (q : Int) (narrow : Bool) : Digits :=
  let scale := Nat.pow 2 (q - 2).natAbs
  let up := if q - 2 ≥ 0 then scale else 1
  let den := if q - 2 ≥ 0 then 1 else scale
  let v := 4 * m * up
  let low := (if narrow then 4 * m - 1 else 4 * m - 2) * up
  let high := (4 * m + 2) * up
  search low v high den (m % 2 == 0) (magnitude v den) 17 1

/-- The shortest decimal of a floating-point number given by its bits. -/
def shortestBits (bits : Nat) : Shown :=
  let negative := bits ≥ Word.half
  let e : Nat := bits / Nat.pow 2 52 % 2048
  let f := bits % Nat.pow 2 52
  if e == 2047 then if f == 0 then .infinite negative else .nan
  else if e == 0 then
    if f == 0 then .zero negative else .finite negative (shortestOf f (-1074) false)
  else .finite negative (shortestOf (Nat.pow 2 52 + f) ((e : Int) - 1075) (f == 0 && e > 1))

/-- The shortest decimal of a floating-point number. -/
def shortest (x : Float) : Shown := shortestBits x.toBits.toNat

/-- Digits with the point in its place, zeros filled in. -/
def Digits.positional (d : Digits) : Text :=
  if d.point ≤ 0 then utf8 "0." ++ List.replicate (-d.point).toNat 48 ++ d.digits
  else
    let n := d.point.toNat
    if d.digits.length ≤ n then d.digits ++ List.replicate (n - d.digits.length) 48
    else d.digits.take n ++ Text.byte '.' :: d.digits.drop n

/-- One digit before the point and an exponent of at least `width` digits. -/
def Digits.scientific (width : Nat) (d : Digits) : Text :=
  let e := d.point - 1
  let lead :=
    match d.digits with
    | [] => []
    | [a] => [a]
    | a :: rest => a :: Text.byte '.' :: rest
  lead ++ Text.byte 'e' :: (if e < 0 then Text.byte '-' else Text.byte '+') :: Text.padded width e.natAbs

/-- How floating-point numbers are written: when the exponent is shown, and its least width. -/
structure Style where
  scientific : Int → Bool
  width : Nat

/-- Exponents below -4 and from 6 on are shown, in two digits at least. -/
def Style.compact : Style := { scientific := fun point => point - 1 < -4 || point - 1 ≥ 6, width := 2 }

/-- Numbers in JSON: an exponent below -6 and from 21 on. -/
def Style.json : Style := { scientific := fun point => point - 1 < -6 || point - 1 ≥ 21, width := 1 }

/-- No exponent at all. -/
def Style.plain : Style := { scientific := fun _ => false, width := 1 }

/-- Writes a floating-point number. -/
def write (style : Style) (x : Float) : Text :=
  let sign := fun (negative : Bool) => if negative then [Text.byte '-'] else []
  match shortest x with
  | .nan => "NaN"
  | .infinite negative => (if negative then utf8 "-Inf" else utf8 "+Inf")
  | .zero negative => sign negative ++ utf8 "0"
  | .finite negative d =>
    sign negative ++ if style.scientific d.point then d.scientific style.width else d.positional

end Roster.Decimal
