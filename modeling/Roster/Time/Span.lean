import Roster.Text.Rune
import Roster.Word

/-!
# Lengths of time

A span is a whole number of nanoseconds. It is written with the units `h`, `m`, `s`, or one of the
smaller units when it is shorter than a second, and read from any sequence of numbers with units.
-/

namespace Roster

/-- A length of time in nanoseconds. -/
abbrev Span := Int

namespace Span

def microsecond : Span := 1000

def millisecond : Span := 1000000

def second : Span := 1000000000

def minute : Span := 60 * second

def hour : Span := 60 * minute

/-- The longest span that can be read or held. -/
def maximum : Nat := Word.half - 1

/-- A natural number of `10 ^ places`ths, without trailing zeros and without a bare point. -/
def fraction (places n : Nat) : Text :=
  let whole := Text.decimal (n / Nat.pow 10 places)
  let rest := Text.dropEndWhile (· == 48) (Text.padded places (n % Nat.pow 10 places))
  if n % Nat.pow 10 places == 0 then whole else whole ++ Text.byte '.' :: rest

/-- The text of a span that is not negative. -/
def renderMagnitude (n : Nat) : Text :=
  if n == 0 then "0s"
  else if n < 1000 then Text.decimal n ++ utf8 "ns"
  else if n < 1000000 then fraction 3 n ++ utf8 "µs"
  else if n < 1000000000 then fraction 6 n ++ utf8 "ms"
  else
    let seconds := n / 1000000000
    let minutes := seconds / 60
    let tail := fraction 9 (n % 60000000000) ++ utf8 "s"
    if minutes == 0 then tail
    else if minutes < 60 then Text.decimal minutes ++ utf8 "m" ++ tail
    else Text.decimal (minutes / 60) ++ utf8 "h" ++ Text.decimal (minutes % 60) ++ utf8 "m" ++ tail

/-- The text of a span. -/
def render : Span → Text
  | .ofNat n => renderMagnitude n
  | .negSucc n => Text.byte '-' :: renderMagnitude (n + 1)

/-- Why a text is not a span. -/
inductive ReadError where
  | invalid (text : Text)
  | unitMissing (text : Text)
  | unitUnknown (unit text : Text)
deriving DecidableEq, Repr

/-- A text as messages about spans show it: bytes outside printable ASCII appear by their codes. -/
def quotedAscii (t : Text) : Text :=
  Text.byte '"' :: (t.flatMap fun b =>
    if b < 32 || 128 ≤ b then utf8 "\\x" ++ Text.hex 2 b.toNat
    else if b == Text.byte '"' || b == Text.byte '\\' then [Text.byte '\\', b]
    else [b]) ++ [Text.byte '"']

/-- The message of a refused text. -/
def ReadError.message : ReadError → Text
  | .invalid t => utf8 "time: invalid duration " ++ quotedAscii t
  | .unitMissing t => utf8 "time: missing unit in duration " ++ quotedAscii t
  | .unitUnknown u t =>
    utf8 "time: unknown unit " ++ quotedAscii u ++ utf8 " in duration " ++ quotedAscii t

/-- The length of a unit. -/
def unit? (t : Text) : Option Nat :=
  if t == utf8 "ns" then some 1
  else if t == utf8 "us" || t == utf8 "µs" || t == utf8 "μs" then some 1000
  else if t == utf8 "ms" then some 1000000
  else if t == utf8 "s" then some 1000000000
  else if t == utf8 "m" then some 60000000000
  else if t == utf8 "h" then some 3600000000000
  else none

/-- Whether a byte can stand in a number of a span. -/
def isNumeral (b : UInt8) : Bool := Text.isDigit b || b == Text.byte '.'

/-- The digits after the point as a number and the power of ten they are counted in. Digits beyond
the range of a span are dropped. -/
def fractionDigits : Text → Nat → Float → Nat × Float
  | [], n, scale => (n, scale)
  | b :: t, n, scale =>
    let next := n * 10 + (b.toNat - 48)
    if n > maximum / 10 || next > Word.half then (n, scale)
    else fractionDigits t next (scale * 10)

/-- Reads numbers with units one after the other; `fuel` bounds how many there can be. -/
def readParts (whole : Text) : Nat → Text → Nat → Except ReadError Nat
  | 0, _, total => .ok total
  | _, [], total => .ok total
  | fuel + 1, b :: t, total =>
    let s := b :: t
    if !isNumeral b then .error (.invalid whole)
    else
      let digits := s.takeWhile Text.isDigit
      let value := (Text.toNat? digits).getD 0
      if value > Word.half then .error (.invalid whole)
      else
        let rest := s.dropWhile Text.isDigit
        let (after, rest) :=
          match rest with
          | p :: r =>
            if p == Text.byte '.' then (r.takeWhile Text.isDigit, r.dropWhile Text.isDigit)
            else ([], rest)
          | [] => ([], [])
        if digits.isEmpty && after.isEmpty then .error (.invalid whole)
        else
          let name := rest.takeWhile fun b => !isNumeral b
          if name.isEmpty then .error (.unitMissing whole)
          else
            match unit? name with
            | none => .error (.unitUnknown name whole)
            | some unit =>
              if value > Word.half / unit then .error (.invalid whole)
              else
                let (n, scale) := fractionDigits after 0 1
                let extra :=
                  if n == 0 then 0
                  else (n.toUInt64.toFloat * (unit.toUInt64.toFloat / scale)).toUInt64.toNat
                let part := value * unit + extra
                if part > Word.half || total + part > Word.half then .error (.invalid whole)
                else readParts whole fuel (rest.dropWhile fun b => !isNumeral b) (total + part)

/-- Reads a span: an optional sign, then `0` or numbers with units. -/
def parse (t : Text) : Except ReadError Span :=
  let (negative, body) :=
    match t with
    | b :: r =>
      if b == Text.byte '-' then (true, r)
      else if b == Text.byte '+' then (false, r)
      else (false, t)
    | [] => (false, [])
  if body == utf8 "0" then .ok 0
  else if body.isEmpty then .error (.invalid t)
  else
    match readParts t body.length body 0 with
    | .error e => .error e
    | .ok n =>
      if negative then .ok (-(n : Int))
      else if n > maximum then .error (.invalid t)
      else .ok n

end Span

end Roster
