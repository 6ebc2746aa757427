import Roster.Text.Space
import Roster.Time.Timestamp

/-!
# Moments in a table

A text in a date column is read as a moment if it has one of several forms: a date, a date and a time of
day, with or without an offset, or all of it written out with the name of a time zone.
-/

namespace Roster.Sql

/-- Digits of a date with dashes between them. -/
def dateOf? (t : Text) : Option (Calendar.Date × Text) := do
  let (year, t) ← Timestamp.fourDigits? t
  let t ← Text.strip? "-" t
  let (month, t) ← Timestamp.twoDigits? t
  let t ← Text.strip? "-" t
  let (day, t) ← Timestamp.twoDigits? t
  if 1 ≤ month && month ≤ 12 && 1 ≤ day && day ≤ Calendar.daysIn year month then
    some ({ year, month, day }, t)
  else none

/-- A time of day: hours and minutes, then perhaps seconds with a fraction. The answer is the second of
the day, the nanoseconds, and whether seconds were given. -/
def clockOf? (t : Text) : Option ((Nat × Nat × Bool) × Text) := do
  let (hour, t) ← Timestamp.upToTwoDigits? t
  let t ← Text.strip? ":" t
  let (minute, t) ← Timestamp.twoDigits? t
  if hour < 24 && minute < 60 then
    let base := hour * 3600 + minute * 60
    match Text.strip? ":" t with
    | none => some ((base, 0, false), t)
    | some rest => do
      let (second, rest) ← Timestamp.twoDigits? rest
      if second < 60 then
        let (n, rest) := Timestamp.takeFraction rest
        some ((base + second, n, true), rest)
      else none
  else none

/-- An offset of hours and minutes, with a colon between them or not. -/
def offsetOf? (colon : Bool) (t : Text) : Option (Int × Text) :=
  match t with
  | sign :: rest => do
    let (hour, rest) ← Timestamp.twoDigits? rest
    let rest ← if colon then Text.strip? ":" rest else some rest
    let (minute, rest) ← Timestamp.twoDigits? rest
    let seconds : Int := (hour * 60 + minute) * 60
    if hour > 24 || minute > 60 then none
    else if sign == Text.byte '+' then some (seconds, rest)
    else if sign == Text.byte '-' then some (-seconds, rest)
    else none
  | [] => none

/-- Whether a text is a sign and a number of hours of a day. -/
def isHourOffset : Text → Bool
  | sign :: digits =>
    (sign == Text.byte '+' || sign == Text.byte '-') && ((Text.toNat? digits).any fun n => n ≤ 23)
  | [] => false

/-- Whether a text can be the short name of a time zone: three capital letters, or more that end in T; a few
names are made otherwise. -/
def isZoneName (t : Text) : Bool :=
  if t == utf8 "ChST" || t == utf8 "MeST" || t == utf8 "WITA" then true
  else
    match Text.strip? "GMT" t with
    | some rest => rest.isEmpty || isHourOffset rest
    | none =>
      if t.all Text.isUpper then
        t.length == 3 || ((t.length == 4 || t.length == 5) && t.getLast? == some (Text.byte 'T'))
      else 3 ≤ t.length && isHourOffset t

/-- A moment written out with offset and zone, as in `2001-02-03 04:05:06 +0000 UTC`. -/
def verboseMoment? (t : Text) : Option Timestamp := do
  let (date, t) ← dateOf? t
  let t ← Text.strip? " " t
  let ((second, n, full), t) ← clockOf? (t.dropWhile (· == 32))
  let t ← Text.strip? " " t
  let (offset, t) ← offsetOf? false (t.dropWhile (· == 32))
  let t ← Text.strip? " " t
  let zone := t.dropWhile (· == 32)
  if !full then none
  else if zone == utf8 "UTC" then some (Timestamp.ofParts date second n 0)
  else if isZoneName zone then some (Timestamp.ofParts date second n offset)
  else none

/-- A date, perhaps with a time of day, perhaps with an offset. -/
def plainMoment? (t : Text) : Option Timestamp := do
  let (date, rest) ← dateOf? t
  match rest with
  | [] => some (Timestamp.ofParts date 0 0 0)
  | b :: rest =>
    let rest ←
      if b == Text.byte 'T' then some rest else if b == 32 then some (rest.dropWhile (· == 32)) else none
    let ((second, n, full), rest) ← clockOf? rest
    match rest with
    | [] => some (Timestamp.ofParts date second n 0)
    | rest =>
      let (offset, rest) ← offsetOf? true rest
      if full && rest.isEmpty then some (Timestamp.ofParts date second n offset) else none

/-- A text without a reading of a steady clock at its end, which starts with `m=`. -/
def withoutSteady (t : Text) : Text :=
  match Text.cutText? (utf8 "m=") t with
  | some (before, _) => if before.isEmpty then t else before
  | none => t

/-- The moment that a text in a date column means. -/
def momentOf? (t : Text) : Option Timestamp :=
  (verboseMoment? (Text.trimSpaces (withoutSteady t))).or
    (plainMoment? ((Text.stripEnd? (utf8 "Z") t).getD t))

end Roster.Sql
