import Roster.Time.Calendar
import Roster.Time.Span

/-!
# Moments

A timestamp is a moment together with the offset from universal time it is shown in. Moments are
counted in nanoseconds from the start of year 1; that start itself is the zero timestamp and means
"not set".

Timestamps are written in one format, with or without a fraction of a second, and read back from it.
-/

namespace Roster

/-- A moment, in nanoseconds since the start of year 1 in universal time. -/
abbrev Instant := Int

/-- A moment and the offset, in seconds east of universal time, that it is shown in. -/
structure Timestamp where
  instant : Instant
  offset : Int := 0
deriving DecidableEq, Repr, Inhabited

namespace Timestamp

/-- The timestamp that means "not set". -/
def zero : Timestamp := { instant := 0 }

/-- Whether a timestamp is not set. -/
def isZero (t : Timestamp) : Bool := t.instant == 0

/-- The seconds between the start of year 1 and the start of 1970. -/
def unixEpoch : Int := 62135596800

/-- The moment a number of seconds after the start of 1970. -/
def ofUnix (seconds : Int) : Timestamp := { instant := (seconds + unixEpoch) * Span.second }

/-- Whole seconds since the start of 1970. -/
def unix (t : Timestamp) : Int := t.instant / Span.second - unixEpoch

/-- A timestamp moved by a span. -/
def add (t : Timestamp) (d : Span) : Timestamp := { t with instant := t.instant + d }

/-- The date a timestamp shows. -/
def date (t : Timestamp) : Calendar.Date :=
  Calendar.ofDays ((t.instant / Span.second + t.offset) / 86400)

/-- The second of the day a timestamp shows. -/
def secondOfDay (t : Timestamp) : Nat :=
  ((t.instant / Span.second + t.offset) % 86400).toNat

/-- The nanoseconds beyond the full second. -/
def nanosecond (t : Timestamp) : Nat := (t.instant % Span.second).toNat

/-- A year in at least four digits. -/
def renderYear : Int → Text
  | .ofNat n => Text.padded 4 n
  | .negSucc n => Text.byte '-' :: Text.padded 4 (n + 1)

/-- Date and time of day up to the full second, with the given byte between them. -/
def renderSeconds (separator : UInt8) (t : Timestamp) : Text :=
  let d := t.date
  let s := t.secondOfDay
  renderYear d.year ++ Text.byte '-' :: Text.padded 2 d.month ++ Text.byte '-' :: Text.padded 2 d.day
    ++ separator :: Text.padded 2 (s / 3600) ++ Text.byte ':' :: Text.padded 2 (s / 60 % 60)
    ++ Text.byte ':' :: Text.padded 2 (s % 60)

/-- The sign of the offset's whole minutes. -/
def offsetSign (t : Timestamp) : UInt8 := if t.offset ≤ -60 then Text.byte '-' else Text.byte '+'

/-- The offset as hours and minutes, `Z` for none. -/
def renderOffset (t : Timestamp) : Text :=
  if t.offset == 0 then "Z"
  else
    let minutes := t.offset.natAbs / 60
    t.offsetSign :: Text.padded 2 (minutes / 60) ++ Text.byte ':' :: Text.padded 2 (minutes % 60)

/-- Up to the full second: `2001-02-03T04:05:06Z`. -/
def render (t : Timestamp) : Text :=
  renderSeconds (Text.byte 'T') t ++ renderOffset t

/-- The fraction of the second with its point, without trailing zeros, empty when there is none. -/
def renderFraction (n : Nat) : Text :=
  if n == 0 then []
  else Text.byte '.' :: Text.dropEndWhile (· == 48) (Text.padded 9 n)

/-- With the fraction of the second: `2001-02-03T04:05:06.5Z`. -/
def renderFull (t : Timestamp) : Text :=
  renderSeconds (Text.byte 'T') t ++ renderFraction t.nanosecond ++ renderOffset t

/-- In full words, the offset twice: `2001-02-03 04:05:06 +0000 UTC`. -/
def renderWordy (t : Timestamp) : Text :=
  let minutes := t.offset.natAbs / 60
  let offset := t.offsetSign :: Text.padded 2 (minutes / 60) ++ Text.padded 2 (minutes % 60)
  renderSeconds 32 t ++ renderFraction t.nanosecond ++ 32 :: offset
    ++ 32 :: (if t.offset == 0 then utf8 "UTC" else offset)

/-- The parts of a written timestamp, by their place in the format. -/
inductive Field where
  | year | month | day | hour | minute | second | offset
deriving DecidableEq, Repr

/-- How messages name the place of a part. -/
def Field.pattern : Field → Text
  | .year => "2006"
  | .month => "01"
  | .day => "02"
  | .hour => "15"
  | .minute => "04"
  | .second => "05"
  | .offset => "Z07:00"

/-- Why a text is not a timestamp. -/
inductive ReadError where
  /-- A part is not of its form; `rest` starts where it should stand. -/
  | malformed (text rest pattern : Text)
  /-- A part is of its form but out of its range. -/
  | outOfRange (text : Text) (what : Text)
  /-- Something follows the timestamp. -/
  | extra (text rest : Text)
deriving DecidableEq, Repr

/-- The message of a refused text. -/
def ReadError.message : ReadError → Text
  | .malformed t rest pattern =>
    utf8 "parsing time " ++ Span.quotedAscii t ++ utf8 " as \"2006-01-02T15:04:05Z07:00\": cannot parse "
      ++ Span.quotedAscii rest ++ utf8 " as " ++ Span.quotedAscii pattern
  | .outOfRange t what =>
    utf8 "parsing time " ++ Span.quotedAscii t ++ utf8 ": " ++ what ++ utf8 " out of range"
  | .extra t rest =>
    utf8 "parsing time " ++ Span.quotedAscii t ++ utf8 ": extra text: " ++ Span.quotedAscii rest

/-- A number of exactly two digits. -/
def twoDigits? : Text → Option (Nat × Text)
  | a :: b :: t =>
    if Text.isDigit a && Text.isDigit b then some ((a.toNat - 48) * 10 + (b.toNat - 48), t) else none
  | _ => none

/-- A number of one or two digits. -/
def upToTwoDigits? : Text → Option (Nat × Text)
  | a :: b :: t =>
    if !Text.isDigit a then none
    else if Text.isDigit b then some ((a.toNat - 48) * 10 + (b.toNat - 48), t)
    else some (a.toNat - 48, b :: t)
  | [a] => if Text.isDigit a then some (a.toNat - 48, []) else none
  | [] => none

/-- A number of exactly four digits. -/
def fourDigits? : Text → Option (Nat × Text)
  | a :: b :: c :: d :: t => (Text.toNat? [a, b, c, d]).map fun n => (n, t)
  | _ => none

/-- The nanoseconds of digits after the point; digits beyond the ninth are dropped. -/
def nanoseconds (digits : Text) : Nat :=
  let kept := digits.take 9
  (Text.toNat? kept).getD 0 * Nat.pow 10 (9 - kept.length)

/-- A fraction of a second, after a point or a comma; zero when there is none. -/
def takeFraction : Text → Nat × Text
  | a :: b :: t =>
    if (a == Text.byte '.' || a == Text.byte ',') && Text.isDigit b then
      (nanoseconds ((b :: t).takeWhile Text.isDigit), (b :: t).dropWhile Text.isDigit)
    else (0, a :: b :: t)
  | t => (0, t)

/-- An offset such as `+02:00` in seconds. -/
def signedOffset (whole t : Text) : Except ReadError (Int × Text) :=
  let bad := ReadError.malformed whole t Field.offset.pattern
  match t with
  | sign :: a :: b :: colon :: c :: d :: rest =>
    if colon != Text.byte ':' then .error bad
    else
      match twoDigits? [a, b], twoDigits? [c, d] with
      | some (h, _), some (m, _) =>
        if h > 24 then .error (.outOfRange whole "time zone offset hour")
        else if m > 60 then .error (.outOfRange whole "time zone offset minute")
        else if sign == Text.byte '+' then .ok ((h * 60 + m) * 60, rest)
        else if sign == Text.byte '-' then .ok (-((h * 60 + m) * 60), rest)
        else .error bad
      | _, _ => .error bad
  | _ => .error bad

/-- Takes one byte that has to stand there. -/
def expect (whole : Text) (c : Char) : Text → Except ReadError Text
  | b :: t => if b == Text.byte c then .ok t else .error (.malformed whole (b :: t) [Text.byte c])
  | [] => .error (.malformed whole [] [Text.byte c])

/-- Takes a number that has to stand there. -/
def number (whole : Text) (field : Field) (read : Text → Option (Nat × Text)) (t : Text) :
    Except ReadError (Nat × Text) :=
  match read t with
  | some r => .ok r
  | none => .error (.malformed whole t field.pattern)

/-- Refuses a number outside its range. -/
def within (whole : Text) (what : Text) (ok : Bool) : Except ReadError Unit :=
  if ok then .ok () else .error (.outOfRange whole what)

/-- Builds a timestamp from what it shows. -/
def ofParts (date : Calendar.Date) (second : Nat) (nanosecond : Nat) (offset : Int) : Timestamp :=
  { instant := (date.toDays * 86400 + second - offset) * Span.second + nanosecond
    offset }

/-- Reads a timestamp such as `2001-02-03T04:05:06.5Z` or `2001-02-03T04:05:06+02:00`. -/
def parse (t : Text) : Except ReadError Timestamp := do
  let (year, r) ← number t .year fourDigits? t
  let r ← expect t '-' r
  let (month, r) ← number t .month twoDigits? r
  within t "month" (1 ≤ month && month ≤ 12)
  let r ← expect t '-' r
  let (day, r) ← number t .day twoDigits? r
  let r ← expect t 'T' r
  let (hour, r) ← number t .hour upToTwoDigits? r
  within t "hour" (hour < 24)
  let r ← expect t ':' r
  let (minute, r) ← number t .minute twoDigits? r
  within t "minute" (minute < 60)
  let r ← expect t ':' r
  let (second, r) ← number t .second twoDigits? r
  within t "second" (second < 60)
  let (fraction, r) := takeFraction r
  let (offset, r) ←
    match r with
    | z :: rest => if z == Text.byte 'Z' then pure (0, rest) else signedOffset t r
    | [] => signedOffset t r
  if !r.isEmpty then .error (.extra t r)
  within t "day" (1 ≤ day && day ≤ Calendar.daysIn year month)
  pure (ofParts { year, month, day } (hour * 3600 + minute * 60 + second) fraction offset)

end Timestamp

end Roster
