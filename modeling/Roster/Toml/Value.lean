import Roster.Decimal.Read
import Roster.Settings.Value
import Roster.Text.Numeral
import Roster.Toml.Parse
import Roster.Word

/-!
# Values of a TOML text

The table that a TOML text stands for. A table may be opened by several headers as long as none is given
twice, and no key may be given twice.
-/

namespace Roster.Toml

open Settings (Value Entries)

/-! ## Numbers -/

/-- An integer without underscores, each of which has to stand between digits. -/
def withoutUnderscores (t : Text) : Except Text Text :=
  let body := (Numeral.takeSign t).2
  if body.head? == some (Text.byte '_') then .error "number cannot start with underscore"
  else if body.getLast? == some (Text.byte '_') then .error "number cannot end with underscore"
  else if Text.hasText t "__" then .error "number must have at least one digit between underscores"
  else .ok (t.filter (· != Text.byte '_'))

/-- An integer in a base that is marked at its front. -/
def inBase (base : Nat) (name : Text) (digits : Text) : Except Text Int := do
  let digits ← withoutUnderscores digits
  match Numeral.integerIn base digits with
  | .ok n => pure n
  | .error f =>
    .error (utf8 "couldn't parse " ++ name ++ utf8 " number: " ++ Numeral.refusal "ParseInt" digits f)

/-- The value of an integer. A mark for its base counts only if digits follow. -/
def integerValue (t : Text) : Except Text Int :=
  match t with
  | 48 :: 120 :: d :: digits => inBase 16 "hexadecimal" (d :: digits)
  | 48 :: 111 :: d :: digits => inBase 8 "octal" (d :: digits)
  | 48 :: 98 :: d :: digits => inBase 2 "binary" (d :: digits)
  | t => do
    let t ← withoutUnderscores t
    let body := (Numeral.takeSign t).2
    if body.length > 1 && body.head? == some 48 then .error "leading zero not allowed on decimal number"
    match Numeral.integer t with
    | .ok n => pure n
    | .error f => .error (utf8 "couldn't parse decimal number: " ++ Numeral.refusal "ParseInt" t f)

/-- Checks the underscores of a number with a point or an exponent from left to right; `before` is the last
byte, and `digit` tells whether there was a digit since the last underscore or sign. -/
def checkUnderscores (before : Option UInt8) (digit : Bool) : Text → Except Text Unit
  | [] => .ok ()
  | b :: t =>
    let next := fun (u : UInt8) => t.head? == some u
    let isExponent := fun (u : UInt8) => u == Text.byte 'e' || u == Text.byte 'E'
    if b == Text.byte '_' then
      if !digit then .error "number must have at least one digit between underscores"
      else if t.head?.any isExponent then .error "cannot have underscore before exponent"
      else checkUnderscores (some b) false t
    else if b == Text.byte '+' || b == Text.byte '-' then checkUnderscores (some b) false t
    else if isExponent b then
      if next (Text.byte '_') then .error "cannot have underscore after exponent"
      else checkUnderscores (some b) digit t
    else if b == Text.byte '.' then
      if next (Text.byte '_') then .error "cannot have underscore after decimal point"
      else if before == some (Text.byte '_') then .error "cannot have underscore before decimal point"
      else checkUnderscores (some b) digit t
    else checkUnderscores (some b) true t

/-- A number with a point or an exponent, without its underscores. -/
def floatDigits (t : Text) : Except Text Text := do
  if t.head? == some (Text.byte '_') then .error "number cannot start with underscore"
  if t.getLast? == some (Text.byte '_') then .error "number cannot end with underscore"
  if t.contains (Text.byte '_') then checkUnderscores none false t
  pure (t.filter (· != Text.byte '_'))

/-- Checks from left to right that a number has one point at most and that it stands between digits. -/
def checkPoints (seen : Bool) (before : Option UInt8) : Text → Except Text Unit
  | [] => .ok ()
  | b :: t =>
    if b == Text.byte '.' then
      if seen then .error "float can have at most one decimal point"
      else if !before.any Text.isDigit then .error "float decimal point must be preceded by a digit"
      else if !t.head?.any Text.isDigit then .error "float decimal point must be followed by a digit"
      else checkPoints true (some b) t
    else checkPoints seen (some b) t

/-- The value of a floating-point number. -/
def floatValue (t : Text) : Except Text Float := do
  if t == utf8 "+nan" || t == utf8 "-nan" || t == utf8 "nan" then return 0 / 0
  let t ← floatDigits t
  let (negative, body) := Numeral.takeSign t
  if body == utf8 "inf" then return (if negative then -1 / 0 else 1 / 0)
  if t.head? == some (Text.byte '.') then .error "float cannot start with a dot"
  if t.getLast? == some (Text.byte '.') then .error "float cannot end with a dot"
  checkPoints false none t
  if body.head? == some 48 && body.tail.head?.any Text.isDigit then
    .error "float integer part cannot have leading zeroes"
  let fail := fun f => utf8 "unable to parse float: " ++ Numeral.refusal "ParseFloat" t f
  match Decimal.numeral? t with
  | some n => if n.toFloat.isFinite then pure n.toFloat else .error (fail .range)
  | none => .error (fail .form)

/-! ## Dates -/

/-- A date of four, two and two digits. -/
def dayOf (t : Text) : Except Text Calendar.Date := do
  let bad := utf8 "dates are expected to have the format YYYY-MM-DD"
  if t.length != 10 || t[4]? != some (Text.byte '-') || t[7]? != some (Text.byte '-') then .error bad
  match Text.toNat? (t.take 4), Text.toNat? ((t.drop 5).take 2), Text.toNat? (t.drop 8) with
  | some year, some month, some day =>
    if 1 ≤ month && month ≤ 12 && 1 ≤ day && day ≤ Calendar.daysIn year month then pure { year, month, day }
    else .error "impossible date"
  | _, _, _ => .error "expected digit (0-9)"

/-- A time of day, with the digits of its fraction as they are written, nine at most. -/
structure Clock where
  hour : Nat
  minute : Nat
  second : Nat
  fraction : Text
deriving Repr

/-- The seconds since midnight. -/
def Clock.seconds (c : Clock) : Nat := c.hour * 3600 + c.minute * 60 + c.second

/-- The nanoseconds of the fraction. -/
def Clock.nanosecond (c : Clock) : Nat :=
  (c.fraction ++ List.replicate (9 - c.fraction.length) 48).foldl (fun n (b : UInt8) => n * 10 + (b.toNat - 48)) 0

/-- A time of day as text. -/
def Clock.render (c : Clock) : Text :=
  Text.padded 2 c.hour ++ utf8 ":" ++ Text.padded 2 c.minute ++ utf8 ":" ++ Text.padded 2 c.second
    ++ (if c.fraction.isEmpty then [] else utf8 "." ++ c.fraction)

/-- The number that two digits at a place denote. -/
def twoDigits (t : Text) (i : Nat) : Except Text Nat :=
  match Text.toNat? ((t.drop i).take 2) with
  | some n => .ok n
  | none => .error "expected digit (0-9)"

/-- The digits of a fraction, if a point starts one, and what follows them. -/
def fractionOf (t : Text) : Except Text (Text × Text) :=
  match t with
  | 46 :: rest =>
    let digits := rest.takeWhile Text.isDigit
    if rest.isEmpty then .error "nanoseconds need at least one digit"
    else if digits.isEmpty then .error "need at least one digit after fraction point"
    else .ok (digits.take 9, rest.drop digits.length)
  | t => .ok ([], t)

/-- A time of day, and what follows it. -/
def clockOf (t : Text) : Except Text (Clock × Text) := do
  if t.length < 8 then .error "times are expected to have the format HH:MM:SS[.NNNNNN]"
  let hour ← twoDigits t 0
  if hour > 23 then .error "hour cannot be greater 23"
  if t[2]? != some (Text.byte ':') then .error "expecting colon between hours and minutes"
  let minute ← twoDigits t 3
  if minute > 59 then .error "minutes cannot be greater 59"
  if t[5]? != some (Text.byte ':') then .error "expecting colon between minutes and seconds"
  let second ← twoDigits t 6
  if second > 60 then .error "seconds cannot be greater 60"
  let (fraction, rest) ← fractionOf (t.drop 8)
  pure ({ hour, minute, second, fraction }, rest)

/-- A date and a time of day, and what follows them. -/
def dayAndClockOf (t : Text) : Except Text ((Calendar.Date × Clock) × Text) := do
  if t.length < 11 then
    .error "local datetimes are expected to have the format YYYY-MM-DDTHH:MM:SS[.NNNNNNNNN]"
  let date ← dayOf (t.take 10)
  if !(t[10]?.any fun b => (utf8 "Tt ").contains b) then
    .error "datetime separator is expected to be T or a space"
  let (clock, rest) ← clockOf (t.drop 11)
  pure ((date, clock), rest)

/-- The distance from UTC, in seconds, that a text of six bytes names. -/
def zoneOf (t : Text) : Except Text Int := do
  let sign := t.head?
  if t.length != 6 then .error "invalid date-time timezone"
  if sign != some (Text.byte '-') && sign != some (Text.byte '+') then
    .error "invalid timezone offset character"
  if t[3]? != some (Text.byte ':') then .error "expected a : separator"
  let hours ← twoDigits t 1
  if hours > 23 then .error "invalid timezone offset hours"
  let minutes ← twoDigits t 4
  if minutes > 59 then .error "invalid timezone offset minutes"
  let distance : Int := hours * 3600 + minutes * 60
  pure (if sign == some (Text.byte '-') then -distance else distance)

/-- A date as text. -/
def renderDay (d : Calendar.Date) : Text :=
  Timestamp.renderYear d.year ++ utf8 "-" ++ Text.padded 2 d.month ++ utf8 "-" ++ Text.padded 2 d.day

/-- The value of a date or time. -/
def dateValue (kind : DateKind) (t : Text) : Except Text Value := do
  match kind with
  | .day => pure (.date "toml.LocalDate" (renderDay (← dayOf t)))
  | .time => do
    let (clock, rest) ← clockOf t
    if !rest.isEmpty then .error "extra characters at the end of a local time"
    pure (.date "toml.LocalTime" clock.render)
  | .localMoment => do
    let ((d, clock), rest) ← dayAndClockOf t
    if !rest.isEmpty then .error "extra characters at the end of a local date time"
    pure (.date "toml.LocalDateTime" (renderDay d ++ utf8 "T" ++ clock.render))
  | .moment => do
    let ((d, clock), rest) ← dayAndClockOf t
    let offset ←
      if rest.head?.any fun b => b == Text.byte 'Z' || b == Text.byte 'z' then
        if rest.length > 1 then .error "extra bytes at the end of the timezone" else pure 0
      else zoneOf rest
    pure (.time (Timestamp.ofParts d clock.seconds clock.nanosecond offset))

/-! ## Tables -/

/-- Puts a value at a path, opening tables on the way. -/
def putAt : List Text → Value → Entries → Entries
  | [], _, es => es
  | [k], v, es => Settings.Entries.put es k v
  | k :: path, v, es =>
    match es.lookup k with
    | some (.table inner) => Settings.Entries.put es k (.table (putAt path v inner))
    | some (.list items) =>
      match items.getLast? with
      | some (.table inner) =>
        Settings.Entries.put es k (.list (items.dropLast ++ [.table (putAt path v inner)]))
      | _ => Settings.Entries.put es k (.table (putAt path v []))
    | _ => Settings.Entries.put es k (.table (putAt path v []))

/-- Opens a table at a path. -/
def openAt : List Text → Entries → Entries
  | [], es => es
  | k :: path, es =>
    match es.lookup k with
    | some (.table inner) => Settings.Entries.put es k (.table (openAt path inner))
    | some (.list items) =>
      match items.getLast? with
      | some (.table inner) => Settings.Entries.put es k (.list (items.dropLast ++ [.table (openAt path inner)]))
      | _ => es
    | _ => Settings.Entries.put es k (.table (openAt path []))

/-- Appends an empty table to the list at a path. -/
def appendAt : List Text → Entries → Entries
  | [], es => es
  | [k], es =>
    match es.lookup k with
    | some (.list items) => Settings.Entries.put es k (.list (items ++ [.table []]))
    | _ => Settings.Entries.put es k (.list [.table []])
  | k :: path, es =>
    match es.lookup k with
    | some (.table inner) => Settings.Entries.put es k (.table (appendAt path inner))
    | some (.list items) =>
      match items.getLast? with
      | some (.table inner) => Settings.Entries.put es k (.list (items.dropLast ++ [.table (appendAt path inner)]))
      | _ => es
    | _ => Settings.Entries.put es k (.table (appendAt path []))

mutual

/-- The value of what is written. -/
def toValue : Raw → Except Text Value
  | .text t => .ok (.text t)
  | .bool b => .ok (.bool b)
  | .integer t => (integerValue t).map fun n => .int n "int64"
  | .float t => (floatValue t).map .float
  | .date kind t => dateValue kind t
  | .array items => (toValues items).map .list
  | .table entries => (toTable entries []).map .table

/-- The values of items. -/
def toValues : List Raw → Except Text (List Value)
  | [] => .ok []
  | r :: rest => do
    let v ← toValue r
    pure (v :: (← toValues rest))

/-- The entries of a table in braces. -/
def toTable : List (List Text × Raw) → Entries → Except Text Entries
  | [], es => .ok es
  | (k, r) :: rest, es => do
    let v ← toValue r
    toTable rest (putAt k v es)

end

/-! ## What has been given -/

/-- What stands at a path. -/
inductive Given where
  | value
  | table
  | arrayTable
deriving DecidableEq, Repr

/-- The name of what stands at a path. -/
def Given.name : Given → Text
  | .value => "value"
  | .table => "table"
  | .arrayTable => "array table"

/-- What has been given at a path. -/
structure Seen where
  path : List Text
  given : Given
  /-- Whether it may not be opened again. -/
  closed : Bool
  /-- Whether it came with an entry of the table that is open. -/
  byEntry : Bool
deriving Repr

/-- Everything that has been given. -/
abbrev Register := List Seen

/-- What has been given at a path. -/
def Register.find? (r : Register) (path : List Text) : Option Seen := List.find? (fun s => s.path == path) r

/-- Notes what is given at a path. -/
def Register.put (r : Register) (s : Seen) : Register := s :: r.filter fun e => e.path != s.path

/-- Closes what came with the entries below a path, when another table is opened. -/
def Register.close (r : Register) (path : List Text) : Register :=
  r.map fun e =>
    if e.byEntry && path.isPrefixOf e.path && path != e.path then { e with closed := true, byEntry := false }
    else e

/-- The message of a key that stands for no table. -/
def noTable (k : Text) (g : Given) : Text := utf8 "expected " ++ k ++ utf8 " to be a table, not a " ++ g.name

/-- Notes the tables on the way to a path. -/
def Register.parents (r : Register) : List Text → List Text → Except Text Register
  | _, [] | _, [_] => .ok r
  | above, k :: rest => do
    let path := above ++ [k]
    match Register.find? r path with
    | none => Register.parents (r.put ⟨path, .table, false, false⟩) path rest
    | some s => if s.given == .value then .error (noTable k s.given) else Register.parents r path rest

/-- Notes a header. -/
def Register.header (r : Register) (key : List Text) : Except Text Register := do
  let r ← r.parents [] key
  let k := key.getLastD []
  match Register.find? r key with
  | none => pure (r.put ⟨key, .table, true, false⟩)
  | some s =>
    if s.given != .table then
      .error (utf8 "key " ++ k ++ utf8 " should be a table, not a " ++ s.given.name)
    else if s.closed then .error (utf8 "table " ++ k ++ utf8 " already exists")
    else pure (r.put ⟨key, .table, true, false⟩)

/-- Notes a header of a list of tables; what was given below it belongs to the table before. -/
def Register.arrayHeader (r : Register) (key : List Text) : Except Text Register := do
  let r ← r.parents [] key
  let k := key.getLastD []
  match Register.find? r key with
  | none => pure (r.put ⟨key, .arrayTable, true, false⟩)
  | some s =>
    if s.given != .arrayTable then
      .error (utf8 "key " ++ s.given.name ++ utf8 " already exists as a " ++ k
        ++ utf8 ",  but should be an array table")
    else pure (r.filter fun e => !(key.isPrefixOf e.path && key != e.path))

/-- Notes an entry of a table. -/
def Register.entry (r : Register) : List Text → List Text → Except Text Register
  | _, [] => .ok r
  | above, k :: rest => do
    let path := above ++ [k]
    match Register.find? r path with
    | none =>
      if rest.isEmpty then pure (r.put ⟨path, .value, false, true⟩)
      else Register.entry (r.put ⟨path, .table, false, true⟩) path rest
    | some s =>
      if rest.isEmpty then .error (utf8 "key " ++ k ++ utf8 " is already defined")
      else if s.given != .table then .error (noTable k s.given)
      else if s.closed then
        .error (utf8 "cannot redefine table " ++ k ++ utf8 " that has already been explicitly defined")
      else Register.entry r path rest

mutual

/-- Refuses keys that are given twice in a table in braces, or in one inside an array. -/
def checkValue : Raw → Except Text Unit
  | .table entries => checkEntries [] entries
  | .array items => checkItems items
  | _ => .ok ()

/-- Refuses keys that are given twice among items. -/
def checkItems : List Raw → Except Text Unit
  | [] => .ok ()
  | r :: rest => do
    checkValue r
    checkItems rest

/-- Refuses keys that are given twice among entries. -/
def checkEntries (register : Register) : List (List Text × Raw) → Except Text Unit
  | [] => .ok ()
  | (k, r) :: rest => do
    let register ← register.entry [] k
    checkValue r
    checkEntries register rest

end

/-! ## The whole text -/

/-- The state of reading: the table so far, the header that entries belong to, and what has been given. -/
structure State where
  entries : Entries := []
  header : List Text := []
  register : Register := []

/-- Carries out an expression. -/
def State.apply (s : State) : Expression → Except Text State
  | .header k => do
    let register ← (s.register.close s.header).header k
    pure { entries := openAt k s.entries, header := k, register }
  | .arrayHeader k => do
    let register ← (s.register.close s.header).arrayHeader k
    pure { entries := appendAt k s.entries, header := k, register }
  | .entry k raw => do
    let register ← s.register.entry s.header k
    checkValue raw
    let v ← toValue raw
    pure { s with entries := putAt (s.header ++ k) v s.entries, register }

/-- Reads lines one after the other. -/
def readLines : Nat → State → Text → Except Text State
  | 0, s, _ => .ok s
  | fuel + 1, s, t => do
    let (e, rest) ← line t
    let s ←
      match e with
      | some e => s.apply e
      | none => pure s
    if rest.isEmpty then pure s else readLines fuel s (← newline rest)

/-- Reads the settings in a text; the error is its message. -/
def readSettings (t : Text) : Except Text Entries :=
  match readLines (t.length + 1) {} t with
  | .ok s => .ok s.entries
  | .error e => .error (utf8 "toml: " ++ e)

end Roster.Toml
