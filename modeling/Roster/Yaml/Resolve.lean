import Roster.Decimal.Read
import Roster.Settings.Value
import Roster.Text.Base64
import Roster.Text.Numeral
import Roster.Word
import Roster.Yaml.Cursor

/-!
# What scalars mean

A plain scalar may be a truth value, a number, a moment or nothing at all, by its form; any other scalar is
a text. A tag can demand one of these, and a tag that is not known leaves the text as it is.
-/

namespace Roster.Yaml

open Settings (Value)

/-- A scalar's value and the tag that its form suggests. -/
structure Resolved where
  tag : Text
  value : Value

/-- Forms with a fixed meaning. -/
def constant? (t : Text) : Option Resolved :=
  let oneOf := fun (forms : List String) => forms.any fun f => utf8 f == t
  if oneOf ["true", "True", "TRUE"] then some ⟨"!!bool", .bool true⟩
  else if oneOf ["false", "False", "FALSE"] then some ⟨"!!bool", .bool false⟩
  else if oneOf ["", "~", "null", "Null", "NULL"] then some ⟨"!!null", .null⟩
  else if oneOf [".nan", ".NaN", ".NAN"] then some ⟨"!!float", .float (0 / 0)⟩
  else if oneOf [".inf", ".Inf", ".INF", "+.inf", "+.Inf", "+.INF"] then some ⟨"!!float", .float (1 / 0)⟩
  else if oneOf ["-.inf", "-.Inf", "-.INF"] then some ⟨"!!float", .float (-1 / 0)⟩
  else none

/-! ## Moments -/

/-- A date of four, one or two, and one or two digits. -/
def dateOf? (t : Text) : Option (Calendar.Date × Text) := do
  let (year, t) ← Timestamp.fourDigits? t
  let t ← Text.strip? "-" t
  let (month, t) ← Timestamp.upToTwoDigits? t
  let t ← Text.strip? "-" t
  let (day, t) ← Timestamp.upToTwoDigits? t
  if 1 ≤ month && month ≤ 12 && 1 ≤ day && day ≤ Calendar.daysIn year month then
    some ({ year, month, day }, t)
  else none

/-- A time of day, as second of the day and nanoseconds. -/
def clockOf? (t : Text) : Option ((Nat × Nat) × Text) := do
  let (hour, t) ← Timestamp.upToTwoDigits? t
  let t ← Text.strip? ":" t
  let (minute, t) ← Timestamp.upToTwoDigits? t
  let t ← Text.strip? ":" t
  let (second, t) ← Timestamp.upToTwoDigits? t
  let (n, t) := Timestamp.takeFraction t
  if hour < 24 && minute < 60 && second < 60 then some ((hour * 3600 + minute * 60 + second, n), t) else none

/-- An offset, `Z` for none. -/
def offsetOf? (t : Text) : Option (Int × Text) :=
  match Text.strip? "Z" t with
  | some rest => some (0, rest)
  | none => (Timestamp.signedOffset t t).toOption

/-- A moment: a date, a date and a time of day, or these with an offset. -/
def momentOf? (t : Text) : Option Timestamp := do
  let (date, rest) ← dateOf? t
  match rest with
  | [] => some (Timestamp.ofParts date 0 0 0)
  | b :: rest =>
    if b == 32 then do
      let ((second, n), rest) ← clockOf? (rest.dropWhile (· == 32))
      if rest.isEmpty then some (Timestamp.ofParts date second n 0) else none
    else if b == Text.byte 'T' || b == Text.byte 't' then do
      let ((second, n), rest) ← clockOf? rest
      let (offset, rest) ← offsetOf? rest
      if rest.isEmpty then some (Timestamp.ofParts date second n offset) else none
    else none

/-! ## Numbers -/

/-- A finite floating-point number. -/
def floatOf? (t : Text) : Option Resolved := do
  let n ← Decimal.numeral? t
  if n.toFloat.isFinite then some ⟨"!!float", .float n.toFloat⟩ else none

/-- A finite floating-point number that starts with a point; underscores may stand between its digits. -/
def fractionOf? (t : Text) : Option Resolved :=
  if Numeral.underscoresFit t then floatOf? (t.filter (· != Text.byte '_')) else none

/-- An integer of 64 bits, signed if it can be. -/
def integerOf? (signed : Except Numeral.Flaw Int) (unsigned : Except Numeral.Flaw Nat) : Option Resolved :=
  match signed, unsigned with
  | .ok n, _ => some ⟨"!!int", .int n "int"⟩
  | _, .ok n => some ⟨"!!int", .int n "uint64"⟩
  | _, _ => none

/-- An integer after the mark of its base. A sign may stand before the mark or after it. -/
def markedOf? (mark : Char) (base : Nat) (t : Text) : Option Resolved :=
  let zero := [Text.byte '0', Text.byte mark]
  match Text.strip? zero t with
  | some digits => integerOf? (Numeral.integerIn base digits) (Numeral.naturalIn base digits)
  | none =>
    match Text.strip? (Text.byte '-' :: zero) t with
    | some digits => integerOf? (Numeral.integerIn base (Text.byte '-' :: digits)) (.error .form)
    | none => none

/-- What a form means that starts with a digit or a sign. -/
def numberOf? (moments : Bool) (t : Text) : Option Resolved :=
  let moment := if moments then (momentOf? t).map fun ts => Resolved.mk "!!timestamp" (.time ts) else none
  let digits := t.filter (· != Text.byte '_')
  moment.or <| (integerOf? (Numeral.integerAnyBase digits) (Numeral.naturalAnyBase digits)).or <|
    (floatOf? digits).or <| (markedOf? 'b' 2 digits).or (markedOf? 'o' 8 digits)

/-! ## Tags -/

/-- What a plain form means. -/
def resolvePlain (moments : Bool) (t : Text) : Resolved :=
  let found :=
    match t with
    | [] => constant? t
    | b :: _ =>
      (constant? t).or <|
        if b == Text.byte '.' then fractionOf? t
        else if Text.isDigit b || b == Text.byte '+' || b == Text.byte '-' then numberOf? moments t
        else none
  found.getD ⟨"!!str", .text t⟩

/-- Tags that demand a form. -/
def formTags : List Text := ["!!bool", "!!int", "!!float", "!!null", "!!timestamp"]

/-- The error of a scalar that is not what its tag demands. -/
def notAs (found t tag : Text) : ReadError :=
  { problem := utf8 "cannot decode " ++ found ++ utf8 " " ++ Text.backquote :: t ++ Text.backquote :: utf8 " as a "
      ++ tag }

/-- What a scalar with a tag means; the tag is empty if none was given. -/
def resolve (tag t : Text) : Except ReadError Resolved :=
  if tag.isEmpty then .ok (resolvePlain true t)
  else if !formTags.contains tag then .ok ⟨tag, .text t⟩
  else
    let r := resolvePlain (tag == utf8 "!!timestamp") t
    if tag == r.tag then .ok r
    else
      match r.value with
      | .int n type =>
        if tag == utf8 "!!float" && type == utf8 "int" then .ok ⟨tag, .float (Settings.floatOf n)⟩
        else .error (notAs r.tag t tag)
      | _ => .error (notAs r.tag t tag)

/-- The value of a scalar. -/
def scalarValue (tag t : Text) : Except ReadError Value := do
  if tag == utf8 "!!binary" then
    match Text.ofPaddedBase64 .standard t with
    | some data => pure (.text data)
    | none => throw { problem := "!!binary value contains invalid base64 data" }
  else return (← resolve tag t).value

end Roster.Yaml
