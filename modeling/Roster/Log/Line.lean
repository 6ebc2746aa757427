import Roster.Log
import Roster.Text.Quoted
import Roster.Time.Timestamp

/-!
# Lines of a log

A log entry is written on one line, either as pairs `key=value` for people or as a JSON object for
programs. Both start with the moment of the entry where there is one. Spans are readable in the first
form and numbers of nanoseconds in the second.
-/

namespace Roster.Log

/-- Whether a rune makes it necessary to quote the text that holds it. -/
def forcesQuotes : Rune → Bool
  | .bad _ => true
  | .char c => c == ' ' || c == '=' || c == '"' || c == Rune.replacement
      || (c.toNat != 127 && !Text.isPrintable c)

/-- A text as it stands in a line of pairs: quoted if that is needed to tell where it ends. -/
def pairText (t : Text) : Text :=
  if t.isEmpty || t.runes.any forcesQuotes then Text.quoted t else t

/-- A value as it stands in a line of pairs. -/
def Value.pairForm : Value → Text
  | .number n => Text.decimalInt n
  | .span d => Span.render d
  | v => pairText v.render

/-- A rune between the quotes of a JSON text. -/
def escapeRune : Rune → Text
  | .bad _ => "\\ufffd"
  | .char c =>
    if c == '"' then "\\\""
    else if c == '\\' then "\\\\"
    else if c == '\n' then "\\n"
    else if c == '\r' then "\\r"
    else if c == '\t' then "\\t"
    else if c.toNat < 32 || c.toNat == 0x2028 || c.toNat == 0x2029 then utf8 "\\u" ++ Text.hex 4 c.toNat
    else String.utf8EncodeChar c

/-- A text in a JSON line. -/
def jsonText (t : Text) : Text :=
  Text.byte '"' :: t.runes.flatMap escapeRune ++ [Text.byte '"']

/-- A value in a JSON line. -/
def Value.jsonForm : Value → Text
  | .number n => Text.decimalInt n
  | .span d => Text.decimalInt d
  | v => jsonText v.render

/-- A moment to the millisecond. -/
def renderMillis (t : Timestamp) : Text :=
  Timestamp.renderSeconds (Text.byte 'T') t ++ utf8 "." ++ Text.padded 3 (t.nanosecond / 1000000)
    ++ t.renderOffset

/-- An entry as a line of pairs. -/
def Entry.pairLine (moment : Option Timestamp) (e : Entry) : Text :=
  let pair := fun (key value : Text) => pairText key ++ utf8 "=" ++ value
  let time := (moment.map fun t => pair "time" (renderMillis t)).toList
  let head := [pair "level" e.level.name, pair "msg" (pairText e.message)]
  let fields := e.fields.map fun (key, v) => pair key v.pairForm
  Text.join (utf8 " ") (time ++ head ++ fields) ++ utf8 "\n"

/-- An entry as a line with a JSON object. -/
def Entry.jsonLine (moment : Option Timestamp) (e : Entry) : Text :=
  let member := fun (key value : Text) => jsonText key ++ utf8 ":" ++ value
  let time := (moment.map fun t => member "time" (jsonText t.renderFull)).toList
  let head := [member "level" (jsonText e.level.name), member "msg" (jsonText e.message)]
  let fields := e.fields.map fun (key, v) => member key v.jsonForm
  Text.byte '\x7b' :: Text.join (utf8 ",") (time ++ head ++ fields) ++ utf8 "\x7d\n"

end Roster.Log
