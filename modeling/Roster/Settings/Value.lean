import Roster.Decimal.Shortest
import Roster.Text.Lower
import Roster.Text.Quoted
import Roster.Time.Timestamp

/-!
# Values of settings

What a file, a variable or a flag can say about a setting, before it is known what type the setting has.
Names of settings do not depend on case; tables keep theirs in lower case.
-/

namespace Roster.Settings

/-- A value as a source of settings gives it. -/
inductive Value where
  | null
  | bool (b : Bool)
  /-- An integer, and what messages call its type. -/
  | int (n : Int) (type : Text)
  | float (x : Float)
  | text (t : Text)
  | time (t : Timestamp)
  /-- A date or a time of day that is no moment, with its type and its text. -/
  | date (type shown : Text)
  | list (items : List Value)
  | table (entries : List (Text × Value))
  /-- A table whose keys are not all texts. -/
  | mixed (entries : List (Value × Value))
deriving Repr, Inhabited

/-- Entries of a table. -/
abbrev Entries := List (Text × Value)

namespace Value

/-- What messages call the type of a value. -/
def typeName : Value → Text
  | .null => "<nil>"
  | .bool _ => "bool"
  | .int _ type => type
  | .float _ => "float64"
  | .text _ => "string"
  | .time _ => "time.Time"
  | .date type _ => type
  | .list _ => "[]interface \x7b\x7d"
  | .table _ => "map[string]interface \x7b\x7d"
  | .mixed _ => "map[interface \x7b\x7d]interface \x7b\x7d"

/-- What messages call the kind of a value where a table is expected. -/
def kindName : Value → Text
  | .list _ => "slice"
  | v => v.typeName

/-- The text of a table in messages, by its keys. -/
def renderTable (entries : List (Text × Text)) : Text :=
  utf8 "map[" ++ Text.join (utf8 " ") ((entries.mergeSort fun a b => Text.le a.1 b.1).map
    fun (key, shown) => key ++ Text.byte ':' :: shown) ++ [Text.byte ']']

mutual

/-- The text of a value in messages. -/
def render : Value → Text
  | .null => "<nil>"
  | .bool b => if b then "true" else "false"
  | .int n _ => Text.decimalInt n
  | .float x => Decimal.write .compact x
  | .text t => t
  | .time t => t.renderWordy
  | .date _ shown => shown
  | .list items => Text.byte '[' :: Text.join (utf8 " ") (renderAll items) ++ [Text.byte ']']
  | .table entries => renderTable (renderEntries entries)
  | .mixed entries => renderTable (renderPairs entries)

/-- The texts of values. -/
def renderAll : List Value → List Text
  | [] => []
  | v :: rest => render v :: renderAll rest

/-- The texts of the values of a table. -/
def renderEntries : List (Text × Value) → List (Text × Text)
  | [] => []
  | (key, v) :: rest => (key, render v) :: renderEntries rest

/-- The texts of the keys and values of a table whose keys are not all texts. -/
def renderPairs : List (Value × Value) → List (Text × Text)
  | [] => []
  | (key, v) :: rest => (render key, render v) :: renderPairs rest

end

/-- A key of a table as a text: numbers without an exponent, nothing for null. -/
def keyText : Value → Text
  | .null => []
  | .float x => Decimal.write .plain x
  | v => v.render

end Value

/-- Puts an entry into a table in place of any with its key. -/
def Entries.put (es : Entries) (key : Text) (v : Value) : Entries :=
  es.filter (fun e => e.1 != key) ++ [(key, v)]

/-- Entries under keys in lower case. A key that had capital letters wins over one that had none. -/
def Entries.merge (es : List (Text × Text × Value)) : Entries :=
  let plain := es.filter fun (key, lower, _) => key == lower
  let capital := es.filter fun (key, lower, _) => key != lower
  (plain ++ capital).foldl (fun table (_, lower, v) => Entries.put table lower v) []

mutual

/-- A table with its keys, and those of tables directly inside it, as texts in lower case. Lists inside it
are left as they are. -/
def textKeys : Value → Value
  | .mixed entries => .table (Entries.merge (textPairs entries))
  | .table entries => .table (Entries.merge (textEntries entries))
  | v => v

/-- Entries with their own keys, the keys in lower case, and values with keys in lower case. -/
def textEntries : List (Text × Value) → List (Text × Text × Value)
  | [] => []
  | (key, v) :: rest => (key, Text.lowered key, textKeys v) :: textEntries rest

/-- The same for keys that are not all texts. -/
def textPairs : List (Value × Value) → List (Text × Text × Value)
  | [] => []
  | (key, v) :: rest => (key.keyText, Text.lowered key.keyText, textKeys v) :: textPairs rest

end

mutual

/-- A value with all keys in lower case. A table whose keys are not all texts gets texts for them, and
inside it no list is touched. -/
def lowerKeys : Value → Value
  | .table entries => .table (Entries.merge (lowerAll entries))
  | .list items => .list (lowerItems items)
  | .mixed entries => textKeys (.mixed entries)
  | v => v

/-- Entries with their own keys, the keys in lower case, and values with keys in lower case. -/
def lowerAll : List (Text × Value) → List (Text × Text × Value)
  | [] => []
  | (key, v) :: rest => (key, Text.lowered key, lowerKeys v) :: lowerAll rest

/-- Values with keys in lower case. -/
def lowerItems : List Value → List Value
  | [] => []
  | v :: rest => lowerKeys v :: lowerItems rest

end

/-- An integer as a floating-point number. -/
def floatOf (n : Int) : Float := if n < 0 then -(n.natAbs.toFloat) else n.natAbs.toFloat

/-- Joins the names of a path with points. -/
def joinPath (path : List Text) : Text := Text.join (utf8 ".") path

/-- Looks up a path in entries. A key may itself hold several names of the path, with points between
them; the longest such key is tried first. `fuel` bounds the depth. -/
def search : Nat → Entries → List Text → Option Value
  | 0, _, _ => none
  | fuel + 1, entries, path =>
    (List.range path.length).reverse.findSome? fun i =>
      match entries.lookup (joinPath (path.take (i + 1))), path.drop (i + 1) with
      | some .null, [] => none
      | some v, [] => some v
      | some (.table inner), rest => search fuel inner rest
      | _, _ => none

end Roster.Settings
