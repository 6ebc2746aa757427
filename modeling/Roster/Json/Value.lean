import Roster.Text.Rune

/-!
# JSON values and their text

A JSON value keeps the literal of a number and the order of an object's members. Texts are written so
that they can stand inside HTML: the angle brackets, the ampersand and the two line separators of
Unicode are escaped. A stray byte is written as the replacement character.
-/

namespace Roster

/-- A JSON value. -/
inductive Json where
  | null
  | bool (b : Bool)
  | number (literal : Text)
  | string (t : Text)
  | array (items : List Json)
  | object (members : List (Text × Json))
deriving Repr, Inhabited

namespace Json

/-- A natural number. -/
def nat (n : Nat) : Json := .number (Text.decimal n)

/-- An integer. -/
def int (n : Int) : Json := .number (Text.decimalInt n)

/-- A character as it stands in a JSON text. -/
def escapeChar (c : Char) : Text :=
  if c == '"' then "\\\""
  else if c == '\\' then "\\\\"
  else if c == '\n' then "\\n"
  else if c == '\r' then "\\r"
  else if c == '\t' then "\\t"
  else if c.toNat == 8 then "\\b"
  else if c.toNat == 12 then "\\f"
  else if c.toNat < 32 || c == '<' || c == '>' || c == '&' || c.toNat == 0x2028 || c.toNat == 0x2029
  then utf8 "\\u" ++ Text.hex 4 c.toNat
  else String.utf8EncodeChar c

/-- A text between quotes. -/
def renderText (t : Text) : Text :=
  Text.byte '"' :: (t.runes.flatMap fun r => escapeChar r.toChar) ++ [Text.byte '"']

mutual

/-- The text of a value, without blanks. -/
def render : Json → Text
  | .null => "null"
  | .bool true => "true"
  | .bool false => "false"
  | .number literal => literal
  | .string t => renderText t
  | .array items => Text.byte '[' :: renderItems items ++ [Text.byte ']']
  | .object members => Text.byte '\x7b' :: renderMembers members ++ [Text.byte '\x7d']

/-- The items of an array with commas between them. -/
def renderItems : List Json → Text
  | [] => []
  | [v] => render v
  | v :: rest => render v ++ Text.byte ',' :: renderItems rest

/-- The members of an object with commas between them. -/
def renderMembers : List (Text × Json) → Text
  | [] => []
  | [(key, v)] => renderText key ++ Text.byte ':' :: render v
  | (key, v) :: rest => renderText key ++ Text.byte ':' :: render v ++ Text.byte ',' :: renderMembers rest

end

/-- What kind of value this is, as messages name it. -/
def kindName : Json → Text
  | .null => "null"
  | .bool _ => "bool"
  | .number _ => "number"
  | .string _ => "string"
  | .array _ => "array"
  | .object _ => "object"

/-- The last member with exactly the given key. -/
def member? (key : Text) : Json → Option Json
  | .object members => (members.reverse.find? fun m => m.1 == key).map Prod.snd
  | _ => none

end Json

end Roster
