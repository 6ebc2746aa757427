import Roster.Json.Decode
import Roster.Settings.Load
import Roster.Settings.Dotenv
import Roster.Toml.Value
import Roster.Yaml.Value

/-!
# Files of settings

A file's format follows from the end of its name. Whatever the format, a file holds a table of settings.
-/

namespace Roster.Settings

/-- The formats of files. -/
inductive Format where
  | yaml
  | json
  | toml
  | dotenv
  /-- A format that is known by name only. -/
  | unread
deriving DecidableEq, Repr

/-- The formats by the end of a file's name. -/
def formats : List (Text × Format) :=
  [("json", .json), ("toml", .toml), ("yaml", .yaml), ("yml", .yaml), ("properties", .unread),
   ("props", .unread), ("prop", .unread), ("hcl", .unread), ("tfvars", .unread), ("dotenv", .dotenv),
   ("env", .dotenv), ("ini", .unread)]

/-- What follows the last point of a file's name, if it is in the last part of the path. -/
def extension (path : Text) : Text :=
  let name := ((Text.split (Text.byte '/') path).getLast?).getD []
  ((Text.cutLast? (Text.byte '.') name).map Prod.snd).getD []

mutual

/-- A JSON value as a value of settings. -/
def ofJson : Json → Except Json.DecodeError Value
  | .null => .ok .null
  | .bool b => .ok (.bool b)
  | .number literal =>
    match Json.finite? literal with
    | some x => .ok (.float x)
    | none => Json.outOfRange literal "float64"
  | .string t => .ok (.text t)
  | .array items => (ofJsonItems 0 items).map .list
  | .object members => (ofJsonMembers members).map .table

/-- The items of a JSON array from place `i` on. -/
def ofJsonItems (i : Nat) : List Json → Except Json.DecodeError (List Value)
  | [] => .ok []
  | v :: rest => do
    let v ← (ofJson v).mapError (Json.DecodeError.inside (Text.decimal i))
    pure (v :: (← ofJsonItems (i + 1) rest))

/-- The members of a JSON object, the last of each key. -/
def ofJsonMembers : List (Text × Json) → Except Json.DecodeError Entries
  | [] => .ok []
  | (key, v) :: rest => do
    let v ← (ofJson v).mapError (Json.DecodeError.inside key)
    let others ← ofJsonMembers rest
    pure (if (others.lookup key).isSome then others else (key, v) :: others)

end

/-- Reads settings in JSON. -/
def readJson (t : Text) : Except Text Entries :=
  match Json.parse t with
  | .error e => .error e.message
  | .ok (.object members) => (ofJsonMembers members).mapError Json.DecodeError.message
  | .ok .null => .ok []
  | .ok v => .error (Json.DecodeError.mismatch v.kindName [] [] Yaml.topType).message

/-- Reads settings in a format; a file of variables may refer to those of the environment. -/
def readFormat (environment : List (Text × Text)) : Format → Text → Except Text Entries
  | .yaml, t => Yaml.readSettings t
  | .json, t => readJson t
  | .toml, t => Toml.readSettings t
  | .dotenv, t => Dotenv.readSettings environment t
  | .unread, _ => .error "decoder not found for this format"

/-- The entries of a file with a name; `content` is absent if there is no such file. -/
def fileEntries (environment : List (Text × Text)) (path : Text) (content : Option Text) :
    Except Fault Entries :=
  let fail := fun (f : Fault) => Except.error (Fault.during "read config file" f)
  match formats.lookup (extension path), content with
  | none, _ => fail (.reported (utf8 "Unsupported Config Type " ++ Text.quoted (extension path)))
  | some _, none => fail (.during (utf8 "open " ++ path) (.reported "no such file or directory"))
  | some format, some t =>
    match readFormat environment format t with
    | .ok entries =>
      match lowerKeys (.table entries) with
      | .table entries => .ok entries
      | _ => .ok []
    | .error e => fail (.during "While parsing config" (.reported e))

end Roster.Settings
