import Roster.Settings.Value
import Roster.Text.Numeral
import Roster.Text.Quoted
import Roster.Time.Span

/-!
# Flags of a command line

A flag is given as `--name value` or `--name=value`; one that switches something on or off may stand
alone. A flag may have a letter, and several letters may share one dash. Words that are no flags are
kept in their order, and after `--` everything is a word. Of a flag that is given twice the last value
counts.
-/

namespace Roster

/-- What a flag takes. -/
inductive Flag.Kind where
  | text
  | switch
  | span
deriving DecidableEq, Repr

/-- A flag. -/
structure Flag where
  name : Text
  letter : Option UInt8 := none
  kind : Flag.Kind := .text
  /-- What it is for. -/
  usage : Text
  /-- The text of the value it has when it is not given. -/
  default : Text := []
  /-- The setting it overrides. -/
  setting : Option Text := none
deriving Repr

namespace Flag

/-- The flag that asks for help on a command. -/
def help (command : Text) : Flag :=
  { name := "help", letter := some (Text.byte 'h'), kind := .switch, usage := utf8 "help for " ++ command }

/-- The name of a flag in messages. -/
def shown (f : Flag) : Text :=
  match f.letter with
  | some b => utf8 "-" ++ [b] ++ utf8 ", --" ++ f.name
  | none => utf8 "--" ++ f.name

/-- The value that a text stands for. -/
def read (f : Flag) (t : Text) : Except Text Settings.Value :=
  match f.kind with
  | .text => .ok (.text t)
  | .switch =>
    match Numeral.truth? t with
    | some b => .ok (.bool b)
    | none => .error (Numeral.refusal "ParseBool" t .form)
  | .span =>
    match Span.parse t with
    | .ok d => .ok (.text (Span.render d))
    | .error e => .error e.message

end Flag

/-- The flags and words of a command line. -/
structure Flags where
  /-- Values by the names of their flags, the latest first. -/
  values : List (Text × Settings.Value) := []
  words : List Text := []

namespace Flags

/-- Whether a switch is on. -/
def isOn (fs : Flags) (name : Text) : Bool :=
  match fs.values.lookup name with
  | some (.bool b) => b
  | _ => false

/-- The text given for a flag, or nothing. -/
def textOf (fs : Flags) (name : Text) : Text :=
  match fs.values.lookup name with
  | some (.text t) => t
  | _ => []

/-- Notes the value of a flag. -/
def set (fs : Flags) (f : Flag) (t : Text) : Except Text Flags :=
  match f.read t with
  | .ok v => .ok { fs with values := (f.name, v) :: fs.values }
  | .error e =>
    .error (utf8 "invalid argument " ++ Text.quoted t ++ utf8 " for " ++ Text.quoted f.shown
      ++ utf8 " flag: " ++ e)

/-- The settings that the given flags override. -/
def settings (known : List Flag) (fs : Flags) : Settings.Entries :=
  known.filterMap fun f => do
    let key ← f.setting
    let v ← fs.values.lookup f.name
    pure (key, v)

/-- Splits `name=value`. -/
def splitValue (t : Text) : Text × Option Text :=
  match Text.cut? (Text.byte '=') t with
  | some (name, value) => (name, some value)
  | none => (t, none)

/-- Takes a flag by its name; the rest are the arguments after it. -/
def takeNamed (known : List Flag) (fs : Flags) (argument : Text) (rest : List Text) :
    Except Text (Flags × List Text) := do
  let body := argument.drop 2
  if body.head? == some (Text.byte '-') || body.head? == some (Text.byte '=') then
    .error (utf8 "bad flag syntax: " ++ argument)
  let (name, value) := splitValue body
  match known.find? fun f => f.name == name with
  | none => .error (utf8 "unknown flag: --" ++ name)
  | some f =>
    match value, f.kind, rest with
    | some v, _, rest => return (← fs.set f v, rest)
    | none, .switch, rest => return (← fs.set f "true", rest)
    | none, _, v :: rest => return (← fs.set f v, rest)
    | none, _, [] => .error (utf8 "flag needs an argument: " ++ argument)

/-- Takes the flags of several letters; the rest are the arguments after them. -/
def takeLetters (known : List Flag) (fs : Flags) (letters : Text) (rest : List Text) :
    Except Text (Flags × List Text) :=
  match letters with
  | [] => .ok (fs, rest)
  | b :: more =>
    if Text.startsWith letters "test." then .ok (fs, rest)
    else
      let shown := Text.quotedChar (Char.ofNat b.toNat)
      match known.find? fun f => f.letter == some b with
      | none => .error (utf8 "unknown shorthand flag: " ++ shown ++ utf8 " in -" ++ letters)
      | some f =>
        let finish := fun (value : Text) (rest : List Text) => (fs.set f value).map fun fs => (fs, rest)
        if more.head? == some (Text.byte '=') && more.length > 1 then finish (more.drop 1) rest
        else if f.kind == .switch then do
          takeLetters known (← fs.set f "true") more rest
        else if !more.isEmpty then finish more rest
        else
          match rest with
          | v :: rest => finish v rest
          | [] => .error (utf8 "flag needs an argument: " ++ shown ++ utf8 " in -" ++ letters)

/-- Takes all arguments. -/
def takeAll (known : List Flag) : Nat → Flags → List Text → Except Text Flags
  | 0, fs, _ => .ok fs
  | _, fs, [] => .ok fs
  | fuel + 1, fs, argument :: rest =>
    if argument.length < 2 || argument.head? != some (Text.byte '-') then
      takeAll known fuel { fs with words := fs.words ++ [argument] } rest
    else if argument == utf8 "--" then .ok { fs with words := fs.words ++ rest }
    else do
      let (fs, rest) ←
        if Text.startsWith argument "--" then takeNamed known fs argument rest
        else takeLetters known fs (argument.drop 1) rest
      takeAll known fuel fs rest

/-- Reads arguments; the error is its message. -/
def parse (known : List Flag) (arguments : List Text) : Except Text Flags :=
  takeAll known arguments.length {} arguments

end Flags

/-! ## Overviews -/

namespace Flag

/-- What stands before the usage of a flag in an overview. -/
def lead (f : Flag) : Text :=
  let kind :=
    match f.kind with
    | .text => utf8 " string"
    | .switch => []
    | .span => utf8 " duration"
  (if f.letter.isSome then utf8 "  " else utf8 "      ") ++ f.shown ++ kind

/-- The default of a flag in an overview, unless it goes without saying. -/
def shownDefault (f : Flag) : Text :=
  if f.default.isEmpty then []
  else
    let value := if f.kind == .text then Text.quoted f.default else f.default
    utf8 " (default " ++ value ++ utf8 ")"

/-- An overview of flags by name, one to a line, their usages in one column. -/
def overview (flags : List Flag) : Text :=
  let flags := flags.mergeSort fun a b => Text.le a.name b.name
  let width := flags.foldl (fun n f => max n f.lead.length) 0
  Text.join (utf8 "\n") (flags.map fun f =>
    f.lead ++ List.replicate (width - f.lead.length + 3) (Text.byte ' ') ++ f.usage ++ f.shownDefault)

end Flag

end Roster
