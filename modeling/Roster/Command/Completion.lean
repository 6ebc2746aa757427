import Roster.Command.Basic
import Roster.Command.Stage

/-!
# Completing a command line

A shell can ask how the last word of a command line may go on. It puts a word of its own in front of the
line, and gets proposals back: commands and flags that begin with what has been typed, each with what it
is for. A number at the end tells the shell whether file names may be proposed besides.
-/

namespace Roster.Command

/-- The words by which a shell asks, with descriptions and without. -/
def completionWords : List Text := ["__complete", "__completeNoDesc"]

/-- The word by which a shell asks and the line that it asks about, if it does. -/
def completionLine? (arguments : List Text) : Option (Text × List Text) := do
  let word ← (wordsOf globalFlags arguments).head?
  if completionWords.contains word then some (word, dropWord globalFlags word arguments) else none

/-- The variable that can turn descriptions off. -/
def descriptionsVariable : Text := "ROLECALL_COMPLETION_DESCRIPTIONS"

namespace Completion

/-- What a shell can propose. -/
structure Proposals where
  /-- Words and what they are for. -/
  items : List (Text × Text) := []
  /-- Whether file names may be proposed besides. -/
  files : Bool := true
  /-- Why the line makes no sense. -/
  complaint : Option Text := none
deriving Repr, DecidableEq

/-! ## Values of flags -/

/-- What is being typed. -/
structure Request where
  /-- The arguments before it. -/
  before : List Text
  typed : Text
  /-- The flag whose value it is. -/
  flag : Option Flag := none
  /-- The name of the flag whose value it is, if the command has no such flag. -/
  unknown : Option Text := none

/-- The name of the last flag in an argument without value: the whole name, or the last letter. -/
def lastName (argument : Text) : Text :=
  if Text.startsWith argument "--" then argument.drop 2 else argument.drop (argument.length - 1)

/-- Whether an argument holds flags. -/
def holdsFlags (argument : Text) : Bool :=
  if Text.startsWith argument "--" then argument.length ≥ 3
  else Text.startsWith argument "-" && argument.length ≥ 2

/-- The flag of a command with a name, or with a letter if the name is as short as that. -/
def flag? (c : Command) (name : Text) : Option Flag :=
  match name with
  | [letter] => c.flags.find? fun f => f.letter == some letter
  | _ => c.flags.find? fun f => f.name == name

/-- Tells what is being typed. It is the value of a flag if a name and a `=` stand before it in the same
argument, or if the argument before it is a flag that takes a value. -/
def request (c : Command) (before : List Text) (typed : Text) : Request :=
  let isFlag := Text.startsWith typed "-"
  let given := if isFlag then Text.cut? (Text.byte '=') typed else none
  if isFlag && given.isNone then { before, typed }
  else
    let (name, value) :=
      match given with
      | some (head, value) => (lastName head, value)
      | none => ([], typed)
    let (name, kept) :=
      match before.getLast? with
      | some previous =>
        if name.isEmpty && holdsFlags previous && !previous.contains (Text.byte '=') then
          (lastName previous, before.dropLast)
        else (name, before)
      | none => (name, before)
    if name.isEmpty then { before := kept, typed := value }
    else
      match flag? c name with
      | none => { before, typed, unknown := some name }
      | some f =>
        if given.isNone && f.kind == .switch then { before, typed := value }
        else { before := kept, typed := value, flag := some f }

/-! ## Proposals -/

/-- The commands that begin with what has been typed. -/
def commands (typed : Text) : List (Text × Text) :=
  (all.filter fun c => Text.startsWith c.name typed).map fun c => (c.name, c.summary)

/-- The forms of a flag that begin with what has been typed. -/
def forms (typed : Text) (f : Flag) : List (Text × Text) :=
  let written := (utf8 "--" ++ f.name) :: (f.letter.map fun b => [Text.byte '-', b]).toList
  (written.filter fun w => Text.startsWith w typed).map fun w => (w, f.usage)

/-- The flags that have not been given yet and begin with what has been typed: those of the program first,
then the command's own, each group by name. -/
def flagForms (c : Command) (fs : Flags) (typed : Text) : List (Text × Text) :=
  let byName := fun (flags : List Flag) => flags.mergeSort fun a b => Text.le a.name b.name
  let shared := if c == .program then [] else globalFlags
  let unset := fun (f : Flag) => (fs.values.lookup f.name).isNone
  ((byName shared ++ byName (Flag.help c.name :: c.localFlags)).filter unset).flatMap (forms typed)

/-- The proposals for words of a command; `isValue` says that the value of a flag is typed in their place. -/
def words (c : Command) (given : List Text) (typed : Text) (isValue : Bool) : Proposals :=
  match c with
  | .program => if given.isEmpty && !isValue then { items := commands typed, files := false } else {}
  | .help =>
    match find given with
    | .ok (.program, _) => { items := commands typed, files := false }
    | _ => { files := false }
  | .demo | .serve => {}

/-- Arguments in a message. -/
def listed (arguments : List Text) : Text := utf8 "[" ++ Text.join (utf8 " ") arguments ++ utf8 "]"

/-- The proposals for what is being typed after a command. After `--` nothing is a flag any more. -/
def proposals (c : Command) (r : Request) : Proposals :=
  match Flags.parse c.flags r.before with
  | .error e =>
    { complaint := some (utf8 "Error while parsing flags from args " ++ listed r.before ++ utf8 ": " ++ e) }
  | .ok fs =>
    let closed : Bool :=
      match Flags.parse c.flags (r.before ++ [utf8 "--"]) with
      | .ok more => more.words.length > fs.words.length
      | .error _ => false
    match if closed then none else r.unknown with
    | some name =>
      { complaint :=
          some (utf8 "Subcommand '" ++ c.name ++ utf8 "' does not support flag '" ++ name ++ utf8 "'") }
    | none =>
      if (fs.values.lookup (utf8 "help")).isSome then { files := false }
      else if r.flag.isSome && !closed then {}
      else if r.flag.isNone && !closed && Text.startsWith r.typed "-" && !r.typed.contains (Text.byte '=') then
        { items := flagForms c fs r.typed, files := false }
      else words c fs.words r.typed r.flag.isSome

/-- The proposals for a line whose last argument is being typed. -/
def ofLine (before : List Text) (typed : Text) : Proposals :=
  match find before with
  | .error _ => { complaint := some (utf8 "unable to find a command for arguments: " ++ listed before) }
  | .ok (c, rest) => proposals c (request c rest typed)

/-! ## The answer -/

/-- Proposals as the shell reads them. -/
def render (described : Bool) (p : Proposals) : Console :=
  let line := fun ((word, what) : Text × Text) =>
    word ++ (if described then utf8 "\t" ++ what else []) ++ utf8 "\n"
  let complaint := (p.complaint.map fun t => utf8 "[Debug] [Error] " ++ t ++ utf8 "\n").getD []
  let (number, name) :=
    if p.files then (utf8 "0", utf8 "ShellCompDirectiveDefault")
    else (utf8 "4", utf8 "ShellCompDirectiveNoFileComp")
  { output := p.items.flatMap line ++ utf8 ":" ++ number ++ utf8 "\n",
    errors := complaint ++ utf8 "Completion ended with directive: " ++ name ++ utf8 "\n" }

/-- The answer to a shell that asks by a word about a line; the line has to have a last argument. -/
def answer (environment : List (Text × Text)) (word : Text) (line : List Text) : Except Text Console :=
  match line.getLast? with
  | none => .error "requires at least 1 arg(s), only received 0"
  | some typed =>
    let wanted := (environment.lookup descriptionsVariable).bind Numeral.truth?
    let described := word == utf8 "__complete" && wanted.getD true
    .ok (render described (ofLine line.dropLast typed))

end Completion

end Roster.Command
