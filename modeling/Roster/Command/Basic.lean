import Roster.Command.Flag
import Roster.Fault

/-!
# The commands

The program has three commands below its own name: one that serves, one that demonstrates, one that
helps. The first word of a command line names the command. Before the command is known its flags are
not known either, so a word after an unknown flag may be taken for the flag's value.
-/

namespace Roster

/-- The program itself and its commands. -/
inductive Command where
  | program
  | demo
  | serve
  | help
deriving DecidableEq, Repr

namespace Command

/-- The name of a command. -/
def name : Command → Text
  | .program => "rolecall"
  | .demo => "demo"
  | .serve => "serve"
  | .help => "help"

/-- The name with those of the commands above. -/
def path : Command → Text
  | .program => name .program
  | c => name .program ++ utf8 " " ++ name c

/-- The commands below the program, by name. -/
def all : List Command := [.demo, .help, .serve]

/-- The flags of the program, which every command has too. -/
def globalFlags : List Flag :=
  [{ name := "config", usage := "config file (yaml, toml or json)" },
   { name := "log-level", usage := "log level: debug, info, warn or error", default := "info",
     setting := some "log_level" }]

/-- The flags that a command has for itself. -/
def ownFlags : Command → List Flag
  | .demo =>
    [{ name := "fetch-delay", kind := .span, usage := "simulated latency of each batch fetch",
       default := "100ms", setting := some "fetch_delay" }]
  | .serve =>
    [{ name := "port", usage := "HTTP listen port", default := "8080", setting := some "port" },
     { name := "storage", usage := "user store: memory or sqlite", default := "memory",
       setting := some "storage" },
     { name := "database-path", usage := "SQLite database file", default := "rolecall.db",
       setting := some "database_path" },
     { name := "redis-url", usage := "redis URL for the user cache (empty keeps it in process)",
       setting := some "cache.redis_url" },
     { name := "seed", kind := .switch, usage := "seed Alice, Bob and Charlie into an empty store",
       default := "true", setting := some "seed" }]
  | .program | .help => []

/-- All flags of a command. -/
def flags (c : Command) : List Flag := c.ownFlags ++ globalFlags ++ [Flag.help c.name]

/-! ## Finding the command -/

/-- Whether an argument is a flag whose value is the next argument, as far as the flags are known. -/
def takesNext (known : List Flag) (argument : Text) : Bool :=
  let isSwitch := fun (f : Flag) => f.kind == .switch
  if argument.contains (Text.byte '=') then false
  else if Text.startsWith argument "--" then
    !known.any fun f => f.name == argument.drop 2 && isSwitch f
  else
    Text.startsWith argument "-" && argument.length == 2
      && !known.any fun f => f.letter == argument[1]? && isSwitch f

/-- The words among arguments. An argument that would be the value of the last flag is none. -/
def wordsOf (known : List Flag) : List Text → List Text
  | [] => []
  | a :: rest =>
    if a == utf8 "--" then []
    else if takesNext known a then
      match rest with
      | _ :: b :: rest => wordsOf known (b :: rest)
      | _ => []
    else if a.isEmpty || Text.startsWith a "-" then wordsOf known rest
    else a :: wordsOf known rest

/-- Arguments without the first word that equals `word`. -/
def dropWord (known : List Flag) (word : Text) : List Text → List Text
  | [] => []
  | a :: rest =>
    if a == utf8 "--" then a :: rest
    else if takesNext known a then
      match rest with
      | b :: rest => a :: b :: dropWord known word rest
      | [] => [a]
    else if a == word then rest
    else a :: dropWord known word rest

/-- How many letters have to be changed, put in or left out to turn one text into another. The row holds
the distances of `t` from the beginnings of the other text. -/
def distanceRow (b : UInt8) (t : Text) : (left above : Nat) → List Nat → List Nat
  | left, diagonal, above :: row =>
    match t with
    | a :: t =>
      let here := if a == b then diagonal else min (min left above) diagonal + 1
      here :: distanceRow b t here above row
    | [] => []
  | _, _, [] => []

/-- The edit distance of two texts. -/
def distance (s t : Text) : Nat :=
  let start := (List.range s.length).map (· + 1)
  let (_, row) := t.foldl (fun (n, row) b => (n + 1, distanceRow b s (n + 1) n row)) (0, start)
  row.getLast?.getD t.length

/-- The commands that a mistyped word may have meant: those at most two letters away, and those that
begin with it. -/
def suggestions (word : Text) : List Command :=
  let typed := Text.lowered word
  [.demo, .serve].filter fun c => distance typed c.name ≤ 2 || Text.startsWith c.name typed

/-- The fault of a word that names no command. -/
def unknown (word : Text) : Fault :=
  let hint :=
    match suggestions word with
    | [] => []
    | cs => utf8 "\n\nDid you mean this?\n" ++ cs.flatMap fun c => utf8 "\t" ++ c.name ++ utf8 "\n"
  .reported (utf8 "unknown command " ++ Text.quoted word ++ utf8 " for " ++ Text.quoted (name .program)
    ++ hint)

/-- The command that arguments name, and the arguments that are left for it. -/
def find (arguments : List Text) : Except Fault (Command × List Text) :=
  match wordsOf globalFlags arguments with
  | [] => .ok (.program, arguments)
  | word :: _ =>
    match all.find? fun c => c.name == word with
    | some c => .ok (c, dropWord globalFlags word arguments)
    | none => .error (unknown word)

/-! ## Help -/

/-- One line on what a command does. -/
def summary : Command → Text
  | .program => "User roster service grouped by role"
  | .demo => "Print the roster, cache, counter and batch fetch walkthrough"
  | .serve => "Run the HTTP API and roster page"
  | .help => "Help about any command"

/-- What a command does. -/
def description : Command → Text
  | .program =>
    utf8 "rolecall keeps a roster of users, groups them by role and serves them\n"
      ++ utf8 "over a JSON API and a live HTML page. Settings come from flags, ROLECALL_*\n"
      ++ utf8 "environment variables or a config file."
  | .help =>
    utf8 "Help provides help for any command in the application.\n"
      ++ utf8 "Simply type " ++ name .program ++ utf8 " help [path to command] for full details."
  | c => c.summary

/-- How a command is called. -/
def useLine : Command → Text
  | .program => path .program ++ utf8 " [command]"
  | .help => path .help ++ utf8 " [command] [flags]"
  | c => c.path ++ utf8 " [flags]"

/-- A part of a usage text under a title. -/
def part (title body : Text) : Text := utf8 "\n\n" ++ title ++ utf8 ":\n" ++ body

/-- The commands with what they do, in two columns. -/
def overview : Text :=
  Text.join (utf8 "\n") (all.map fun c =>
    utf8 "  " ++ c.name ++ List.replicate (12 - c.name.length) (Text.byte ' ') ++ c.summary)

/-- How a command and its flags are used. -/
def usage (c : Command) (own : List Flag) : Text :=
  utf8 "Usage:\n  " ++ c.useLine
    ++ (if c == .program then part "Available Commands" overview else [])
    ++ part "Flags" (Flag.overview own)
    ++ (if c == .program then
        utf8 "\n\nUse \"" ++ c.path ++ utf8 " [command] --help\" for more information about a command."
      else part "Global Flags" (Flag.overview globalFlags))
    ++ utf8 "\n"

/-- The flags that a command's own part of the usage shows. -/
def localFlags (c : Command) : List Flag := if c == .program then globalFlags else c.ownFlags

/-- The help on a command. -/
def helpText (c : Command) : Text :=
  c.description ++ utf8 "\n\n" ++ c.usage (Flag.help c.name :: c.localFlags)

/-- The complaint about words that are no command, for which there is no help. -/
def unknownTopic (words : List Text) : Text :=
  utf8 "Unknown help topic [" ++ Text.join (utf8 " ") (words.map Text.quotedRaw) ++ utf8 "]\n"
    ++ usage .program (localFlags .program)

end Command

end Roster
