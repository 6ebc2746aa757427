import Roster.Fault
import Roster.Settings.Threshold
import Roster.Settings.Value
import Roster.Word

/-!
# Settings

What the server and the demonstration run with. Every setting has a default; a file overrides it, a
variable overrides the file, and a flag overrides them all. Values are converted to the type of their
setting as far as that makes sense, and the result is checked as a whole.
-/

namespace Roster

/-- All settings. -/
structure Settings where
  port : Text
  storage : Text
  databasePath : Text
  redisUrl : Text
  cacheSpace : Text
  cacheTtl : Span
  secret : Text
  bcryptCost : Int
  cookieSecure : Bool
  logLevel : Text
  fetchDelay : Span
  counterDelay : Span
  seed : Bool
deriving Repr, DecidableEq

namespace Settings

/-- The defaults, under the names of their settings. -/
def defaults : Entries :=
  let span := fun d => Value.int d "time.Duration"
  [("port", .text "8080"), ("storage", .text "memory"), ("database_path", .text "rolecall.db"),
   ("cache.redis_url", .text ""), ("cache.prefix", .text "rolecall:user"),
   ("cache.ttl", span (10 * Span.minute)), ("jwt_secret", .text ""), ("bcrypt_cost", .int 12 "int"),
   ("cookie_secure", .bool true), ("log_level", .text "info"),
   ("fetch_delay", span (100 * Span.millisecond)), ("counter_delay", span (10 * Span.microsecond)),
   ("seed", .bool true)]

/-- Where settings come from: flags that were given, environment variables, the entries of a file. -/
structure Sources where
  flags : Entries := []
  environment : List (Text × Text) := []
  file : Entries := []

/-- The environment variable of a setting. -/
def variableName (key : Text) : Text :=
  utf8 "ROLECALL_" ++ Text.upper (key.map fun b => if b == Text.byte '.' then Text.byte '_' else b)

/-- All variables that settings are read from, one for the cache's whole table among them. -/
def variableNames : List Text := (utf8 "cache" :: defaults.map Prod.fst).map variableName

namespace Sources

/-- The variable of a setting, unless it is empty. -/
def given? (s : Sources) (key : Text) : Option Value :=
  ((s.environment.lookup (variableName key)).filter fun t => !t.isEmpty).map Value.text

/-- The entry of a file. -/
def fileValue? (s : Sources) (path : List Text) : Option Value := search (path.length + 1) s.file path

/-- The value of a setting outside the cache's table. -/
def value? (s : Sources) (key : Text) : Option Value :=
  (s.flags.lookup key).or <| (s.given? key).or <| (s.fileValue? [key]).or <| defaults.lookup key

/-- The value of a setting in the cache's table. A variable for the whole table hides what stands
below it. -/
def cacheValue? (s : Sources) (name : Text) : Option Value :=
  let key := joinPath ["cache", name]
  (s.flags.lookup key).or <| (s.given? key).or <|
    if (s.given? "cache").isSome then none
    else (s.fileValue? ["cache", name]).or (defaults.lookup key)

/-- What stands in place of the cache's table, if it is no table. A file that leaves the table empty
hides variables for its settings. -/
def cacheInstead? (s : Sources) : Option (Option Value) :=
  match s.file.lookup (utf8 "cache") with
  | none | some (.table _) => none
  | some .null => some (s.given? "cache")
  | some v => some ((s.given? "cache").or (some v))

end Sources

/-! ## Conversion -/

/-- A conversion of several settings that notes what went wrong. -/
abbrev Decoding := StateM (List Text)

/-- The message of a value of the wrong type. -/
def unconvertible (name target : Text) (v : Value) : Text :=
  utf8 "'" ++ name ++ utf8 "' expected type '" ++ target ++ utf8 "', got unconvertible type '"
    ++ v.typeName ++ utf8 "', value: '" ++ v.render ++ utf8 "'"

/-- A text. -/
def asText (name : Text) : Value → Except Text Text
  | .text t => .ok t
  | .bool b => .ok (if b then "1" else "0")
  | .int n _ => .ok (Text.decimalInt n)
  | .float x => .ok (Decimal.write .plain x)
  | v => .error (unconvertible name "string" v)

/-- The integer part of a floating-point number; the least integer if it is out of range. -/
def truncated (x : Float) : Int :=
  if x < 9223372036854775808.0 && x ≥ -9223372036854775808.0 then x.toInt64.toInt else -Word.half

/-- An integer of 64 bits; `target` names the type in messages. -/
def asInteger (target name : Text) : Value → Except Text Int
  | .int n _ => .ok (n.bmod Word.count)
  | .float x => .ok (truncated x)
  | .bool b => .ok (if b then 1 else 0)
  | .text t =>
    if t.isEmpty then .ok 0
    else
      match Numeral.integerAnyBase t with
      | .ok n => .ok n
      | .error f =>
        .error (utf8 "cannot parse '" ++ name ++ utf8 "' as int: " ++ Numeral.refusal "ParseInt" t f)
  | v => .error (unconvertible name target v)

/-- A truth value. -/
def asBool (name : Text) : Value → Except Text Bool
  | .bool b => .ok b
  | .int n _ => .ok (n != 0)
  | .float x => .ok (x != 0)
  | .text t =>
    if t.isEmpty then .ok false
    else
      match Numeral.truth? t with
      | some b => .ok b
      | none =>
        .error (utf8 "cannot parse '" ++ name ++ utf8 "' as bool: " ++ Numeral.refusal "ParseBool" t .form)
  | v => .error (unconvertible name "bool" v)

/-- A span: a text with units, or a number of nanoseconds. -/
def asSpan (name : Text) : Value → Except Text Span
  | .text t =>
    match Span.parse t with
    | .ok d => .ok d
    | .error e => .error (utf8 "error decoding '" ++ name ++ utf8 "': " ++ e.message)
  | v => asInteger "time.Duration" name v

/-- Converts a value; one that is absent or refused leaves the setting blank. -/
def convert {α : Type} (blank : α) (read : Text → Value → Except Text α) (name : Text) (v : Option Value) :
    Decoding α := do
  match v with
  | none => pure blank
  | some v =>
    match read name v with
    | .ok a => pure a
    | .error e => do
      modify (· ++ [e])
      pure blank

/-- The settings of the cache: its server, key space and time to live. -/
def decodeCache (s : Sources) : Decoding (Text × Text × Span) := do
  let parts := fun (get : Text → Option Value) => do
    let url ← convert [] asText "cache.redis_url" (get "redis_url")
    let space ← convert [] asText "cache.prefix" (get "prefix")
    let ttl ← convert 0 asSpan "cache.ttl" (get "ttl")
    pure (url, space, ttl)
  match s.cacheInstead? with
  | none => parts s.cacheValue?
  | some none => parts fun name => defaults.lookup (joinPath ["cache", name])
  | some (some (.time _)) | some (some (.date _ _)) => pure ([], [], 0)
  | some (some v) => do
    modify (· ++ [utf8 "'cache' expected a map, got '" ++ v.kindName ++ utf8 "'"])
    pure ([], [], 0)

/-- Converts all settings, in their order. -/
def decodeAll (s : Sources) : Decoding Settings := do
  let text := fun (name : Text) => convert [] asText name (s.value? name)
  let bool := fun (name : Text) => convert false asBool name (s.value? name)
  let span := fun (name : Text) => convert 0 asSpan name (s.value? name)
  let port ← text "port"
  let storage ← text "storage"
  let databasePath ← text "database_path"
  let (redisUrl, cacheSpace, cacheTtl) ← decodeCache s
  let secret ← text "jwt_secret"
  let bcryptCost ← convert 0 (asInteger "int") "bcrypt_cost" (s.value? "bcrypt_cost")
  let cookieSecure ← bool "cookie_secure"
  let logLevel ← text "log_level"
  let fetchDelay ← span "fetch_delay"
  let counterDelay ← span "counter_delay"
  let seed ← bool "seed"
  pure { port, storage := Text.lowered storage, databasePath, redisUrl, cacheSpace, cacheTtl, secret, bcryptCost,
         cookieSecure, logLevel, fetchDelay, counterDelay, seed }

/-- Converts all settings, or tells everything that went wrong. -/
def decode (s : Sources) : Except Fault Settings :=
  let (settings, errors) := (decodeAll s).run []
  if errors.isEmpty then .ok settings
  else
    .error (.during "decode config" (.reported
      (utf8 "decoding failed due to the following error(s):\n\n" ++ Text.join (utf8 "\n") errors)))

/-! ## Checks -/

/-- The rules that settings break, as pairs of a field and a rule. -/
def broken (s : Settings) : List (Text × Text) :=
  let sqlite := s.storage == utf8 "sqlite"
  let rules : List (Bool × Text × Text) :=
    [(s.port.isEmpty, "Port", "required"),
     (!(sqlite || s.storage == utf8 "memory"), "Storage", "oneof"),
     (sqlite && s.databasePath.isEmpty, "DatabasePath", "required_if"),
     (s.bcryptCost < 4, "BcryptCost", "min"),
     (s.bcryptCost > 14, "BcryptCost", "max"),
     (s.fetchDelay < 0, "FetchDelay", "min"),
     (s.counterDelay < 0, "CounterDelay", "min")]
  rules.filterMap fun (isBroken, field, rule) => if isBroken then some (field, rule) else none

/-- The message of a broken rule. -/
def brokenMessage (field rule : Text) : Text :=
  utf8 "Key: 'Config." ++ field ++ utf8 "' Error:Field validation for '" ++ field ++ utf8 "' failed on the '"
    ++ rule ++ utf8 "' tag"

/-- The level from which on entries are logged. -/
def level (s : Settings) : Except Fault Int :=
  match Log.threshold s.logLevel with
  | .ok n => .ok n
  | .error e =>
    .error (.during (utf8 "invalid log_level " ++ Text.quoted s.logLevel)
      (.during (utf8 "slog: level string " ++ Text.quoted s.logLevel) (.reported e)))

/-- Refuses settings that break a rule. -/
def check (s : Settings) : Except Fault Unit :=
  match s.broken with
  | [] => s.level.map fun _ => ()
  | broken =>
    .error (.during "invalid config" (.reported
      (Text.join (utf8 "\n") (broken.map fun (field, rule) => brokenMessage field rule))))

/-- The settings that sources give. -/
def load (s : Sources) : Except Fault Settings := do
  let settings ← decode s
  settings.check
  pure settings

/-- The least number of bytes of the secret. -/
def minSecretLength : Nat := 32

/-- Refuses a secret that is missing or short. -/
def checkSecret (s : Settings) : Except Fault Unit :=
  if s.secret.isEmpty then .error (.reported "jwt_secret is required (set ROLECALL_JWT_SECRET)")
  else if s.secret.length < minSecretLength then
    .error (.reported (utf8 "jwt_secret must be at least " ++ Text.decimal minSecretLength
      ++ utf8 " characters"))
  else .ok ()

end Settings

end Roster
