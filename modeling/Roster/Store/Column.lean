import Roster.Fault
import Roster.Text.Numeral

/-!
# Names of columns

A column is named in a statement by a word or by a text in quotes or brackets, and may stand in parentheses.
Blanks and comments may stand around it; anything else is an error of the statement's form.
-/

namespace Roster.Sql

/-- A fault of the database: what kind, the detail, the code. -/
def databaseFault (kind detail : Text) (code : Nat) : Fault :=
  .reported (kind ++ utf8 ": " ++ detail ++ utf8 " (" ++ Text.decimal code ++ utf8 ")")

/-- A fault of a statement. -/
def statementFault (detail : Text) : Fault := databaseFault "SQL logic error" detail 1

/-- A piece of a statement, as it is written. -/
inductive Token where
  | name (name written : Text)
  | sign (written : Text)
  | illegal (written : Text)
deriving Repr, DecidableEq

/-- Words that cannot name a column. -/
def reservedWords : List Text :=
  ["add", "all", "alter", "and", "as", "autoincrement", "between", "case", "check", "collate", "commit",
   "constraint", "create", "default", "deferrable", "delete", "distinct", "drop", "else", "escape", "except",
   "exists", "foreign", "from", "group", "having", "in", "index", "insert", "intersect", "into", "is", "isnull",
   "join", "limit", "not", "nothing", "notnull", "null", "on", "or", "order", "primary", "references",
   "returning", "select", "set", "table", "then", "to", "transaction", "union", "unique", "update", "using",
   "values", "when", "where"].map utf8

/-- Bytes of a word. -/
def isWordByte (b : UInt8) : Bool :=
  Text.isAlphanumeric b || b == Text.byte '_' || b == Text.byte '$' || 128 ≤ b

/-- Blanks that may start a gap between pieces. -/
def isGap (b : UInt8) : Bool := b == 32 || b == 9 || b == 10 || b == 12 || b == 13

/-- What follows a comment of the form `/* … */`. -/
def afterComment : Text → Text
  | 42 :: 47 :: t => t
  | _ :: t => afterComment t
  | [] => []

/-- A text without blanks and comments in front. -/
def skipGaps : Nat → Text → Text
  | 0, t => t
  | fuel + 1, t =>
    match t with
    | 45 :: 45 :: rest => skipGaps fuel (rest.dropWhile (· != 10))
    | 47 :: 42 :: b :: rest => skipGaps fuel (afterComment (b :: rest))
    | 0xEF :: 0xBB :: 0xBF :: rest => skipGaps fuel rest
    | b :: rest => if isGap b then skipGaps fuel (rest.dropWhile Text.isSpace) else t
    | [] => []

/-- What stands in quotes up to the closing one, a doubled quote standing for itself, and what follows. -/
def quotedName? (q : UInt8) : Text → Option (Text × Text)
  | [] => none
  | [b] => if b == q then some ([], []) else none
  | b :: c :: t =>
    if b == q then
      if c == q then (quotedName? q t).map fun (name, rest) => (q :: name, rest) else some ([], c :: t)
    else (quotedName? q (c :: t)).map fun (name, rest) => (b :: name, rest)

/-- Signs of more than one byte, the longer ones first. -/
def longSigns : List Text := ["->>", "==", "<=", "<>", "<<", ">=", ">>", "!=", "||", "->"]

/-- What follows the digits in front of a text, between which underscores may stand. -/
def afterDigits (t : Text) : Text := t.dropWhile fun b => Text.isDigit b || b == Text.byte '_'

/-- What follows an exponent in front of a text, if there is one. -/
def afterExponent (t : Text) : Text :=
  match t with
  | e :: rest =>
    let digits := (Numeral.takeSign rest).2
    if (e == Text.byte 'e' || e == Text.byte 'E') && digits.head?.any Text.isDigit then afterDigits digits else t
  | [] => []

/-- What follows a number in front of a text. -/
def afterNumber (t : Text) : Text :=
  match t with
  | 48 :: x :: d :: rest =>
    if Text.lowerByte x == Text.byte 'x' && (Text.hexValue? d).isSome then
      rest.dropWhile fun b => (Text.hexValue? b).isSome || b == Text.byte '_'
    else decimal
  | _ => decimal
where
  /-- What follows a decimal number. -/
  decimal : Text :=
    match afterDigits t with
    | 46 :: rest => afterExponent (afterDigits rest)
    | rest => afterExponent rest

/-- A string of bytes after its mark and its opening quote: whether it has pairs of hexadecimal digits only,
and what follows it. -/
def takeBytes (t : Text) : Bool × Text :=
  let digits := t.takeWhile fun b => (Text.hexValue? b).isSome
  let rest := t.drop digits.length
  let closed := rest.head? == some (Text.byte '\'')
  if closed && digits.length % 2 == 0 then (true, rest.drop 1)
  else (false, (rest.dropWhile (· != Text.byte '\'')).drop 1)

/-- The first piece of a text that starts with one, and what follows. -/
def takeToken (b : UInt8) (t : Text) : Token × Text :=
  let written := fun (rest : Text) => (b :: t).take (t.length + 1 - rest.length)
  let quoted := fun (found : Option (Text × Text)) =>
    match found with
    | some (name, rest) => (Token.name name (written rest), rest)
    | none => (.illegal (b :: t), [])
  if b == Text.byte '\'' || b == Text.byte '"' || b == Text.backquote then quoted (quotedName? b t)
  else if b == Text.byte '[' then quoted (Text.cut? (Text.byte ']') t)
  else if Text.isDigit b || (b == Text.byte '.' && t.head?.any Text.isDigit) then
    let after := afterNumber (b :: t)
    let rest := after.dropWhile isWordByte
    (if rest.length == after.length then .sign (written rest) else .illegal (written rest), rest)
  else if Text.lowerByte b == Text.byte 'x' && t.head? == some (Text.byte '\'') then
    let (fine, rest) := takeBytes (t.drop 1)
    (if fine then .sign (written rest) else .illegal (written rest), rest)
  else if b == Text.byte '?' then
    let rest := t.dropWhile Text.isDigit
    (.sign (written rest), rest)
  else if (utf8 "$@:#").contains b then
    let rest := t.dropWhile isWordByte
    (if rest.length < t.length then .sign (written rest) else .illegal [b], rest)
  else if isWordByte b then
    let rest := t.dropWhile isWordByte
    let word := written rest
    (if reservedWords.contains (Text.lower word) then .sign word else .name word word, rest)
  else
    match longSigns.find? fun s => Text.startsWith (b :: t) s with
    | some s => (.sign s, (b :: t).drop s.length)
    | none => if (utf8 "()+-*/%=<>|,&~.;").contains b then (.sign [b], t) else (.illegal [b], t)

/-- The first piece of a text after blanks and comments, and what follows. A zero byte ends a statement. -/
def nextToken? (t : Text) : Option (Token × Text) :=
  match skipGaps t.length t with
  | [] => none
  | b :: rest => if b == 0 then none else some (takeToken b rest)

/-- The fault of a piece that cannot stand where it stands. -/
def misplaced : Option (Token × Text) → Fault
  | none => statementFault "incomplete input"
  | some (.illegal t, _) => statementFault (utf8 "unrecognized token: \"" ++ t ++ utf8 "\"")
  | some (.name _ t, _) | some (.sign t, _) => statementFault (utf8 "near \"" ++ t ++ utf8 "\": syntax error")

/-- Takes an equals sign, which has to stand there. -/
def takeEquals (t : Text) : Except Fault Text :=
  match nextToken? t with
  | some (.sign s, rest) =>
    if s == utf8 "=" || s == utf8 "==" then .ok rest else .error (misplaced (some (.sign s, rest)))
  | found => .error (misplaced found)

/-- Takes names with commas between them up to a closing parenthesis. -/
def takeNames : Nat → Text → Except Fault (List Text × Text)
  | 0, _ => .error (misplaced none)
  | fuel + 1, t =>
    match nextToken? t with
    | some (.name name _, rest) =>
      match nextToken? rest with
      | some (.sign s, rest) =>
        if s == utf8 ")" then .ok ([name], rest)
        else if s == utf8 "," then (takeNames fuel rest).map fun (names, rest) => (name :: names, rest)
        else .error (misplaced (some (.sign s, rest)))
      | found => .error (misplaced found)
    | found => .error (misplaced found)

/-- The column that a statement assigns a value to, from how it is written there. -/
def columnName (written : Text) : Except Fault Text :=
  let value := utf8 " ? WHERE id = ?"
  let t := utf8 " " ++ written ++ utf8 " =" ++ value
  let finish := fun (names : List Text) (rest : Text) =>
    match names, takeEquals rest with
    | _, .error f => Except.error f
    | [name], .ok rest => if rest == value then .ok name else .error (misplaced (nextToken? rest))
    | names, .ok _ =>
      .error (statementFault (Text.decimal names.length ++ utf8 " columns assigned 1 values"))
  match nextToken? t with
  | some (.name name _, rest) => finish [name] rest
  | some (.sign s, rest) =>
    if s == utf8 "(" then (takeNames t.length rest).bind fun (names, rest) => finish names rest
    else .error (misplaced (some (.sign s, rest)))
  | found => .error (misplaced found)

end Roster.Sql
