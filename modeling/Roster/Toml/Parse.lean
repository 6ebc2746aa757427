import Roster.Text.Quoted

/-!
# TOML text

A TOML text is a sequence of expressions, one to a line: an entry, or the header of the table that the
entries after it belong to. Numbers and dates are kept as they are written.
-/

namespace Roster.Toml

/-- What kind of date or time a literal looks like. -/
inductive DateKind where
  | moment
  | localMoment
  | day
  | time
deriving Repr, DecidableEq

/-- A value as it is written. -/
inductive Raw where
  | text (t : Text)
  | bool (b : Bool)
  | integer (literal : Text)
  | float (literal : Text)
  | date (kind : DateKind) (literal : Text)
  | array (items : List Raw)
  | table (entries : List (List Text × Raw))
deriving Repr, Inhabited

/-- An expression. -/
inductive Expression where
  | entry (key : List Text) (value : Raw)
  | header (key : List Text)
  | arrayHeader (key : List Text)
deriving Repr

/-- A reader of a text: a value and the rest, or the message of an error. -/
abbrev Reader (α : Type) := Text → Except Text (α × Text)

/-- A byte taken for a character. -/
def shownByte (b : UInt8) : Text := String.utf8EncodeChar (Char.ofNat b.toNat)

/-- A byte by its code, and as a character if that is printable. -/
def codeOf (b : UInt8) : Text :=
  let c := Char.ofNat b.toNat
  utf8 "U+" ++ (Text.hex 4 b.toNat).map Text.upperByte
    ++ (if Text.isPrintable c then utf8 " '" ++ shownByte b ++ utf8 "'" else [])

/-- A text without blanks in front. -/
def skipBlanks (t : Text) : Text := t.dropWhile Text.isBlank

/-- Takes a byte that has to stand there. -/
def expect (x : Char) : Text → Except Text Text
  | [] => .error (utf8 "expected character " ++ [Text.byte x] ++ utf8 " but the document ended here")
  | b :: t => if b == Text.byte x then .ok t else .error (utf8 "expected character " ++ [Text.byte x])

/-- Takes the end of a line. -/
def newline : Text → Except Text Text
  | [] => .ok []
  | 10 :: t => .ok t
  | 13 :: 10 :: t => .ok t
  | [13] => .error "windows new line expected"
  | 13 :: _ => .error "windows new line should be \\r\\n"
  | b :: _ => .error (utf8 "expected newline but got " ++ codeOf b)

/-- Whether a rune may stand in a text or a comment: no control characters but the tab and line ends. -/
def isAllowed : Rune → Bool
  | .bad _ => false
  | .char c => (32 ≤ c.toNat && c.toNat != 127) || c == '\t' || c == '\n' || c == '\r'

/-- Whether all of a text may stand in a text or a comment. -/
def allAllowed (t : Text) : Bool := t.runes.all isAllowed

/-- Drops a comment up to the end of its line. -/
def skipComment (t : Text) : Except Text Text :=
  match t with
  | 35 :: rest =>
    let comment := rest.takeWhile (· != 10)
    let after := rest.drop comment.length
    let comment := if after.isEmpty then comment else (Text.stripEnd? "\r" comment).getD comment
    if comment.contains 13 || !allAllowed comment then .error "invalid character in comment"
    else .ok after
  | t => .ok t

/-- Drops blanks, comments and line ends. -/
def skipLines : Nat → Text → Except Text Text
  | 0, t => .ok t
  | fuel + 1, t =>
    match t with
    | b :: rest =>
      if Text.isBlank b then skipLines fuel rest
      else if b == 10 || b == 13 then do skipLines fuel (← newline t)
      else if b == 35 then do skipLines fuel (← skipComment t)
      else .ok t
    | [] => .ok []

/-! ## Texts -/

/-- The character of an escape with a code of `n` digits. Digits are looked for up to the end of the quotes
that close the text. -/
def codePoint (n : Nat) (closing t : Text) : Except Text (Text × Text) := do
  let digits := (t ++ closing).take n
  if digits.length < n then
    .error (utf8 "unicode point needs " ++ Text.decimal n ++ utf8 " character, not " ++ Text.decimal digits.length)
  let mut code := 0
  for d in digits do
    match Text.hexValue? d with
    | some v => code := code * 16 + v
    | none => .error "non-hex character"
  if (0xD800 ≤ code && code ≤ 0xDFFF) || code > 0x10FFFF then
    .error "escape sequence is invalid Unicode code point"
  pure (String.utf8EncodeChar (Char.ofNat code), t.drop n)

/-- What an escape letter stands for. -/
def escape? (b : UInt8) : Option UInt8 :=
  if b == Text.byte '"' || b == Text.byte '\\' then some b
  else if b == Text.byte 'b' then some 8
  else if b == Text.byte 'f' then some 12
  else if b == Text.byte 'n' then some 10
  else if b == Text.byte 'r' then some 13
  else if b == Text.byte 't' then some 9
  else if b == Text.byte 'e' then some 27
  else none

/-- Reads an escape after its backslash. -/
def takeEscape (closing : Text) : Text → Except Text (Text × Text)
  | [] => .error "need a character after \\"
  | b :: t =>
    if b == Text.byte 'u' then codePoint 4 closing t
    else if b == Text.byte 'U' then codePoint 8 closing t
    else
      match escape? b with
      | some e => .ok ([e], t)
      | none => .error (utf8 "invalid escaped character " ++ codeOf b)

/-- The length of a text in double quotes up to its closing quote, counted after the opening one. -/
def basicLength : Text → Except Text Nat
  | [] => .error "basic string not terminated by \""
  | b :: t =>
    if b == Text.byte '"' then .ok 0
    else if b == 10 || b == 13 then .error "basic strings cannot have new lines"
    else if b == Text.byte '\\' then
      match t with
      | [] => .error "need a character after \\"
      | _ :: rest => (basicLength rest).map (· + 2)
    else (basicLength t).map (· + 1)

/-- The text after the blanks and the line end in front of it, if it starts with those. -/
def afterLineEnd? : Text → Option Text
  | 10 :: t => some t
  | 13 :: 10 :: t => some t
  | b :: t => if Text.isBlank b then afterLineEnd? t else none
  | [] => none

/-- Decodes the escapes of a text. In a text over several lines a backslash at the end of a line joins it
with the next word. -/
def unescape (lines : Bool) : Nat → Text → Except Text Text
  | 0, _ => .ok []
  | fuel + 1, t =>
    match t with
    | [] => .ok []
    | b :: rest =>
      if b == Text.byte '\\' then
        match if lines then afterLineEnd? rest else none with
        | some after =>
          unescape lines fuel (after.dropWhile fun b => Text.isBlank b || b == 10 || b == 13)
        | none => do
          let (e, rest) ← takeEscape (if lines then "\"\"\"" else []) rest
          return e ++ (← unescape lines fuel rest)
      else
        let (r, n) := Text.firstRune b rest
        if isAllowed r then do
          return r.bytes ++ (← unescape lines fuel (rest.drop n))
        else .error (utf8 "invalid character " ++ codeOf b)

/-- The value of what stands between double quotes. -/
def decoded (lines : Bool) (t : Text) : Except Text Text :=
  if t.contains (Text.byte '\\') then unescape lines (t.length + 1) t
  else if allAllowed t then .ok t
  else .error "invalid UTF-8"

/-- Reads a text in double quotes. -/
def basic : Reader Text := fun t => do
  let body := t.drop 1
  let n ← basicLength body
  return (← decoded false (body.take n), body.drop (n + 1))

/-- The length of a text in single quotes up to its closing quote, counted after the opening one, where the
first `skip` bytes are known to be fine. -/
def literalLength : Nat → Text → Except Text Nat
  | _, [] => .error "unterminated literal string"
  | skip + 1, _ :: t => (literalLength skip t).map (· + 1)
  | 0, b :: t =>
    if b == Text.byte '\'' then .ok 0
    else if b == 10 || b == 13 then .error "literal strings cannot have new lines"
    else
      let (r, n) := Text.firstRune b t
      if isAllowed r then (literalLength n t).map (· + 1) else .error "invalid character"

/-- Reads a text in single quotes. -/
def literal : Reader Text := fun t => do
  let body := t.drop 1
  let n ← literalLength 0 body
  pure (body.take n, body.drop (n + 1))

/-- The length of a text up to three quotes, to which up to two more quotes belong, where the first `skip`
bytes are known to be fine. -/
def multilineLength (q : UInt8) (escapes : Bool) : Nat → Text → Except Text Nat
  | _, [] => .error (utf8 "multiline " ++ kind ++ utf8 " string not terminated by " ++ mark)
  | skip + 1, _ :: t => (multilineLength q escapes skip t).map (· + 1)
  | 0, b :: t =>
    let n := (t.takeWhile (· == q)).length
    if b == q && n ≥ 5 then .error (mark ++ utf8 " not allowed in multiline " ++ kind ++ utf8 " string")
    else if b == q && n ≥ 2 then .ok (n - 2)
    else if escapes && b == Text.byte '\\' then
      if t.isEmpty then .error "need a character after \\" else (multilineLength q escapes 1 t).map (· + 1)
    else if b == 13 then
      if t.head? == some 10 then (multilineLength q escapes 1 t).map (· + 1) else .error "need a \\n after \\r"
    else
      let (r, n) := Text.firstRune b t
      if escapes then (multilineLength q escapes 0 t).map (· + 1)
      else if isAllowed r then (multilineLength q escapes n t).map (· + 1)
      else .error "invalid character"
where
  /-- The kind of text, for messages. -/
  kind : Text := if escapes then "basic" else "literal"
  /-- The three quotes. -/
  mark : Text := [q, q, q]

/-- A text without a line end in front. -/
def dropLineEnd : Text → Text
  | 10 :: t => t
  | 13 :: 10 :: t => t
  | t => t

/-- Reads a text between three quotes. -/
def multiline (q : UInt8) (escapes : Bool) : Reader Text := fun t => do
  let body := t.drop 3
  let n ← multilineLength q escapes 0 body
  let inner := dropLineEnd (body.take n)
  let value ← if escapes then decoded true inner else pure inner
  pure (value, body.drop (n + 3))

/-! ## Keys -/

/-- Bytes of a key without quotes. -/
def isKeyByte (b : UInt8) : Bool := Text.isAlphanumeric b || b == Text.byte '-' || b == Text.byte '_'

/-- Reads one part of a key. -/
def keyPart : Reader Text := fun t =>
  match t with
  | [] => .error "expected key but found none"
  | b :: _ =>
    if b == Text.byte '\'' then literal t
    else if b == Text.byte '"' then basic t
    else if isKeyByte b then .ok (t.takeWhile isKeyByte, t.dropWhile isKeyByte)
    else .error (utf8 "invalid character at start of key: " ++ shownByte b)

/-- Reads the further parts of a key. -/
def keyRest : Nat → Reader (List Text)
  | 0, t => .ok ([], t)
  | fuel + 1, t => do
    match skipBlanks t with
    | 46 :: rest => do
      let (part, rest) ← keyPart (skipBlanks rest)
      let (parts, rest) ← keyRest fuel rest
      pure (part :: parts, rest)
    | rest => pure ([], rest)

/-- Reads a key: parts with points between them. -/
def key : Reader (List Text) := fun t => do
  let (part, rest) ← keyPart t
  let (parts, rest) ← keyRest rest.length rest
  pure (part :: parts, rest)

/-! ## Numbers and dates -/

/-- Takes a number of bytes as an integer or a floating-point number. -/
def numberLiteral : Reader Raw := fun t =>
  let prefixed := fun (isDigit : UInt8 → Bool) =>
    let n := 2 + ((t.drop 2).takeWhile isDigit).length
    Except.ok (Raw.integer (t.take n), t.drop n)
  let hexByte := fun (b : UInt8) => (Text.hexValue? b).isSome || b == Text.byte '_'
  match t with
  | 48 :: b :: _ :: _ =>
    if b == Text.byte 'x' then prefixed hexByte
    else if b == Text.byte 'o' then prefixed fun d => (48 ≤ d && d ≤ 55) || d == Text.byte '_'
    else if b == Text.byte 'b' then prefixed fun d => d == 48 || d == 49 || d == Text.byte '_'
    else if b == Text.byte '.' || b == Text.byte 'e' || b == Text.byte 'E' then plain t
    else .ok (.integer [48], t.drop 1)
  | t => plain t
where
  /-- A number without a mark for its base. -/
  plain (t : Text) : Except Text (Raw × Text) :=
    let isNumberByte := fun (b : UInt8) => Text.isDigit b || (utf8 "+-_.eE").contains b
    let body := t.takeWhile isNumberByte
    let rest := t.drop body.length
    let special := fun (word : String) =>
      if Text.startsWith rest word then Except.ok (Raw.float (t.take (body.length + 3)), rest.drop 3)
      else .error (utf8 "unexpected character '" ++ rest.take 1 ++ utf8 "' while scanning for a number")
    if rest.head? == some (Text.byte 'i') then special "inf"
    else if rest.head? == some (Text.byte 'n') then special "nan"
    else if body.isEmpty then .error "incomplete number"
    else if body.any fun b => (utf8 ".eE").contains b then .ok (.float body, rest)
    else .ok (.integer body, rest)

/-- What has been seen of a date or time. -/
structure DateScan where
  date : Bool := false
  time : Bool := false
  zone : Bool := false
  space : Bool := false

/-- The length of a date or time from place `i` on. One space may stand in it, before a digit; the byte after
that digit is not looked at. -/
def dateLength : Nat → Nat → DateScan → Text → Nat × DateScan
  | 0, i, s, _ => (i, s)
  | fuel + 1, i, s, t =>
    match t with
    | [] => (i, s)
    | b :: rest =>
      if Text.isDigit b then dateLength fuel (i + 1) s rest
      else if b == Text.byte '-' then
        dateLength fuel (i + 1) { s with date := true, zone := s.zone || 8 ≤ i } rest
      else if (utf8 "Tt:.").contains b then dateLength fuel (i + 1) { s with time := true } rest
      else if (utf8 "+Zz").contains b then dateLength fuel (i + 1) { s with zone := true } rest
      else if b == 32 && !s.space && rest.head?.any Text.isDigit then
        let taken := (rest.take 2).length
        dateLength fuel (i + 1 + taken) { s with space := true, time := true } (rest.drop taken)
      else (i, s)

/-- Takes a date or a time. -/
def dateLiteral : Reader Raw := fun t =>
  let (n, s) := dateLength (t.length + 1) 0 {} t
  let kind :=
    if !s.time then DateKind.day
    else if !s.date then .time
    else if s.zone then .moment
    else .localMoment
  .ok (.date kind (t.take n), t.drop n)

/-- Takes a number or a date, told apart by where the first byte stands that is no digit. -/
def numberOrDate : Reader Raw := fun t =>
  let word := fun (w : String) =>
    if Text.startsWith t w then Except.ok (Raw.float (t.take 3), t.drop 3)
    else .error (utf8 "expected '" ++ utf8 w ++ utf8 "'")
  match t with
  | [] => .error "incomplete number"
  | b :: _ =>
    if b == Text.byte 'i' then word "inf"
    else if b == Text.byte 'n' then word "nan"
    else if b == Text.byte '+' || b == Text.byte '-' || t.length < 3 then numberLiteral t
    else
      let n := ((t.take 5).takeWhile Text.isDigit).length
      let stop := (t.take 5)[n]?
      if (n == 2 && stop == some (Text.byte ':')) || (n == 4 && stop == some (Text.byte '-')) then dateLiteral t
      else numberLiteral t

/-! ## Values -/

mutual

/-- Reads a value. -/
def value (fuel : Nat) : Reader Raw := fun t =>
  match fuel with
  | 0 => .error []
  | fuel + 1 =>
    match t with
    | [] => .error "expected value, not eof"
    | b :: rest =>
      if b == Text.byte '"' then
        (if Text.startsWith t "\"\"\"" then multiline b true t else basic t).map fun (x, r) => (.text x, r)
      else if b == Text.byte '\'' then
        (if Text.startsWith t "'''" then multiline b false t else literal t).map fun (x, r) => (.text x, r)
      else if b == Text.byte 't' then
        if Text.startsWith t "true" then .ok (.bool true, t.drop 4) else .error "expected 'true'"
      else if b == Text.byte 'f' then
        if Text.startsWith t "false" then .ok (.bool false, t.drop 5) else .error "expected 'false'"
      else if b == Text.byte '[' then (items fuel true rest).map fun (xs, r) => (.array xs, r)
      else if b == Text.byte '\x7b' then (members fuel true rest).map fun (xs, r) => (.table xs, r)
      else numberOrDate t

/-- Reads the items of an array up to its closing bracket. -/
def items (fuel : Nat) (first : Bool) : Reader (List Raw) := fun t =>
  match fuel with
  | 0 => .error []
  | fuel + 1 =>
    if t.isEmpty then (expect ']' t).map fun r => ([], r)
    else do
      match ← skipLines t.length t with
      | [] => .error "array is incomplete"
      | b :: rest =>
        if b == Text.byte ']' then pure ([], rest)
        else
          let t ←
            if b == Text.byte ',' then
              if first then .error "array cannot start with comma" else skipLines rest.length rest
            else if first then pure (b :: rest)
            else .error "array elements must be separated by commas"
          if t.head? == some (Text.byte ']') then pure ([], t.drop 1)
          else
            let (x, t) ← value fuel t
            let (xs, t) ← items fuel false (← skipLines t.length t)
            pure (x :: xs, t)

/-- Reads the entries of a table in braces up to the closing one. -/
def members (fuel : Nat) (first : Bool) : Reader (List (List Text × Raw)) := fun t =>
  match fuel with
  | 0 => .error []
  | fuel + 1 =>
    if t.isEmpty then (expect '\x7d' t).map fun r => ([], r)
    else
      match skipBlanks t with
      | [] => .error "inline table is incomplete"
      | b :: rest => do
        if b == Text.byte '\x7d' then pure ([], rest)
        else
          let t ← if first then pure (b :: rest) else (expect ',' (b :: rest)).map skipBlanks
          let (k, v, t) ← entry fuel t
          let (es, t) ← members fuel false t
          pure ((k, v) :: es, t)

/-- Reads a key, an equals sign and a value. -/
def entry (fuel : Nat) (t : Text) : Except Text (List Text × Raw × Text) :=
  match fuel with
  | 0 => .error []
  | fuel + 1 => do
    let (k, t) ← key t
    let t := skipBlanks t
    if t.isEmpty then .error "expected = after a key, but the document ends there"
    let t ← expect '=' t
    let (v, t) ← value fuel (skipBlanks t)
    pure (k, v, t)

end

/-- Reads the header of a table. -/
def header : Reader Expression := fun t => do
  if Text.startsWith t "[[" then
    let (k, t) ← key (skipBlanks (t.drop 2))
    let t ← expect ']' (skipBlanks t)
    let t ← expect ']' t
    pure (.arrayHeader k, t)
  else
    let (k, t) ← key (skipBlanks (t.drop 1))
    let t ← expect ']' (skipBlanks t)
    pure (.header k, t)

/-- Reads what stands on a line: an expression, or nothing but a comment. -/
def line : Reader (Option Expression) := fun t => do
  match skipBlanks t with
  | [] => pure (none, [])
  | b :: rest =>
    let t := b :: rest
    if b == 35 then return (none, ← skipComment t)
    else if b == 10 || b == 13 then pure (none, t)
    else
      let (e, t) ←
        if b == Text.byte '[' then header t
        else do
          let (k, v, t) ← entry (2 * t.length + 4) t
          pure (Expression.entry k v, t)
      return (some e, ← skipComment (skipBlanks t))

end Roster.Toml
