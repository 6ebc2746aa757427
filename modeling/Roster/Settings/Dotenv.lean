import Roster.Settings.Value
import Roster.Text.Space

/-!
# Files of variables

One variable to a line, `NAME=value` or `NAME: value`, perhaps after `export`. A value may stand in
quotes and then go on for several lines; after it, or on a line of its own, a comment may follow. Outside
single quotes a name in capital letters after a dollar sign stands for the value of a variable: one of the
environment, or else an earlier one of the file.
-/

namespace Roster.Settings.Dotenv

/-! ## Encoding -/

/-- A unit of two bytes, the low one first or last. -/
def unit (lowFirst : Bool) (a b : UInt8) : Nat :=
  if lowFirst then a.toNat + b.toNat * 256 else b.toNat + a.toNat * 256

/-- The character of a code, the replacement character for half a pair. -/
def charOf (n : Nat) : Char := if 0xD800 ≤ n && n ≤ 0xDFFF then Rune.replacement else Char.ofNat n

/-- Characters in two or four bytes as UTF-8; what is no character becomes the replacement character. -/
def ofUtf16 (lowFirst : Bool) : Text → Text
  | a :: b :: c :: d :: t =>
    let first := unit lowFirst a b
    let second := unit lowFirst c d
    if 0xD800 ≤ first && first ≤ 0xDFFF && 0xDC00 ≤ second && second ≤ 0xDFFF then
      let code := if first ≤ 0xDBFF then 0x10000 + (first - 0xD800) * 1024 + (second - 0xDC00) else first
      String.utf8EncodeChar (charOf code) ++ ofUtf16 lowFirst t
    else String.utf8EncodeChar (charOf first) ++ ofUtf16 lowFirst (c :: d :: t)
  | a :: b :: t => String.utf8EncodeChar (charOf (unit lowFirst a b)) ++ ofUtf16 lowFirst t
  | [_] => String.utf8EncodeChar Rune.replacement
  | [] => []

/-- How many bytes after a stray one start the same character as it does, and are lost with it. -/
def lostAfter (a : UInt8) (t : Text) : Nat :=
  let low : UInt8 := if a == 0xE0 then 0xA0 else if a == 0xF0 then 0x90 else 0x80
  let high : UInt8 := if a == 0xED then 0x9F else if a == 0xF4 then 0x8F else 0xBF
  let width := if 0xE0 ≤ a && a ≤ 0xEF then 2 else if 0xF0 ≤ a && a ≤ 0xF4 then 3 else 0
  match t.take (width - 1) with
  | b :: rest => if low ≤ b && b ≤ high then 1 + (rest.takeWhile Text.isTrail).length else 0
  | [] => 0

/-- A text with one replacement character for each start of a character that is not completed, after its
first `skip` bytes. -/
def repairFrom : Nat → Text → Text
  | _, [] => []
  | skip + 1, _ :: t => repairFrom skip t
  | 0, a :: t =>
    match Text.firstRune a t with
    | (.char c, n) => String.utf8EncodeChar c ++ repairFrom n t
    | (.bad _, _) => String.utf8EncodeChar Rune.replacement ++ repairFrom (lostAfter a t) t

/-- The text of a file. A byte order mark tells its encoding; without one it is taken as it is. -/
def decoded (t : Text) : Text :=
  match t with
  | 0xEF :: 0xBB :: 0xBF :: rest => repairFrom 0 rest
  | 0xFF :: 0xFE :: rest => ofUtf16 true rest
  | 0xFE :: 0xFF :: rest => ofUtf16 false rest
  | t => t

/-! ## Lines -/

/-- The lines of a text. Carriage returns end lines too, and with a line feed after them only once. -/
def lines : Text → List Text
  | [] => []
  | 13 :: 10 :: t => [] :: lines t
  | b :: t =>
    if b == 10 || b == 13 then [] :: lines t
    else
      match t, lines t with
      | [], _ => [[b]]
      | c :: _, ls =>
        if c == 10 || c == 13 then
          match ls with
          | _ :: rest => [b] :: rest
          | [] => [[b]]
        else
          match ls with
          | l :: rest => (b :: l) :: rest
          | [] => [[b]]

/-- The least length of a line that is too long. -/
def tooLong : Nat := 65536

/-! ## Names and values -/

/-- Blanks as the form of a line knows them. -/
def isGap (b : UInt8) : Bool := b == 32 || b == 9 || b == 10 || b == 12 || b == 13

/-- Bytes of a name. -/
def isNameByte (b : UInt8) : Bool := Text.isAlphanumeric b || b == Text.byte '_' || b == Text.byte '.'

/-- Whether nothing but blanks and a comment is left. -/
def isTail (t : Text) : Bool :=
  match t.dropWhile isGap with
  | [] => true
  | b :: rest => b == Text.byte '#' && !rest.contains 10

/-- A value in quotes and nothing after it but a comment; the last quote that allows this closes it. -/
def quotedValue? (q : UInt8) (t : Text) : Option Text :=
  (List.range t.length).reverse.findSome? fun i =>
    if i > 0 && t[i]? == some q && isTail (t.drop (i + 1)) then some (t.take (i + 1)) else none

/-- A value without quotes, up to a comment. -/
def plainValue? (t : Text) : Option Text :=
  let plain := t.takeWhile fun b => b != Text.byte '#' && b != 10
  if isTail (t.drop plain.length) then some plain else none

/-- The value that a line gives after the sign between name and value. -/
def valueOf? (t : Text) : Option Text :=
  match t with
  | b :: _ =>
    if b == Text.byte '\'' || b == Text.byte '"' then (quotedValue? b t).or (plainValue? t) else plainValue? t
  | [] => some []

/-- The value after a colon and blanks, of which one belongs to the sign and more only if the value cannot
start with them. -/
def valueAfterGap? : Text → Option Text
  | [] => none
  | b :: t => if isGap b then (valueOf? t).or (valueAfterGap? t) else none

/-- Name and value of a line that starts with the name. -/
def namedValue? (line : Text) : Option (Text × Text) :=
  let name := line.takeWhile isNameByte
  let rest := line.drop name.length
  let value :=
    match rest.dropWhile isGap with
    | 61 :: value => valueOf? (value.dropWhile isGap)
    | _ =>
      match rest with
      | 58 :: value => valueAfterGap? value
      | _ => none
  if name.isEmpty then none else value.map fun v => (name, v)

/-- Name and value of a line. -/
def pairOf? (line : Text) : Option (Text × Text) :=
  let body := line.dropWhile isGap
  let exported :=
    match Text.strip? "export" body with
    | some rest => if rest.head?.any isGap then namedValue? (rest.dropWhile isGap) else none
    | none => none
  exported.or (namedValue? body)

/-! ## What a value stands for -/

/-- Replaces a backslash and a letter by one byte. -/
def replaceEscape (letter byte : UInt8) : Text → Text
  | 92 :: b :: t =>
    if b == letter then byte :: replaceEscape letter byte t
    else 92 :: replaceEscape letter byte (b :: t)
  | b :: t => b :: replaceEscape letter byte t
  | [] => []

/-- Drops backslashes, save those before a dollar sign. -/
def dropEscapes : Text → Text
  | 92 :: b :: t => if b == Text.byte '$' then 92 :: dropEscapes (b :: t) else b :: dropEscapes t
  | b :: t => b :: dropEscapes t
  | [] => []

/-- Replaces escapes in a value that stood in double quotes. -/
def unescape (t : Text) : Text :=
  dropEscapes (replaceEscape (Text.byte 'r') 13 (replaceEscape (Text.byte 'n') 10 t))

/-- Bytes of a name after a dollar sign. -/
def isVariableByte (b : UInt8) : Bool := Text.isUpper b || Text.isDigit b || b == Text.byte '_'

/-- Replaces names after dollar signs by values; an unknown name stands for nothing, and a dollar sign
without a name for itself. -/
def substitute (known : List (Text × Text)) : Nat → Text → Text
  | 0, t => t
  | fuel + 1, t =>
    match t with
    | 92 :: 36 :: rest => 36 :: substitute known fuel rest
    | 36 :: rest =>
      let inner := if rest.head? == some (Text.byte '\x7b') then rest.drop 1 else rest
      let name := inner.takeWhile isVariableByte
      let after := inner.drop name.length
      let after := if after.head? == some (Text.byte '\x7d') then after.drop 1 else after
      if name.isEmpty then 36 :: substitute known fuel rest
      else (known.lookup name).getD [] ++ substitute known fuel after
    | b :: rest => b :: substitute known fuel rest
    | [] => []

/-- The value of a variable, freed of quotes and with everything replaced. -/
def finish (known : List (Text × Text)) (value : Text) : Text :=
  let value := Text.trimSpaces value
  let within := fun (q : UInt8) => 2 ≤ value.length && value.head? == some q && value.getLast? == some q
  if within (Text.byte '\'') then (value.drop 1).dropLast
  else
    let value := if within (Text.byte '"') then unescape ((value.drop 1).dropLast) else value
    substitute known value.length value

/-! ## Values over several lines -/

/-- The quote that a line opens and does not close. -/
def openQuote? (line : Text) : Option UInt8 := do
  let (name, rest) ← (Text.cut? (Text.byte '=') line).or (Text.cut? (Text.byte ':') line)
  let value := Text.trimSpaces rest
  let q ← value.head?
  if name.isEmpty || (q != Text.byte '\'' && q != Text.byte '"') then none
  else
    match Text.cutLast? q (Text.trimSpaces (value.drop 1)) with
    | some (before, _) => if value[before.length]? == some (Text.byte '\\') then some q else none
    | none => some q

/-- Whether a line closes a quote. -/
def closes (q : UInt8) (line : Text) : Bool :=
  match Text.cutLast? q line with
  | some (before, _) => before.getLast? != some (Text.byte '\\')
  | none => false

/-- The lines up to the one that closes a quote, and those after it. -/
def takeQuoted? (q : UInt8) : List Text → Option (List Text × List Text)
  | [] => none
  | line :: rest =>
    if line.length ≥ tooLong then none
    else if closes q line then some ([line], rest)
    else (takeQuoted? q rest).map fun (lines, rest) => (line :: lines, rest)

/-! ## The whole file -/

/-- The message of a line that gives no variable. -/
def refusal (known : List (Text × Text)) (line : Text) : Text :=
  let shown := Text.trimSpaces line
  let quoted := fun (t : Text) => utf8 "line " ++ Text.backquote :: t ++ [Text.backquote]
  let unset :=
    match Text.startsWith shown "export", Text.cut? (Text.byte ' ') shown with
    | true, some (_, name) => (known.lookup name).isNone
    | _, _ => false
  if unset then quoted shown ++ utf8 " has an unset variable" else quoted line ++ utf8 " doesn't match format"

/-- Reads lines one after the other; the latest variable comes first. -/
def readLines (environment : List (Text × Text)) :
    Nat → List (Text × Text) → List Text → Except Text (List (Text × Text))
  | 0, known, _ | _, known, [] => .ok known
  | fuel + 1, known, raw :: rest =>
    let line := Text.trimSpaces raw
    if raw.length ≥ tooLong then .error "bufio.Scanner: token too long"
    else if line.isEmpty || line.head? == some (Text.byte '#') then readLines environment fuel known rest
    else
      let taken :=
        match openQuote? line with
        | none => some ([], rest)
        | some q => takeQuoted? q rest
      match taken with
      | none => .error "missing quotes"
      | some (more, rest) =>
        let line := Text.join (utf8 "\n") (line :: more)
        match pairOf? line with
        | some (name, value) =>
          readLines environment fuel ((name, finish (environment ++ known) value) :: known) rest
        | none => .error (refusal known line)

/-- Reads the settings in a text; the error is its message. -/
def readSettings (environment : List (Text × Text)) (t : Text) : Except Text Entries :=
  let ls := lines (decoded t)
  (readLines environment ls.length [] ls).map fun known =>
    known.foldr (fun (name, value) es => Entries.put es name (.text value)) []

end Roster.Settings.Dotenv
