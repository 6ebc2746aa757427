import Roster.Json.Value
import Roster.Text.Quoted

/-!
# Reading JSON

A reader of one JSON value that answers with the value and the rest of the text, and a reader of a
whole text. Keys may repeat and escapes may name lone surrogates, which become replacement
characters, as do stray bytes. Values may be nested ten thousand deep.
-/

namespace Roster.Json

/-- Where the text stopped being JSON. -/
inductive Place where
  | value
  | key
  | afterKey
  | afterMember
  | afterItem
  | inNumber
  | inLiteral (literal : Text) (expected : Char)
  | inString
  | afterEnd
deriving DecidableEq, Repr

/-- Why a text is not JSON. -/
inductive SyntaxError where
  | unexpectedEnd
  | unexpected (found : Rune) (place : Place)
  | badEscape (sequence : Text)
  | tooDeep
deriving DecidableEq, Repr

/-- How messages name a place. -/
def Place.describe : Place → Text
  | .value => "looking for beginning of value"
  | .key => "looking for beginning of object key string"
  | .afterKey => "after object key"
  | .afterMember => "after object key:value pair"
  | .afterItem => "after array element"
  | .inNumber => "in numeric literal"
  | .inLiteral literal expected =>
    utf8 "in literal " ++ literal ++ utf8 " (expecting " ++ Text.quotedChar expected ++ utf8 ")"
  | .inString => "in string"
  | .afterEnd => "after top-level value"

/-- A rune between single quotes. -/
def quotedRune : Rune → Text
  | .char c => Text.quotedChar c
  | .bad b => utf8 "'\\x" ++ Text.hex 2 b.toNat ++ utf8 "'"

/-- The message of a refused text. -/
def SyntaxError.message : SyntaxError → Text
  | .unexpectedEnd => "unexpected end of JSON input"
  | .unexpected found place => utf8 "invalid character " ++ quotedRune found ++ utf8 " " ++ place.describe
  | .badEscape sequence =>
    let plain := sequence.runes.all fun
      | .bad _ => false
      | .char c => c.toNat != 96 && c.toNat != 32 && c != Rune.replacement && Text.isPrintable c
    let shown := if plain then Text.backquote :: (sequence ++ [Text.backquote]) else Text.quoted sequence
    utf8 "invalid escape sequence " ++ shown ++ utf8 " in string"
  | .tooDeep => "exceeded max depth"

namespace Parse

/-- The fault of finding something else at a place. -/
def refuse {α : Type} (place : Place) : Text → Except SyntaxError α
  | [] => .error .unexpectedEnd
  | b :: t => .error (.unexpected (Text.firstRune b t).1 place)

/-- Blanks between tokens. -/
def isBlank (b : UInt8) : Bool := b == 32 || b == 9 || b == 10 || b == 13

/-- A text without its leading blanks. -/
def skip (t : Text) : Text := t.dropWhile isBlank

/-- A piece of a string: a byte that stands for itself, or a code unit given by an escape. -/
inductive Piece where
  | byte (b : UInt8)
  | unit (n : Nat)
deriving DecidableEq, Repr

/-- The character of a one-letter escape. -/
def shortEscape? (b : UInt8) : Option UInt8 :=
  if b == Text.byte '"' || b == Text.byte '\\' || b == Text.byte '/' then some b
  else if b == Text.byte 'b' then some 8
  else if b == Text.byte 'f' then some 12
  else if b == Text.byte 'n' then some 10
  else if b == Text.byte 'r' then some 13
  else if b == Text.byte 't' then some 9
  else none

/-- The value of four hexadecimal digits. -/
def hex4? (a b c d : UInt8) : Option Nat := do
  let a ← Text.hexValue? a
  let b ← Text.hexValue? b
  let c ← Text.hexValue? c
  let d ← Text.hexValue? d
  pure (((a * 16 + b) * 16 + c) * 16 + d)

/-- What to say of an escape by code unit that the text ends in. -/
def shortUnit (digits : Text) : SyntaxError :=
  if digits.all fun d => (Text.hexValue? d).isSome then .unexpectedEnd
  else .badEscape (Text.byte '\\' :: Text.byte 'u' :: digits)

/-- The pieces of a string up to its closing quote, and the text after it. -/
def pieces : Text → Except SyntaxError (List Piece × Text)
  | [] => .error .unexpectedEnd
  | b :: t =>
    if b == Text.byte '"' then .ok ([], t)
    else if b == Text.byte '\\' then
      match t with
      | [] => .error .unexpectedEnd
      | e :: t =>
        if e == Text.byte 'u' then
          match t with
          | w :: x :: y :: z :: t =>
            match hex4? w x y z with
            | some n => (pieces t).map fun (ps, rest) => (.unit n :: ps, rest)
            | none => .error (.badEscape [b, e, w, x, y, z])
          | digits => .error (shortUnit digits)
        else
          match shortEscape? e with
          | some c => (pieces t).map fun (ps, rest) => (.byte c :: ps, rest)
          | none => .error (.badEscape [b, e])
    else if b < 32 then .error (.unexpected (.char (Char.ofNat b.toNat)) .inString)
    else (pieces t).map fun (ps, rest) => (.byte b :: ps, rest)

/-- Whether a code unit is the first of a surrogate pair. -/
def isHigh (n : Nat) : Bool := 0xD800 ≤ n && n < 0xDC00

/-- Whether a code unit is the second of a surrogate pair. -/
def isLow (n : Nat) : Bool := 0xDC00 ≤ n && n < 0xE000

/-- The bytes of a code unit; half a surrogate pair gives the replacement character. -/
def unitBytes (n : Nat) : Text :=
  String.utf8EncodeChar (if isHigh n || isLow n then Rune.replacement else Char.ofNat n)

/-- The bytes of pieces; two escapes that form a surrogate pair give one character. -/
def assemble : List Piece → Text
  | [] => []
  | .byte b :: rest => b :: assemble rest
  | .unit hi :: .unit lo :: rest =>
    if isHigh hi && isLow lo then
      String.utf8EncodeChar (Char.ofNat (0x10000 + (hi - 0xD800) * 1024 + (lo - 0xDC00))) ++ assemble rest
    else unitBytes hi ++ assemble (.unit lo :: rest)
  | .unit n :: rest => unitBytes n ++ assemble rest

/-- A string after its opening quote. -/
def string (t : Text) : Except SyntaxError (Text × Text) :=
  (pieces t).map fun (ps, rest) => ((assemble ps).repaired, rest)

/-- Digits, at least one. -/
def someDigits (t : Text) : Except SyntaxError (Text × Text) :=
  if (t.takeWhile Text.isDigit).isEmpty then refuse .inNumber t
  else .ok (t.takeWhile Text.isDigit, t.dropWhile Text.isDigit)

/-- The digits of a whole number: a zero stands alone. -/
def wholeDigits (t : Text) : Except SyntaxError (Text × Text) :=
  match t with
  | 48 :: rest => .ok ([48], rest)
  | _ => someDigits t

/-- The point and the digits after it, if a point stands there. -/
def fractionPart (t : Text) : Except SyntaxError (Text × Text) :=
  match t with
  | 46 :: rest => (someDigits rest).map fun (ds, rest) => (46 :: ds, rest)
  | _ => .ok ([], t)

/-- The exponent, if one stands there. -/
def exponentPart (t : Text) : Except SyntaxError (Text × Text) :=
  match t with
  | [] => .ok ([], [])
  | e :: rest =>
    if e == Text.byte 'e' || e == Text.byte 'E' then
      let (sign, rest) :=
        match rest with
        | s :: r => if s == Text.byte '+' || s == Text.byte '-' then ([s], r) else ([], rest)
        | [] => ([], [])
      (someDigits rest).map fun (ds, rest) => (e :: (sign ++ ds), rest)
    else .ok ([], t)

/-- The literal of a number. -/
def number (t : Text) : Except SyntaxError (Text × Text) := do
  let (sign, t) :=
    match t with
    | b :: r => if b == Text.byte '-' then ([b], r) else ([], t)
    | [] => ([], [])
  let (whole, t) ← wholeDigits t
  let (fraction, t) ← fractionPart t
  let (exponent, t) ← exponentPart t
  pure (sign ++ whole ++ fraction ++ exponent, t)

/-- A word that has to stand at the front of a text; `word` is the part still expected. -/
def literal (whole : Text) : List Char → Text → Except SyntaxError Text
  | [], t => .ok t
  | c :: word, t =>
    match t with
    | [] => .error .unexpectedEnd
    | b :: rest =>
      if b == Text.byte c then literal whole word rest else refuse (.inLiteral whole c) (b :: rest)

/-- How deep values may be nested. -/
def maxDepth : Nat := 10000

mutual

/-- One value at the front of a text, nested `depth` deep. `fuel` bounds the number of steps. -/
def value : Nat → Nat → Text → Except SyntaxError (Json × Text)
  | 0, _, _ => .error .unexpectedEnd
  | fuel + 1, depth, t =>
    match skip t with
    | [] => .error .unexpectedEnd
    | b :: rest =>
      if b == Text.byte '"' then (string rest).map fun (s, rest) => (.string s, rest)
      else if b == Text.byte '[' then
        if depth ≥ maxDepth then .error .tooDeep
        else
          match skip rest with
          | 93 :: rest => .ok (.array [], rest)
          | _ => (items fuel (depth + 1) rest).map fun (vs, rest) => (.array vs, rest)
      else if b == Text.byte '\x7b' then
        if depth ≥ maxDepth then .error .tooDeep
        else
          match skip rest with
          | 125 :: rest => .ok (.object [], rest)
          | _ => (members fuel (depth + 1) rest).map fun (ms, rest) => (.object ms, rest)
      else if b == Text.byte 't' then
        (literal "true" ['t', 'r', 'u', 'e'] (b :: rest)).map fun rest => (.bool true, rest)
      else if b == Text.byte 'f' then
        (literal "false" ['f', 'a', 'l', 's', 'e'] (b :: rest)).map fun rest => (.bool false, rest)
      else if b == Text.byte 'n' then
        (literal "null" ['n', 'u', 'l', 'l'] (b :: rest)).map fun rest => (.null, rest)
      else if b == Text.byte '-' || Text.isDigit b then
        (number (b :: rest)).map fun (n, rest) => (.number n, rest)
      else refuse .value (b :: rest)

/-- The items of an array up to its closing bracket. -/
def items : Nat → Nat → Text → Except SyntaxError (List Json × Text)
  | 0, _, _ => .error .unexpectedEnd
  | fuel + 1, depth, t => do
    let (v, rest) ← value fuel depth t
    match skip rest with
    | 44 :: rest => (items fuel depth rest).map fun (vs, rest) => (v :: vs, rest)
    | 93 :: rest => .ok ([v], rest)
    | rest => refuse .afterItem rest

/-- The members of an object up to its closing brace. -/
def members : Nat → Nat → Text → Except SyntaxError (List (Text × Json) × Text)
  | 0, _, _ => .error .unexpectedEnd
  | fuel + 1, depth, t =>
    match skip t with
    | 34 :: rest => do
      let (key, rest) ← string rest
      match skip rest with
      | 58 :: rest => do
        let (v, rest) ← value fuel depth rest
        match skip rest with
        | 44 :: rest => (members fuel depth rest).map fun (ms, rest) => ((key, v) :: ms, rest)
        | 125 :: rest => .ok ([(key, v)], rest)
        | rest => refuse .afterMember rest
      | rest => refuse .afterKey rest
    | rest => refuse .key rest

end

end Parse

/-- The first value of a text and what follows it. -/
def parseFirst (t : Text) : Except SyntaxError (Json × Text) := Parse.value (2 * t.length + 2) 0 t

/-- The value that a whole text denotes. -/
def parse (t : Text) : Except SyntaxError Json := do
  let (v, rest) ← parseFirst t
  match Parse.skip rest with
  | [] => pure v
  | rest => Parse.refuse .afterEnd rest

end Roster.Json
