import Roster.Text.Quoted
import Roster.Word

/-!
# Reading integers and truth values

Integers of 64 bits, in decimal or in a base that the numeral itself names, and the accepted spellings
of truth values.
-/

namespace Roster.Numeral

/-- Why a text is not a number. -/
inductive Flaw where
  | form
  | range
deriving DecidableEq, Repr

/-- The words for a flaw. -/
def Flaw.describe : Flaw → Text
  | .form => "invalid syntax"
  | .range => "value out of range"

/-- The message of a reader that refuses a text. -/
def refusal (reader : Text) (t : Text) (f : Flaw) : Text :=
  utf8 "strconv." ++ reader ++ utf8 ": parsing " ++ Text.quoted t ++ utf8 ": " ++ f.describe

/-- Splits off an optional sign. -/
def takeSign : Text → Bool × Text
  | [] => (false, [])
  | b :: t =>
    if b == Text.byte '-' then (true, t) else if b == Text.byte '+' then (false, t) else (false, b :: t)

/-- A signed number within 64 bits. -/
def signed (negative : Bool) (n : Nat) : Except Flaw Int :=
  if negative then if n ≤ Word.half then .ok (-(n : Int)) else .error .range
  else if n < Word.half then .ok n else .error .range

/-- The value of a digit in any base up to 36. -/
def digitValue? (b : UInt8) : Option Nat :=
  if Text.isDigit b then some (b.toNat - 48)
  else if Text.isLetter b then some ((Text.lowerByte b).toNat - 87)
  else none

/-- The number that digits of a base denote after those that denote `n`. Digits are taken from the left,
so of a byte that is no digit and a number that grows too large the first one met is the flaw. -/
def digits (base : Nat) (underscores : Bool) : Text → Nat → Except Flaw Nat
  | [], n => .ok n
  | b :: t, n =>
    if underscores && b == Text.byte '_' then digits base underscores t n
    else
      match digitValue? b with
      | some d =>
        if d ≥ base then .error .form
        else if n * base + d ≥ Word.count then .error .range
        else digits base underscores t (n * base + d)
      | none => .error .form

/-- An unsigned number in a base. -/
def naturalIn (base : Nat) (t : Text) : Except Flaw Nat :=
  if t.isEmpty then .error .form else digits base false t 0

/-- An unsigned decimal number. -/
def natural (t : Text) : Except Flaw Nat := naturalIn 10 t

/-- A signed number, given how its digits are read. -/
def withSign (read : Text → Except Flaw Nat) (t : Text) : Except Flaw Int :=
  let (negative, body) := takeSign t
  match read body with
  | .ok n => signed negative n
  | .error f => .error f

/-- An integer in a base, with an optional sign. -/
def integerIn (base : Nat) (t : Text) : Except Flaw Int := withSign (naturalIn base) t

/-- A decimal integer with an optional sign. -/
def integer (t : Text) : Except Flaw Int := integerIn 10 t

/-- What came last in a numeral: a digit or base mark, an underscore, or anything else. -/
inductive Before where
  | digit
  | underscore
  | other
deriving DecidableEq

/-- Whether underscores stand only between digits, or between a base mark and a digit. -/
def underscoresOk (hexadecimal : Bool) : Before → Text → Bool
  | before, [] => before != .underscore
  | before, b :: t =>
    if Text.isDigit b || (hexadecimal && (Text.hexValue? b).isSome) then underscoresOk hexadecimal .digit t
    else if b == Text.byte '_' then before == .digit && underscoresOk hexadecimal .underscore t
    else before != .underscore && underscoresOk hexadecimal .other t

/-- Checks the underscores of a numeral that may start with a base mark. -/
def underscoresFit (t : Text) : Bool :=
  match t with
  | 48 :: b :: rest =>
    let c := Text.lowerByte b
    if c == Text.byte 'b' || c == Text.byte 'o' || c == Text.byte 'x' then
      underscoresOk (c == Text.byte 'x') .digit rest
    else underscoresOk false .other t
  | t => underscoresOk false .other t

/-- The base that a numeral names, and its digits. -/
def baseOf (t : Text) : Nat × Text :=
  match t with
  | 48 :: b :: d :: rest =>
    let c := Text.lowerByte b
    if c == Text.byte 'b' then (2, d :: rest)
    else if c == Text.byte 'o' then (8, d :: rest)
    else if c == Text.byte 'x' then (16, d :: rest)
    else (8, b :: d :: rest)
  | 48 :: rest => (8, rest)
  | _ => (10, t)

/-- The natural number that a text denotes in the base it names itself: `0b`, `0o` or `0`, `0x`, else
decimal. -/
def naturalAnyBase (t : Text) : Except Flaw Nat :=
  if t.isEmpty then .error .form
  else
    let (base, body) := baseOf t
    match digits base true body 0 with
    | .ok n => if t.contains (Text.byte '_') && !underscoresFit t then .error .form else .ok n
    | .error f => .error f

/-- An integer in the base it names itself, with an optional sign. -/
def integerAnyBase (t : Text) : Except Flaw Int := withSign naturalAnyBase t

/-- A truth value in one of its spellings. -/
def truth? (t : Text) : Option Bool :=
  if [utf8 "1", utf8 "t", utf8 "T", utf8 "true", utf8 "TRUE", utf8 "True"].contains t then some true
  else if [utf8 "0", utf8 "f", utf8 "F", utf8 "false", utf8 "FALSE", utf8 "False"].contains t then
    some false
  else none

end Roster.Numeral
