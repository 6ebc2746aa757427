import Roster.Text.Basic

/-!
# The pieces of a YAML text

A text comes in pieces of a fixed size, and each is decoded only when characters of it are needed. So what
is wrong with a later piece goes unnoticed as long as nobody asks for it.

A text is UTF-8 unless a byte order mark in front says UTF-16. Most control characters may not stand in
it.
-/

namespace Roster.Yaml

/-- How characters are encoded. -/
inductive Encoding where
  | utf8
  /-- Two bytes to a unit, the low one first or last. -/
  | utf16 (lowFirst : Bool)
deriving DecidableEq, Repr

/-- Decoded characters, and what is wrong with the bytes after them. -/
structure Piece where
  chars : List Char
  problem : Option Text := none
deriving Repr

/-- What stands at the front of bytes: a character of some width, the start of one, or nothing allowed. -/
inductive Front where
  | char (code width : Nat)
  | partly
  | bad (problem : Text)

namespace Encoding

/-- How many bytes a character takes, by its first byte; zero for a byte that starts none. -/
def leadWidth (b : UInt8) : Nat :=
  if b &&& 0x80 == 0 then 1
  else if b &&& 0xE0 == 0xC0 then 2
  else if b &&& 0xF0 == 0xE0 then 3
  else if b &&& 0xF8 == 0xF0 then 4
  else 0

/-- The bits of a character's first byte that belong to its code. -/
def leadBits (width : Nat) (b : UInt8) : Nat :=
  (if width == 1 then b else if width == 2 then b &&& 0x1F else if width == 3 then b &&& 0x0F
    else b &&& 0x07).toNat

/-- The least code that needs a width. -/
def leastCode (width : Nat) : Nat :=
  if width ≤ 1 then 0 else if width == 2 then 0x80 else if width == 3 then 0x800 else 0x10000

/-- The code of a character from the bytes after its first; none if one of them does not continue it. -/
def trailCode? : Text → Nat → Option Nat
  | [], code => some code
  | b :: t, code =>
    if b &&& 0xC0 == 0x80 then trailCode? t (code * 64 + (b &&& 0x3F).toNat) else none

/-- The character at the front of UTF-8; `ended` says that nothing follows the bytes. -/
def front8 (ended : Bool) (b : UInt8) (t : Text) : Front :=
  let width := leadWidth b
  if width == 0 then .bad "invalid leading UTF-8 octet"
  else if width > t.length + 1 then if ended then .bad "incomplete UTF-8 octet sequence" else .partly
  else
    match trailCode? (t.take (width - 1)) (leadBits width b) with
    | none => .bad "invalid trailing UTF-8 octet"
    | some code =>
      if code < leastCode width then .bad "invalid length of a UTF-8 sequence"
      else if (0xD800 ≤ code && code ≤ 0xDFFF) || code > 0x10FFFF then .bad "invalid Unicode character"
      else .char code width

/-- A unit of two bytes. -/
def unit16 (lowFirst : Bool) (a b : UInt8) : Nat :=
  if lowFirst then a.toNat + b.toNat * 256 else b.toNat + a.toNat * 256

/-- The character at the front of UTF-16. -/
def front16 (lowFirst ended : Bool) : Text → Front
  | a :: b :: t =>
    let code := unit16 lowFirst a b
    if 0xDC00 ≤ code && code ≤ 0xDFFF then .bad "unexpected low surrogate area"
    else if 0xD800 ≤ code && code ≤ 0xDBFF then
      match t with
      | c :: d :: _ =>
        let low := unit16 lowFirst c d
        if 0xDC00 ≤ low && low ≤ 0xDFFF then
          .char (0x10000 + (code - 0xD800) * 1024 + (low - 0xDC00)) 4
        else .bad "expected low surrogate area"
      | _ => if ended then .bad "incomplete UTF-16 surrogate pair" else .partly
    else .char code 2
  | _ => if ended then .bad "incomplete UTF-16 character" else .partly

/-- The character at the front of bytes. -/
def front (e : Encoding) (ended : Bool) (b : UInt8) (t : Text) : Front :=
  match e with
  | .utf8 => front8 ended b t
  | .utf16 lowFirst => front16 lowFirst ended (b :: t)

/-- The encoding of a text by its byte order mark, and the length of that mark. -/
def of (t : Text) : Encoding × Nat :=
  if Text.startsWith t [0xFF, 0xFE] then (.utf16 true, 2)
  else if Text.startsWith t [0xFE, 0xFF] then (.utf16 false, 2)
  else if Text.startsWith t [0xEF, 0xBB, 0xBF] then (.utf8, 3)
  else (.utf8, 0)

end Encoding

/-- Whether a character may stand in a text at all. -/
def isAllowed (n : Nat) : Bool :=
  n == 9 || n == 10 || n == 13 || (32 ≤ n && n ≤ 126) || n == 0x85 || (0xA0 ≤ n && n ≤ 0xD7FF) ||
    (0xE000 ≤ n && n ≤ 0xFFFD) || 0x10000 ≤ n

namespace Piece

/-- How many bytes make a piece. -/
def size : Nat := 512

/-- Decodes bytes after their first `skip`; `chars` is what came before, the last character first. The
answer also holds the bytes of a character that is not complete. -/
def decode (e : Encoding) (ended : Bool) : (skip : Nat) → Text → (chars : List Char) → Piece × Text
  | _, [], chars => ({ chars := chars.reverse }, [])
  | skip + 1, _ :: t, chars => decode e ended skip t chars
  | 0, b :: t, chars =>
    match e.front ended b t with
    | .partly => ({ chars := chars.reverse }, b :: t)
    | .bad problem => ({ chars := chars.reverse, problem := some problem }, [])
    | .char code width =>
      if isAllowed code then decode e ended (width - 1) t (Char.ofNat code :: chars)
      else ({ chars := chars.reverse, problem := some "control characters are not allowed" }, [])

/-- The pieces of a text after the bytes of a character that is not complete. -/
def following (e : Encoding) : Nat → (left : Text) → Text → List Piece
  | 0, _, _ => []
  | fuel + 1, left, t =>
    if t.isEmpty then if left.isEmpty then [] else [(decode e true 0 left []).1]
    else
      let n := size - left.length
      let (p, left) := decode e false 0 (left ++ t.take n) []
      if p.problem.isSome then [p] else p :: following e fuel left (t.drop n)

/-- The pieces of a text. -/
def all (t : Text) : List Piece :=
  let (e, n) := Encoding.of t
  let (p, left) := decode e (t.length < 3) 0 ((t.take size).drop n) []
  if p.problem.isSome then [p] else p :: following e (t.length + 1) left (t.drop size)

end Piece

end Roster.Yaml
