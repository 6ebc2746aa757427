import Roster.Text.Basic

/-!
# Characters of a text

A text is read as a sequence of runes: a character that is encoded correctly, or a single byte that
belongs to no correct encoding. Every byte is part of exactly one rune, so the reading never fails.
-/

namespace Roster

/-- What stands at one place of a text: an encoded character, or a byte that encodes none. -/
inductive Rune where
  | char (c : Char)
  | bad (b : UInt8)
deriving DecidableEq, Repr, Inhabited

namespace Rune

/-- The character shown for a byte that encodes none. -/
def replacement : Char := Char.ofNat 0xFFFD

/-- The character of a rune; a stray byte counts as the replacement character. -/
def toChar : Rune → Char
  | char c => c
  | bad _ => replacement

/-- The code point of a rune; a stray byte counts as the replacement character. -/
def code (r : Rune) : Nat := r.toChar.toNat

/-- The bytes of a rune. -/
def bytes : Rune → Text
  | char c => String.utf8EncodeChar c
  | bad b => [b]

/-- How many bytes a rune takes. -/
def width (r : Rune) : Nat := r.bytes.length

end Rune

namespace Text

/-- Whether a byte continues an encoded character. -/
def isTrail (b : UInt8) : Bool := 0x80 ≤ b && b ≤ 0xBF

/-- The rune at the front of a text whose first byte is `a`, and the number of bytes after `a` that
belong to it. Overlong forms, surrogates and values above U+10FFFF are refused byte by byte. -/
def firstRune (a : UInt8) (t : Text) : Rune × Nat :=
  if a < 0x80 then (.char (Char.ofNat a.toNat), 0)
  else if 0xC2 ≤ a && a ≤ 0xDF then
    match t with
    | b :: _ =>
      if isTrail b then (.char (Char.ofNat ((a.toNat - 0xC0) * 64 + (b.toNat - 0x80))), 1)
      else (.bad a, 0)
    | _ => (.bad a, 0)
  else if 0xE0 ≤ a && a ≤ 0xEF then
    match t with
    | b :: c :: _ =>
      let low : UInt8 := if a == 0xE0 then 0xA0 else 0x80
      let high : UInt8 := if a == 0xED then 0x9F else 0xBF
      if low ≤ b && b ≤ high && isTrail c then
        (.char (Char.ofNat ((a.toNat - 0xE0) * 4096 + (b.toNat - 0x80) * 64 + (c.toNat - 0x80))), 2)
      else (.bad a, 0)
    | _ => (.bad a, 0)
  else if 0xF0 ≤ a && a ≤ 0xF4 then
    match t with
    | b :: c :: d :: _ =>
      let low : UInt8 := if a == 0xF0 then 0x90 else 0x80
      let high : UInt8 := if a == 0xF4 then 0x8F else 0xBF
      if low ≤ b && b ≤ high && isTrail c && isTrail d then
        (.char (Char.ofNat ((a.toNat - 0xF0) * 262144 + (b.toNat - 0x80) * 4096
          + (c.toNat - 0x80) * 64 + (d.toNat - 0x80))), 3)
      else (.bad a, 0)
    | _ => (.bad a, 0)
  else (.bad a, 0)

/-- The runes of a text after its first `skip` bytes. -/
def runesFrom : Nat → Text → List Rune
  | _, [] => []
  | skip + 1, _ :: t => runesFrom skip t
  | 0, a :: t =>
    let (r, more) := firstRune a t
    r :: runesFrom more t

/-- The runes of a text. -/
def runes (t : Text) : List Rune := runesFrom 0 t

/-- The bytes of a sequence of runes. -/
def ofRunes (rs : List Rune) : Text := rs.flatMap Rune.bytes

/-- The text of a sequence of characters. -/
def ofChars (cs : List Char) : Text := cs.flatMap String.utf8EncodeChar

/-- Whether every byte belongs to an encoded character. -/
def isUtf8 (t : Text) : Bool :=
  t.runes.all fun | .char _ => true | .bad _ => false

/-- The characters of a text, stray bytes as replacement characters. -/
def chars (t : Text) : List Char := t.runes.map Rune.toChar

/-- The text with each stray byte replaced by the replacement character. -/
def repaired (t : Text) : Text := ofChars t.chars

/-- How many characters a text has; a stray byte counts as one. -/
def count (t : Text) : Nat := t.runes.length

end Text

end Roster
