import Roster.Text.Rune
import Roster.Text.PrintableTable

/-!
# Quoted texts in messages

Messages show a text between double quotes, or a character between single quotes. Printable
characters stand for themselves; the others, the quote itself and the backslash are escaped, and a
stray byte is shown by its code.
-/

namespace Roster.Text

/-- The escape of a code point that is not printable. -/
def escapeCode (n : Nat) : Text :=
  if n == 7 then "\\a"
  else if n == 8 then "\\b"
  else if n == 12 then "\\f"
  else if n == 10 then "\\n"
  else if n == 13 then "\\r"
  else if n == 9 then "\\t"
  else if n == 11 then "\\v"
  else if n < 32 || n == 127 then utf8 "\\x" ++ hex 2 n
  else if n < 0x10000 then utf8 "\\u" ++ hex 4 n
  else utf8 "\\U" ++ hex 8 n

/-- A rune as it stands between quotes of the given kind. -/
def quoteRune (mark : Char) : Rune → Text
  | .bad b => utf8 "\\x" ++ hex 2 b.toNat
  | .char c =>
    if c == mark || c == '\\' then byte '\\' :: String.utf8EncodeChar c
    else if isPrintable c then String.utf8EncodeChar c
    else escapeCode c.toNat

/-- A text between double quotes. -/
def quoted (t : Text) : Text :=
  byte '"' :: (t.runes.flatMap (quoteRune '"') ++ [byte '"'])

/-- A character between single quotes. -/
def quotedChar (c : Char) : Text :=
  byte '\'' :: (quoteRune '\'' (.char c) ++ [byte '\''])

/-- The backquote. -/
def backquote : UInt8 := 96

/-- A text between backquotes when it can stand there unescaped, else between double quotes. -/
def quotedRaw (t : Text) : Text :=
  let plain := t.runes.all fun
    | .bad _ => false
    | .char c => c.toNat != 96 && c.toNat != 0xFEFF && c.toNat != 127 && (32 ≤ c.toNat || c == '\t')
  if plain then backquote :: (t ++ [backquote]) else quoted t

end Roster.Text
