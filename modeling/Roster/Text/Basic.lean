/-!
# Byte texts

A `Text` is a list of bytes. It is usually UTF-8, but nothing here assumes so: names, keys and
request bodies arrive as bytes and leave as the same bytes. String literals stand for their UTF-8
encoding.

The module holds the small vocabulary shared by all the others: decimal numerals, cutting at a
byte or at a text, trimming, ASCII case, and the bytewise order.
-/

namespace Roster

/-- A sequence of bytes, most often UTF-8. -/
abbrev Text := List UInt8

/-- The UTF-8 encoding of a string. -/
def utf8 (s : String) : Text :=
  s.toList.flatMap String.utf8EncodeChar

instance : Coe String Text := ⟨utf8⟩

namespace Text

/-- The code of an ASCII character as a byte. -/
def byte (c : Char) : UInt8 := c.toNat.toUInt8

/-- The decimal digit `d`, for `d < 10`. -/
def digit (d : Nat) : UInt8 := (48 + d).toUInt8

/-- Whether a byte is one of the digits `0` to `9`. -/
def isDigit (b : UInt8) : Bool := 48 ≤ b && b ≤ 57

/-- Whether a byte is an ASCII lower-case letter. -/
def isLower (b : UInt8) : Bool := 97 ≤ b && b ≤ 122

/-- Whether a byte is an ASCII upper-case letter. -/
def isUpper (b : UInt8) : Bool := 65 ≤ b && b ≤ 90

/-- Whether a byte is an ASCII letter. -/
def isLetter (b : UInt8) : Bool := isLower b || isUpper b

/-- Whether a byte is an ASCII letter or digit. -/
def isAlphanumeric (b : UInt8) : Bool := isLetter b || isDigit b

/-- Prepends the decimal digits of `n`; `fuel` bounds their number. -/
def decimalFrom : Nat → Nat → Text → Text
  | 0, _, acc => acc
  | fuel + 1, n, acc =>
    if n < 10 then digit n :: acc else decimalFrom fuel (n / 10) (digit (n % 10) :: acc)

/-- The decimal numeral of a natural number, without leading zeros. -/
def decimal (n : Nat) : Text := decimalFrom (n + 1) n []

/-- The decimal numeral of an integer, with `-` in front of a negative one. -/
def decimalInt : Int → Text
  | .ofNat n => decimal n
  | .negSucc n => byte '-' :: decimal (n + 1)

/-- The decimal numeral of `n`, filled with zeros on the left up to `width` digits. -/
def padded (width n : Nat) : Text :=
  let t := decimal n
  List.replicate (width - t.length) 48 ++ t

/-- The number that a text of digits denotes, `none` when it is empty or holds another byte. -/
def toNat? (t : Text) : Option Nat :=
  if t.isEmpty || !t.all isDigit then none
  else some (t.foldl (fun n b => n * 10 + (b.toNat - 48)) 0)

/-- A lower-case hexadecimal digit. -/
def hexDigit (d : Nat) : UInt8 := if d < 10 then digit d else (87 + d).toUInt8

/-- An upper-case hexadecimal digit. -/
def hexDigitUpper (d : Nat) : UInt8 := if d < 10 then digit d else (55 + d).toUInt8

/-- The lowest `width` hexadecimal digits of `n`, most significant first. -/
def hex : Nat → Nat → Text
  | 0, _ => []
  | width + 1, n => hex width (n / 16) ++ [hexDigit (n % 16)]

/-- The value of a hexadecimal digit in either case. -/
def hexValue? (b : UInt8) : Option Nat :=
  if isDigit b then some (b.toNat - 48)
  else if 97 ≤ b && b ≤ 102 then some (b.toNat - 87)
  else if 65 ≤ b && b ≤ 70 then some (b.toNat - 55)
  else none

/-- An ASCII letter in lower case; any other byte as it is. -/
def lowerByte (b : UInt8) : UInt8 := if isUpper b then b + 32 else b

/-- An ASCII letter in upper case; any other byte as it is. -/
def upperByte (b : UInt8) : UInt8 := if isLower b then b - 32 else b

/-- The text with its ASCII letters in lower case. -/
def lower (t : Text) : Text := t.map lowerByte

/-- The text with its ASCII letters in upper case. -/
def upper (t : Text) : Text := t.map upperByte

/-- Removes `lead` from the front of a text that starts with it. -/
def strip? : Text → Text → Option Text
  | [], t => some t
  | _ :: _, [] => none
  | a :: lead, b :: t => if a == b then strip? lead t else none

/-- Whether `t` starts with `lead`. -/
def startsWith (t lead : Text) : Bool := (strip? lead t).isSome

/-- Whether `t` ends with `tail`. -/
def endsWith (t tail : Text) : Bool := startsWith t.reverse tail.reverse

/-- Removes `tail` from the end of a text that ends with it. -/
def stripEnd? (tail t : Text) : Option Text :=
  (strip? tail.reverse t.reverse).map List.reverse

/-- Cuts at the first occurrence of a byte: what stands before it and what stands after it. -/
def cut? (b : UInt8) : Text → Option (Text × Text)
  | [] => none
  | a :: t => if a == b then some ([], t) else (cut? b t).map fun (x, y) => (a :: x, y)

/-- Cuts at the last occurrence of a byte. -/
def cutLast? (b : UInt8) (t : Text) : Option (Text × Text) :=
  (cut? b t.reverse).map fun (x, y) => (y.reverse, x.reverse)

/-- Cuts at the first occurrence of a text. -/
def cutText? (sep : Text) : Text → Option (Text × Text)
  | [] => if sep.isEmpty then some ([], []) else none
  | a :: t =>
    match strip? sep (a :: t) with
    | some rest => some ([], rest)
    | none => (cutText? sep t).map fun (x, y) => (a :: x, y)

/-- Whether `part` occurs in `t`. -/
def hasText (t part : Text) : Bool := (cutText? part t).isSome

/-- The pieces between the occurrences of a byte; always at least one. -/
def split (b : UInt8) : Text → List Text
  | [] => [[]]
  | a :: t =>
    if a == b then [] :: split b t
    else
      match split b t with
      | [] => [[a]]
      | piece :: rest => (a :: piece) :: rest

/-- Pieces put together with a separator between them. -/
def join (sep : Text) (pieces : List Text) : Text := sep.intercalate pieces

/-- Drops the bytes of a class from the end. -/
def dropEndWhile (p : UInt8 → Bool) (t : Text) : Text := (t.reverse.dropWhile p).reverse

/-- Drops the bytes of a class from both ends. -/
def trimWhile (p : UInt8 → Bool) (t : Text) : Text := dropEndWhile p (t.dropWhile p)

/-- A space or a tab. -/
def isBlank (b : UInt8) : Bool := b == 32 || b == 9

/-- Space, tab, line feed, vertical tab, form feed or carriage return. -/
def isSpace (b : UInt8) : Bool := b == 32 || (9 ≤ b && b ≤ 13)

/-- Replaces every byte by a text. -/
def expand (f : UInt8 → Text) (t : Text) : Text := t.flatMap f

/-- The bytewise lexicographic order. -/
def le : Text → Text → Bool
  | [], _ => true
  | _ :: _, [] => false
  | a :: s, b :: t => a < b || (a == b && le s t)

/-- Texts in bytewise order. -/
def sorted (ts : List Text) : List Text := ts.mergeSort le

/-- Reads the bytes as UTF-8 when they are valid. -/
def toString? (t : Text) : Option String := String.fromUTF8? ⟨t.toArray⟩

end Text

end Roster
