import Roster.Text.Fold

/-!
# Header fields

Names of header fields in their canonical form, cookies, bearer tokens and request ids.
-/

namespace Roster.Http

/-- A header field. -/
structure Field where
  name : Text
  value : Text
deriving Repr, DecidableEq

/-- Bytes that may stand in the name of a field or of a cookie. -/
def isTokenByte (b : UInt8) : Bool := Text.isAlphanumeric b || (utf8 "!#$%&'*+-.^_|~").contains b || b == 96

/-- Capital letters at the start and after each dash, small letters elsewhere. -/
def capitalize : Bool → Text → Text
  | _, [] => []
  | upper, b :: t => (if upper then Text.upperByte b else Text.lowerByte b) :: capitalize (b == Text.byte '-') t

/-- The canonical form of a field name; a name with other bytes stays as it is. -/
def canonicalName (t : Text) : Text := if t.all isTokenByte then capitalize true t else t

/-- The values of a field, in order. -/
def valuesOf (fields : List Field) (name : Text) : List Text :=
  (fields.filter fun f => canonicalName f.name == name).map Field.value

/-- The first value of a field. -/
def valueOf? (fields : List Field) (name : Text) : Option Text := (valuesOf fields name).head?

/-- Blanks and line ends. -/
def isPadding (b : UInt8) : Bool := b == 32 || b == 9 || b == 10 || b == 13

/-- A text without blanks and line ends around it. -/
def trim (t : Text) : Text := Text.trimWhile isPadding t

/-- Bytes that may stand in the value of a cookie. -/
def isCookieByte (b : UInt8) : Bool :=
  32 ≤ b && b < 127 && b != Text.byte '"' && b != Text.byte ';' && b != Text.byte '\\'

/-- A value without the quotes around it. -/
def unquote (t : Text) : Text :=
  if t.length > 1 && Text.startsWith t "\"" && Text.endsWith t "\"" then (t.drop 1).dropLast else t

/-- The value of one cookie, if it has the given name and is well formed. -/
def cookieOf? (name : Text) (part : Text) : Option Text :=
  let (key, value) := (Text.cut? (Text.byte '=') (trim part)).getD (trim part, [])
  let key := trim key
  if key.isEmpty || !key.all isTokenByte || key != name then none
  else if (unquote value).all isCookieByte then some (unquote value)
  else none

/-- How many cookies a request may have. -/
def maxCookies : Nat := 3000

/-- The first well-formed cookie with a name. A request with too many cookies has none. -/
def cookie? (fields : List Field) (name : Text) : Option Text :=
  let parts := (valuesOf fields "Cookie").flatMap fun line => Text.split (Text.byte ';') (trim line)
  if parts.length > maxCookies then none else parts.findSome? (cookieOf? name)

/-- Whether a text is 32 hexadecimal digits. -/
def isHex32 (t : Text) : Bool := t.length == 32 && t.all fun b => (Text.hexValue? b).isSome

/-- Whether a text starts with digits in groups of 8, 4, 4, 4 and 12 with dashes between them. -/
def isGrouped (t : Text) : Bool :=
  let dashes := [8, 13, 18, 23]
  36 ≤ t.length && (dashes.all fun i => t[i]? == some (Text.byte '-')) &&
    isHex32 (((t.take 36).zipIdx.filter fun (_, i) => !dashes.contains i).map Prod.fst)

/-- Whether a text is a unique id: plain, grouped, grouped with one byte on either side, or grouped
after `urn:uuid:`. -/
def isUniqueId (t : Text) : Bool :=
  match t.length with
  | 32 => isHex32 t
  | 36 => isGrouped t
  | 38 => isGrouped (t.drop 1)
  | 45 => Text.equalFold (t.take 9) "urn:uuid:" && isGrouped (t.drop 9)
  | _ => false

end Roster.Http
