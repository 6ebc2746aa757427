import Roster.Text.Rune

/-!
# Email addresses

Which texts are accepted as the email of a user: a local part, plain or quoted, an at sign, and a
domain with at least one dot.
-/

namespace Roster.Email

/-- Characters beyond ASCII that may stand in an address. -/
def isWide (c : Char) : Bool :=
  let n := c.toNat
  (0xA0 ≤ n && n ≤ 0xD7FF) || (0xF900 ≤ n && n ≤ 0xFDCF) || (0xFDF0 ≤ n && n ≤ 0xFFEF)

/-- Letters. -/
def isLetter (c : Char) : Bool := c.isAlpha || isWide c

/-- Letters and digits. -/
def isLetterOrDigit (c : Char) : Bool := c.isDigit || isLetter c

/-- Characters inside a domain. -/
def isDomainChar (c : Char) : Bool := isLetterOrDigit c || c == '-' || c == '.' || c == '~'

/-- Characters of a plain local part besides the dot. -/
def isAtomChar (c : Char) : Bool :=
  isLetterOrDigit c || "!#$%&'*+-/=?^_\x7b|\x7d~".toList.contains c || c.toNat == 96

/-- Whether two dots follow each other. -/
def hasDoubleDot : List Char → Bool
  | a :: b :: rest => (a == '.' && b == '.') || hasDoubleDot (b :: rest)
  | _ => false

/-- Whether a text has neither a dot at an end nor two in a row. -/
def dotsInside (cs : List Char) : Bool :=
  cs.head? != some '.' && cs.getLast? != some '.' && !hasDoubleDot cs

/-- Whether a plain local part is well formed. -/
def isPlainLocal (cs : List Char) : Bool :=
  !cs.isEmpty && dotsInside cs && cs.all fun c => isAtomChar c || c == '.'

/-- Whether there is a dot after a letter or digit and before a letter. -/
def hasJoint : List Char → Bool
  | a :: b :: c :: rest => (isLetterOrDigit a && b == '.' && isLetter c) || hasJoint (b :: c :: rest)
  | _ => false

/-- Whether a domain is well formed. -/
def isDomain (cs : List Char) : Bool :=
  dotsInside cs && cs.all isDomainChar && (cs.head?.any isLetterOrDigit) && (cs.getLast?.any isLetter)
    && hasJoint cs

/-- Whether a character can stand in a quoted local part, if need be after a backslash. -/
def isQuotedChar (c : Char) : Bool := c == '\t' || (' ' ≤ c && c ≤ '~') || isWide c

/-- What follows a quoted local part after its opening quote, if it is closed; `some` was read tells
whether it is not empty. -/
def afterQuoted : Bool → List Char → Option (List Char)
  | _, [] => none
  | filled, c :: rest =>
    if c == '"' then if filled then some rest else none
    else if c == '\\' then
      match rest with
      | e :: rest => if isQuotedChar e then afterQuoted true rest else none
      | [] => none
    else if isQuotedChar c then afterQuoted true rest
    else none

/-- Whether a text is the address of a user. -/
def isAddress (t : Text) : Bool :=
  match t.chars with
  | '"' :: rest =>
    match afterQuoted false rest with
    | some ('@' :: domain) => isDomain domain
    | _ => false
  | cs => isPlainLocal (cs.takeWhile (· != '@')) && isDomain ((cs.dropWhile (· != '@')).drop 1)

end Roster.Email
