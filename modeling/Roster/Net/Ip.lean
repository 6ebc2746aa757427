import Roster.Text.Quoted

/-!
# Numeric addresses

Whether a text is the address of a host as four decimal numbers or as groups of hexadecimal digits, and
why it is neither. The value of the address is not needed.
-/

namespace Roster.Net.Ip

/-- Why a text is no address, and perhaps the part that is at fault. -/
structure ReadError where
  text : Text
  reason : Text
  part : Text := []
deriving Repr, DecidableEq

/-- The message of a refused text. -/
def ReadError.message (e : ReadError) : Text :=
  utf8 "ParseAddr(" ++ Text.quoted e.text ++ utf8 "): " ++ e.reason
    ++ (if e.part.isEmpty then [] else utf8 " (at " ++ Text.quoted e.part ++ utf8 ")")

/-- The two forms of an address. -/
inductive Family where
  | four
  | six
deriving Repr, DecidableEq

/-- Checks four decimal numbers with points between them: the value and the number of digits of the
current one, and how many came before it. -/
def quad (whole : Text) : (value digits place : Nat) → Text → Except ReadError Unit
  | _, _, place, [] => if place < 3 then .error ⟨whole, "IPv4 address too short", []⟩ else .ok ()
  | value, digits, place, b :: t =>
    if Text.isDigit b then
      let next := value * 10 + (b.toNat - 48)
      if digits == 1 && value == 0 then .error ⟨whole, "IPv4 field has octet with leading zero", []⟩
      else if next > 255 then .error ⟨whole, "IPv4 field has value >255", []⟩
      else quad whole next (digits + 1) place t
    else if b == Text.byte '.' then
      if digits == 0 || t.isEmpty then
        .error ⟨whole, "IPv4 field must have at least one digit", b :: t⟩
      else if place == 3 then .error ⟨whole, "IPv4 address too long", []⟩
      else quad whole 0 0 (place + 1) t
    else .error ⟨whole, "unexpected character", b :: t⟩

/-- Whether a byte is a hexadecimal digit. -/
def isHexDigit (b : UInt8) : Bool := (Text.hexValue? b).isSome

/-- Checks that enough groups were read: eight, or fewer with a gap. -/
def complete (whole : Text) (gap : Bool) (place : Nat) : Except ReadError Unit :=
  if place < 8 then if gap then .ok () else .error ⟨whole, "address string too short", []⟩
  else if gap then .error ⟨whole, "the :: must expand to at least one field of zeros", []⟩
  else .ok ()

/-- Checks groups of hexadecimal digits with colons between them. `gap` tells whether `::` was met,
`place` how many groups came before; `fuel` bounds the groups to come. -/
def groups (whole : Text) : Nat → (gap : Bool) → (place : Nat) → Text → Except ReadError Unit
  | 0, gap, place, t =>
    if t.isEmpty then complete whole gap place else .error ⟨whole, "trailing garbage after address", t⟩
  | fuel + 1, gap, place, t =>
    let digits := t.takeWhile isHexDigit
    let rest := t.dropWhile isHexDigit
    if digits.length > 4 then .error ⟨whole, "each group must have 4 or less digits", t⟩
    else if digits.isEmpty then
      .error ⟨whole, "each colon-separated field must have at least one digit", t⟩
    else
      match rest with
      | [] => complete whole gap (place + 1)
      | b :: after =>
        if b == Text.byte '.' then
          if !gap && place != 6 then
            .error ⟨whole, "embedded IPv4 address must replace the final 2 fields of the address", t⟩
          else if place > 6 then
            .error ⟨whole,
              "too many hex fields to fit an embedded IPv4 at the end of the address", t⟩
          else
            match quad whole 0 0 0 t with
            | .error e => .error e
            | .ok () => complete whole gap (place + 2)
        else if b != Text.byte ':' then .error ⟨whole, "unexpected character, want colon", rest⟩
        else
          match after with
          | [] => .error ⟨whole, "colon must be followed by more characters", rest⟩
          | c :: later =>
            if c == Text.byte ':' then
              if gap then .error ⟨whole, "multiple :: in address", after⟩
              else if later.isEmpty then complete whole true (place + 1)
              else groups whole fuel true (place + 1) later
            else groups whole fuel gap (place + 1) after

/-- Checks an address of groups, perhaps with a zone after a percent sign. -/
def groupsAndZone (t : Text) : Except ReadError Unit :=
  match Text.cut? (Text.byte '%') t with
  | some (_, []) => .error ⟨t, "zone must be a non-empty string", []⟩
  | cut =>
    let address := (cut.map Prod.fst).getD t
    match Text.strip? "::" address with
    | some [] => .ok ()
    | some rest => groups t 8 true 0 rest
    | none => groups t 8 false 0 address

/-- The form of an address. -/
def family (t : Text) : Except ReadError Family :=
  match t.find? fun b => b == Text.byte '.' || b == Text.byte ':' || b == Text.byte '%' with
  | none => .error ⟨t, "unable to parse IP", []⟩
  | some b =>
    if b == Text.byte '.' then (quad t 0 0 0 t).map fun _ => .four
    else if b == Text.byte ':' then (groupsAndZone t).map fun _ => .six
    else .error ⟨t, "missing IPv6 address", []⟩

end Roster.Net.Ip
