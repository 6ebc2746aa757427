import Roster.Text.Basic

/-!
# Hosts with ports

An address `host:port`, where a host that holds colons itself stands in square brackets.
-/

namespace Roster.Net

/-- Whether a byte is a square bracket. -/
def isBracket (b : UInt8) : Bool := b == Text.byte '[' || b == Text.byte ']'

/-- Splits an address at its last colon. A host in brackets is freed of them. -/
def splitHostPort? (t : Text) : Option (Text × Text) := do
  let (host, port) ← Text.cutLast? (Text.byte ':') t
  if port.any isBracket then none
  else if Text.startsWith host "[" then
    match Text.cut? (Text.byte ']') (host.drop 1) with
    | some (inner, []) => if inner.contains (Text.byte '[') then none else some (inner, port)
    | _ => none
  else if host.contains (Text.byte ':') || host.any isBracket then none
  else some (host, port)

/-- Puts a host and a port together. -/
def joinHostPort (host port : Text) : Text :=
  if host.contains (Text.byte ':') then utf8 "[" ++ host ++ utf8 "]:" ++ port
  else host ++ Text.byte ':' :: port

end Roster.Net
