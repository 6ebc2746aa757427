import Roster.Fault

/-!
# Ports to listen on

A port is given by its number or by the name of a service. An address that covers every network device
is a colon and a port.
-/

namespace Roster.Net

/-- Services that are known by name. -/
def services : List (Text × Nat) :=
  [("domain", 53), ("ftp", 21), ("ftps", 990), ("gopher", 70), ("http", 80), ("https", 443),
   ("imap2", 143), ("imap3", 220), ("imaps", 993), ("pop3", 110), ("pop3s", 995), ("smtp", 25),
   ("submissions", 465), ("ssh", 22), ("telnet", 23)]

/-- The fault of an address that cannot be used. -/
def addressFault (address reason : Text) : Fault :=
  .during (utf8 "address " ++ address) (.reported reason)

/-- The number that digits denote after those that denote `n`, none if a byte is no digit. It is counted
in 32 bits; a number of more than 30 bits is not read further. -/
def countDigits? : Text → UInt32 → Option UInt32
  | [], n => some n
  | d :: t, n =>
    if !Text.isDigit d then none
    else if n ≥ 1073741824 then some 4294967295
    else
      let scaled := n * 10
      let next := scaled + (d - 48).toUInt32
      if next < scaled then some 4294967295 else countDigits? t next

/-- The number of a port: decimal digits, perhaps after a sign, or else a known service. -/
def portNumber (t : Text) : Except Fault Nat :=
  let negative := t.head? == some (Text.byte '-')
  let body := if negative || t.head? == some (Text.byte '+') then t.drop 1 else t
  match countDigits? body 0 with
  | some n =>
    if (negative && n != 0) || n > 65535 then .error (addressFault t "invalid port") else .ok n.toNat
  | none =>
    match services.lookup (Text.lower t) with
    | some n => .ok n
    | none => .error (.during (utf8 "lookup tcp/" ++ t) (.reported "unknown port"))

/-- The number of the port to listen on under an address that names no host. -/
def listeningPort (address : Text) : Except Fault Nat := do
  let port := address.drop 1
  if port.contains (Text.byte ':') then .error (addressFault address "too many colons in address")
  if port.contains (Text.byte '[') then .error (addressFault address "unexpected '[' in address")
  if port.contains (Text.byte ']') then .error (addressFault address "unexpected ']' in address")
  portNumber port

end Roster.Net
