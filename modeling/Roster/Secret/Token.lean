import Roster.Json.Decode
import Roster.Secret.Sha256
import Roster.Text.Base64
import Roster.Word

/-!
# Signed tokens

A token is three base-64 parts with dots between them: a header that names the algorithm, the claims,
and the authentication code of the first two parts under a secret. `Token.issue` writes one and
`Token.verify?` reads one; every flaw makes a token worthless, without saying why.
-/

namespace Roster.Token

/-- What a token says. Times are in seconds since the start of year 1. -/
structure Claims where
  role : Text := []
  subject : Text := []
  issuer : Text := []
  tokenId : Text := []
  audience : List Text := []
  expires : Option Int := none
  notBefore : Option Int := none
  issued : Option Int := none
deriving Repr, DecidableEq

/-- How long a token is good for. -/
def lifetime : Span := 24 * Span.hour

/-- The name of the algorithm. -/
def algorithm : Text := "HS256"

/-- The header of every issued token. -/
def header : Json := .object [("alg", .string algorithm), ("typ", .string "JWT")]

/-- The claims of a token issued at a moment. -/
def payload (role subject : Text) (now : Timestamp) : Json :=
  .object
    [("role", .string role), ("sub", .string subject), ("exp", .int (now.add lifetime).unix),
     ("iat", .int now.unix)]

/-- The dot between the parts. -/
def dot : UInt8 := Text.byte '.'

/-- Two parts with a dot between them, and their authentication code after a further dot. -/
def sign (secret : Text) (header payload : Text) : Text :=
  let body := Text.toBase64 .url header ++ dot :: Text.toBase64 .url payload
  body ++ dot :: Text.toBase64 .url (Sha256.authenticate secret body)

/-- A token for a subject with a role. -/
def issue (secret : Text) (now : Timestamp) (role subject : Text) : Text :=
  sign secret header.render (payload role subject now).render

/-- An integer reduced to the signed 64-bit range by wrapping around. -/
def wrap (n : Int) : Int := Int.bmod n Word.count

/-- The whole part of the nearest floating-point number, and whether a part of at least a nanosecond
below it is left over. A whole part beyond 64 bits counts as the least that they hold. -/
def wholeSeconds (n : Decimal.Numeral) : Int × Bool :=
  let x := Decimal.Binary.ofBits n.bits
  let whole : Int := if n.negative then -x.whole else x.whole
  (if -Word.half ≤ whole && whole < Word.half then whole else -Word.half,
    n.negative && Decimal.oneBits ≤ x.restTimes 1000000000)

/-- The moment a number of seconds after the start of 1970, in whole seconds since the start of year
1. Moments beyond the 64-bit range wrap around. -/
def dateOf (n : Decimal.Numeral) : Int :=
  let (whole, below) := wholeSeconds n
  wrap ((if below then whole - 1 else whole) + Timestamp.unixEpoch)

/-- Whether a text is a JSON number and nothing else. -/
def isNumber (t : Text) : Bool :=
  match Json.Parse.number t with
  | .ok (_, []) => true
  | _ => false

/-- Reads a date: a number of seconds, or a text that holds one. -/
def readDate : Json.Reader (Option Int) := fun _ v =>
  match v with
  | .null => .ok none
  | .number literal | .string literal =>
    if isNumber literal then
      match (Decimal.numeral? literal).filter Decimal.Numeral.isFinite with
      | some n => .ok (some (dateOf n))
      | none => Json.mismatch v "float64"
    else Json.mismatch v "json.Number"
  | v => Json.mismatch v "json.Number"

/-- Reads an audience: a text or a list of texts. -/
def readAudience : Json.Reader (List Text) := fun old v =>
  match v with
  | .null => .ok old
  | .string t => .ok [t]
  | .array items => items.mapM fun
    | .string t => .ok t
    | v => Json.mismatch v "string"
  | v => Json.mismatch v "string"

/-- The claims by their names. -/
def fields : List (Json.Field Claims) :=
  [.of "role" Claims.role (fun c x => { c with role := x }) Json.readText,
   .of "iss" Claims.issuer (fun c x => { c with issuer := x }) Json.readText,
   .of "sub" Claims.subject (fun c x => { c with subject := x }) Json.readText,
   .of "aud" Claims.audience (fun c x => { c with audience := x }) readAudience,
   .of "exp" Claims.expires (fun c x => { c with expires := x }) readDate,
   .of "nbf" Claims.notBefore (fun c x => { c with notBefore := x }) readDate,
   .of "iat" Claims.issued (fun c x => { c with issued := x }) readDate,
   .of "jti" Claims.tokenId (fun c x => { c with tokenId := x }) Json.readText]

mutual

/-- Whether every number of a value is within the range of floating-point numbers. -/
def finiteNumbers : Json → Bool
  | .number literal => (Json.finite? literal).isSome
  | .array items => finiteItems items
  | .object members => finiteMembers members
  | _ => true

/-- The same for the items of an array. -/
def finiteItems : List Json → Bool
  | [] => true
  | v :: rest => finiteNumbers v && finiteItems rest

/-- The same for the members of an object. -/
def finiteMembers : List (Text × Json) → Bool
  | [] => true
  | (_, v) :: rest => finiteNumbers v && finiteMembers rest

end

/-- The algorithm that a header names. -/
def algorithm? (header : Text) : Option Text :=
  match Json.parse header with
  | .ok v =>
    if finiteNumbers v then
      match v.member? "alg" with
      | some (.string name) => some name
      | _ => none
    else none
  | .error _ => none

/-- The claims that a payload makes. -/
def claims? (payload : Text) : Option Claims :=
  (Json.decode (Json.readRecord "claims" "claims" fields) {} payload).toOption

/-- Whether the moment is one at which the claims hold. -/
def timely (now : Timestamp) (c : Claims) : Bool :=
  (c.expires.all fun e => now.instant < e * Span.second)
    && (c.notBefore.all fun n => n * Span.second ≤ now.instant)

/-- The claims of a token that is well formed, signed with the secret and valid now. -/
def verify? (secret : Text) (now : Timestamp) (token : Text) : Option Claims :=
  match Text.split dot token with
  | [h, p, s] => do
    let name ← algorithm? (← Text.ofBase64 .url h)
    if name != algorithm then none
    else
      let c ← claims? (← Text.ofBase64 .url p)
      let code ← Text.ofBase64 .url s
      if code == Sha256.authenticate secret (h ++ dot :: p) && timely now c then some c else none
  | _ => none

end Roster.Token
