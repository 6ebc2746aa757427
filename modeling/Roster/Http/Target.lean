import Roster.Net.Url

/-!
# Request targets

A request target is a path and a query, perhaps after a scheme and a host, which are ignored. The path
is kept as it was written and in decoded form; it counts as clean when it has no empty, `.` or `..`
segments.
-/

namespace Roster.Http

/-- Decodes `%` followed by two hexadecimal digits; other bytes go through the given function, which
may refuse them. -/
def percentDecode (plain : UInt8 → UInt8) : Text → Option Text
  | [] => some []
  | b :: t =>
    if b == Text.byte '%' then
      match t with
      | x :: y :: rest => do
        let hi ← Text.hexValue? x
        let lo ← Text.hexValue? y
        (percentDecode plain rest).map ((hi * 16 + lo).toUInt8 :: ·)
      | _ => none
    else (percentDecode plain t).map (plain b :: ·)

/-- Decodes a path or a segment of one. -/
def decodePath (t : Text) : Option Text := percentDecode id t

/-- Decodes a key or a value of a query, where `+` stands for a space. -/
def decodeQuery (t : Text) : Option Text :=
  percentDecode (fun b => if b == Text.byte '+' then 32 else b) t

/-- Bytes that stand for themselves in an encoded path. -/
def isPathByte (b : UInt8) : Bool :=
  Text.isAlphanumeric b || (utf8 "-_.~$&+,/:;=@").contains b

/-- Further bytes that may stand in a path as it was written. -/
def isWrittenByte (b : UInt8) : Bool := isPathByte b || (utf8 "!'()*[]%").contains b

/-- Encodes a path. -/
def encodePath (t : Text) : Text :=
  t.flatMap fun b =>
    if isPathByte b then [b]
    else [Text.byte '%', Text.hexDigitUpper (b.toNat / 16), Text.hexDigitUpper (b.toNat % 16)]

/-- A parsed request target. -/
structure Target where
  path : Text
  escapedPath : Text
  query : Text
deriving Repr, DecidableEq

/-- A target with a written path and a query. -/
def Target.ofParts? (raw query : Text) : Option Target := do
  let path ← decodePath raw
  pure { path, escapedPath := if raw.all isWrittenByte then raw else encodePath path, query }

/-- Parses a request target: a path with a query after the first question mark, or a full address. -/
def Target.parse? (t : Text) : Option Target :=
  if Text.startsWith t "/" || t == utf8 "*" then
    let (raw, query) := (Text.cut? (Text.byte '?') t).getD (t, [])
    Target.ofParts? raw query
  else
    match Net.Url.parseParts t with
    | .ok u => Target.ofParts? u.rawPath u.query
    | .error _ => none

/-- How many pairs a query may have. -/
def maxPairs : Nat := 10000

/-- The values of a query by key, in order. Pairs that hold a semicolon or a bad escape are left out; a query
of too many pairs is left out as a whole. -/
def Target.pairs (t : Target) : List (Text × Text) :=
  let pairs := Text.split (Text.byte '&') t.query
  if pairs.length > maxPairs then []
  else
    pairs.filterMap fun pair =>
      if pair.isEmpty || pair.contains (Text.byte ';') then none
      else do
        let (key, value) := (Text.cut? (Text.byte '=') pair).getD (pair, [])
        pure (← decodeQuery key, ← decodeQuery value)

/-- The first value of a key, empty if there is none. -/
def Target.param (t : Target) (key : Text) : Text := (t.pairs.lookup key).getD []

/-- The segments of a rooted path after resolving `.` and `..`, the last one first. -/
def resolve : List Text → List Text → List Text
  | [], kept => kept
  | s :: rest, kept =>
    if s.isEmpty || s == utf8 "." then resolve rest kept
    else if s == utf8 ".." then resolve rest kept.tail
    else resolve rest (s :: kept)

/-- The path without empty, `.` and `..` segments and without a slash at the end. -/
def cleanSegments (t : Text) : Text :=
  Text.byte '/' :: Text.join (utf8 "/") (resolve (Text.split (Text.byte '/') t) []).reverse

/-- The clean form of a path; a slash at the end is kept. -/
def cleanPath (t : Text) : Text :=
  let p := if Text.startsWith t "/" then t else Text.byte '/' :: t
  let c := cleanSegments p
  if Text.endsWith p "/" && c != utf8 "/" then c ++ utf8 "/" else c

/-- The segments that routes are matched with: decoded where possible, and a slash at the end as a
segment of its own. -/
def pathSegments (t : Text) : List Text :=
  match Text.split (Text.byte '/') t with
  | [] => []
  | _ :: segments =>
    let decode := fun s => (decodePath s).getD s
    if segments.getLast? == some [] then (segments.dropLast.map decode) ++ [utf8 "/"]
    else segments.map decode

end Roster.Http
