import Roster.Fault
import Roster.Json.Decode
import Roster.Decimal.Shortest

/-!
# The cache on a server

Values kept on a key-value server as JSON, under a key space of their own and with a time to live. The
server holds texts and lists under keys; asking for a text where a list is kept fails, and writing
replaces whatever is there. For a caller who has given up nothing is sent to the server.
-/

namespace Roster.Cache

/-- What a server keeps under a key. -/
inductive Content where
  | text (t : Text)
  | list (items : List Text)
deriving Repr, DecidableEq

/-- Content and the time it has left, if that is limited. -/
structure Entry where
  content : Content
  left : Option Span := none
deriving Repr

/-- A key-value server. While `fault` is set every command fails with that text. -/
structure Server where
  entries : List (Text × Entry) := []
  fault : Option Text := none
deriving Repr

namespace Server

/-- The fault of asking for a text where something else is kept. -/
def wrongType : Fault :=
  .reported "WRONGTYPE Operation against a key holding the wrong kind of value"

/-- Drops a key. -/
def erase (s : Server) (key : Text) : Server :=
  { s with entries := s.entries.filter fun e => e.1 != key }

/-- Puts content under a key, in place of any other. -/
def put (s : Server) (key : Text) (e : Entry) : Server :=
  { s with entries := (key, e) :: (s.erase key).entries }

/-- The text under a key, the key not being known to hold one. -/
def text? (s : Server) (key : Text) : Except Fault (Option Text) :=
  match s.entries.lookup key with
  | none => .ok none
  | some { content := .text t, .. } => .ok (some t)
  | some { content := .list _, .. } => .error wrongType

/-- The command that reads a text. -/
def get (s : Server) (key : Text) : Except Fault (Option Text) :=
  match s.fault with
  | some t => .error (.reported t)
  | none => s.text? key

/-- The time that a text written with a time to live has left. A positive time to live is cut to whole
milliseconds, of which there is at least one. One of minus a nanosecond keeps the time that the key has
left; any other is no limit. -/
def lifetime (s : Server) (key : Text) (ttl : Span) : Option Span :=
  if ttl > 0 then some (max (ttl / Span.millisecond) 1 * Span.millisecond)
  else if ttl = -1 then (s.entries.lookup key).bind Entry.left
  else none

/-- The command that writes a text, with a time to live. -/
def set (s : Server) (key value : Text) (ttl : Span) : Except Fault Unit × Server :=
  match s.fault with
  | some t => (.error (.reported t), s)
  | none => (.ok (), s.put key { content := .text value, left := s.lifetime key ttl })

/-- The command that reads a text and drops its key. -/
def getDel (s : Server) (key : Text) : Except Fault (Option Text) × Server :=
  match s.get key with
  | .ok t => (.ok t, s.erase key)
  | .error f => (.error f, s)

/-- Sends a command, unless the caller has given up. -/
def send {α : Type} (s : Server) (patience : Except Fault Unit) (command : Server → Except Fault α × Server) :
    Except Fault α × Server :=
  match patience with
  | .ok () => command s
  | .error f => (.error f, s)

/-- The keys in bytewise order. -/
def keys (s : Server) : List Text := Text.sorted (s.entries.map Prod.fst)

/-- Lets time pass: entries whose time is over go. -/
def age (s : Server) (d : Span) : Server :=
  { s with
    entries := s.entries.filterMap fun (key, e) =>
      match e.left with
      | none => some (key, e)
      | some left => if left - d ≤ 0 then none else some (key, { e with left := some (left - d) }) }

/-- The time a key has left, zero if that is not limited. -/
def timeLeft (s : Server) (key : Text) : Span :=
  ((s.entries.lookup key).bind Entry.left).getD 0

end Server

/-- How values of a type are written and read, and what messages call the type. -/
structure Codec (α : Type) where
  typeName : Text
  blank : α
  encode : α → Except Text Text
  decode : Text → Except Json.DecodeError α

namespace Codec

/-- A type whose values can all be written. -/
def ofJson {α : Type} (typeName : Text) (blank : α) (write : α → Json) (read : Json.Reader α) : Codec α :=
  { typeName
    blank
    encode := fun a => .ok (write a).render
    decode := Json.decode read blank }

/-- Texts. -/
def text : Codec Text := ofJson "string" [] Json.string Json.readText

/-- Integers of 64 bits. -/
def int : Codec Int := ofJson "int" 0 Json.int Json.readInt64

/-- Floating-point numbers, as far as they are finite. -/
def float : Codec Float :=
  { typeName := "float64"
    blank := 0
    encode := fun x =>
      let t := Decimal.write .json x
      if x.isFinite then .ok t else .error (utf8 "json: unsupported value: " ++ t)
    decode := Json.decode Json.readFloat 0 }

/-- Lists of texts, or none. -/
def texts : Codec (Option (List Text)) :=
  ofJson "[]string" none
    (fun | none => .null | some ts => .array (ts.map Json.string))
    (Json.readList? "[]string" [] Json.readText)

/-- Actions, which cannot be written. -/
def action : Codec Unit :=
  { typeName := "func()"
    blank := ()
    encode := fun _ => .error "json: unsupported type: func()"
    decode := Json.decode (fun _ v => Json.mismatch v "func()") () }

/-- The record of a user, in JSON. -/
def userJson (u : User) : Json :=
  .object
    [("ID", .nat u.id.toNat), ("Name", .string u.name), ("Email", .string u.email),
     ("Role", .string u.role), ("Active", .bool u.active), ("PasswordHash", .string u.passwordHash),
     ("CreatedAt", .string u.createdAt.renderFull), ("UpdatedAt", .string u.updatedAt.renderFull)]

/-- The fields of a user's record. -/
def userFields : List (Json.Field User) :=
  [.of "ID" User.id (fun u x => { u with id := x }) Json.readUInt64,
   .of "Name" User.name (fun u x => { u with name := x }) Json.readText,
   .of "Email" User.email (fun u x => { u with email := x }) Json.readText,
   .of "Role" User.role (fun u x => { u with role := x })
     (fun old v => match Json.readText old v with
       | .error (.mismatch found record path _) => .error (.mismatch found record path "domain.Role")
       | r => r),
   .of "Active" User.active (fun u x => { u with active := x }) Json.readBool,
   .of "PasswordHash" User.passwordHash (fun u x => { u with passwordHash := x }) Json.readText,
   .of "CreatedAt" User.createdAt (fun u x => { u with createdAt := x }) Json.readTimestamp,
   .of "UpdatedAt" User.updatedAt (fun u x => { u with updatedAt := x }) Json.readTimestamp]

/-- Why a timestamp cannot be written in JSON: its year needs more than four digits, or its offset is a
day or longer. -/
def timeFlaw? (t : Timestamp) : Option Text :=
  if t.date.year < 0 || 9999 < t.date.year then some "year outside of range [0,9999]"
  else if 24 ≤ t.offset.natAbs / 3600 then some "timezone hour outside of range [0,23]"
  else none

/-- Users, as far as their times can be written. -/
def user : Codec User :=
  { typeName := "domain.User"
    blank := User.blank
    encode := fun u =>
      match (timeFlaw? u.createdAt).or (timeFlaw? u.updatedAt) with
      | some why =>
        .error (utf8 "json: error calling MarshalJSON for type time.Time: Time.MarshalJSON: " ++ why)
      | none => .ok (userJson u).render
    decode := Json.decode (Json.readRecord "domain.User" "User" userFields) User.blank }

end Codec

/-- A cache of values of one type on a server. -/
structure Remote (α : Type) where
  codec : Codec α
  space : Text
  ttl : Span

namespace Remote

variable {α : Type}

/-- The server's key for a key of the cache. -/
def fullKey (r : Remote α) (key : Text) : Text := r.space ++ Text.byte ':' :: key

/-- The value that a text from the server stands for. -/
def decode (r : Remote α) (key t : Text) : Except Fault α :=
  match r.codec.decode t with
  | .ok a => .ok a
  | .error e =>
    .error (.during (utf8 "can't unmarshal item of type " ++ r.codec.typeName ++ utf8 " (key="
      ++ Text.quoted key ++ utf8 ")") (.reported e.message))

/-- What an answer of the server means for the cache. -/
def found (r : Remote α) (command key : Text) : Except Fault (Option Text) → Except Fault (Option α)
  | .error f => .error (.during (utf8 "redis " ++ command ++ utf8 " " ++ Text.quoted key) f)
  | .ok none => .ok none
  | .ok (some t) => (r.decode key t).map some

/-- The value under a key. -/
def get (r : Remote α) (s : Server) (key : Text) (patience : Except Fault Unit := .ok ()) : Except Fault (Option α) :=
  r.found "get" key (s.send patience fun s => (s.get (r.fullKey key), s)).1

/-- Puts a value under a key. -/
def set (r : Remote α) (s : Server) (key : Text) (value : α) (patience : Except Fault Unit := .ok ()) :
    Except Fault Unit × Server :=
  match r.codec.encode value with
  | .error t =>
    (.error (.during (utf8 "can't marshal item of type " ++ r.codec.typeName) (.reported t)), s)
  | .ok t =>
    match s.send patience fun s => s.set (r.fullKey key) t r.ttl with
    | (.ok (), s) => (.ok (), s)
    | (.error f, s) => (.error (.during (utf8 "redis set " ++ Text.quoted key) f), s)

/-- Drops a key and answers with the value it held. -/
def remove (r : Remote α) (s : Server) (key : Text) (patience : Except Fault Unit := .ok ()) :
    Except Fault (Option α) × Server :=
  let (t, s) := s.send patience fun s => s.getDel (r.fullKey key)
  (r.found "getdel" key t, s)

end Remote

end Roster.Cache
