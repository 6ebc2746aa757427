import Roster.Decimal.Read
import Roster.Json.Parse
import Roster.Text.Fold
import Roster.Time.Timestamp
import Roster.Word

/-!
# Decoding JSON into records

Readers that take a JSON value to a value of a given type. A null leaves the target as it was.
Members of an object are matched to fields by name, exactly or else up to case; unknown members are
skipped and the last of several wins. The first value of the wrong type is the error.
-/

namespace Roster.Json

/-- Why a JSON value does not fit its target. -/
inductive DecodeError where
  | syntaxError (e : SyntaxError)
  /-- A value of the wrong type, found at a path of keys and places; `record` names the type of the whole if
  it is a record. -/
  | mismatch (found : Text) (record : Text) (path : List Text) (type : Text)
  /-- A text that is not a timestamp. -/
  | timestamp (e : Timestamp.ReadError)
deriving Repr

/-- How messages name the target at a path. -/
def targetName (record : Text) (path : List Text) : Text :=
  let place := Text.join (utf8 ".") path
  if place.isEmpty then "Go value"
  else (if record.isEmpty then [] else utf8 "Go struct field " ++ record) ++ utf8 "." ++ place

/-- The message of a refused value. -/
def DecodeError.message : DecodeError → Text
  | .syntaxError e => e.message
  | .mismatch found record path type =>
    utf8 "json: cannot unmarshal " ++ found ++ utf8 " into " ++ targetName record path ++ utf8 " of type "
      ++ type
  | .timestamp e => e.message

/-- A reader of a value of type `α`, given what stands in its place so far. -/
abbrev Reader (α : Type) := α → Json → Except DecodeError α

/-- The error of a value of the wrong type. -/
def mismatch {α : Type} (v : Json) (type : Text) : Except DecodeError α :=
  .error (.mismatch v.kindName [] [] type)

/-- Reads a text. -/
def readText : Reader Text := fun old v =>
  match v with
  | .null => .ok old
  | .string t => .ok t
  | v => mismatch v "string"

/-- Reads a truth value. -/
def readBool : Reader Bool := fun old v =>
  match v with
  | .null => .ok old
  | .bool b => .ok b
  | v => mismatch v "bool"

/-- Reads a truth value that may be absent. -/
def readBool? : Reader (Option Bool) := fun _ v =>
  match v with
  | .null => .ok none
  | .bool b => .ok (some b)
  | v => mismatch v "bool"

/-- The error of a number that the type cannot hold. -/
def outOfRange {α : Type} (literal type : Text) : Except DecodeError α :=
  .error (.mismatch (utf8 "number " ++ literal) [] [] type)

/-- Says of a mismatch that it was met inside of something, at a key or a place. -/
def DecodeError.inside (step : Text) : DecodeError → DecodeError
  | .mismatch found record path type => .mismatch found record (step :: path) type
  | e => e

/-- Says of a mismatch which kind of record the whole is. -/
def DecodeError.ofRecord (record : Text) : DecodeError → DecodeError
  | .mismatch found _ path type => .mismatch found record path type
  | e => e

/-- Reads an unsigned integer of 64 bits, written without fraction and exponent. -/
def readUInt64 : Reader UInt64 := fun old v =>
  match v with
  | .null => .ok old
  | .number literal =>
    match Text.toNat? literal with
    | some n => if n < Word.count then .ok n.toUInt64 else outOfRange literal "uint64"
    | none => outOfRange literal "uint64"
  | v => mismatch v "uint64"

/-- The integer that a literal without fraction and exponent denotes. -/
def integer? : Text → Option Int
  | [] => none
  | b :: t =>
    if b == Text.byte '-' then (Text.toNat? t).map fun n => -(n : Int)
    else (Text.toNat? (b :: t)).map Int.ofNat

/-- Reads a signed integer of 64 bits, written without fraction and exponent. -/
def readInt64 : Reader Int := fun old v =>
  match v with
  | .null => .ok old
  | .number literal =>
    match integer? literal with
    | some n => if -Word.half ≤ n && n < Word.half then .ok n else outOfRange literal "int"
    | none => outOfRange literal "int"
  | v => mismatch v "int"

/-- The floating-point number of a literal, unless it is too large. -/
def finite? (literal : Text) : Option Float :=
  match Decimal.numeral? literal with
  | some n => if n.isFinite then some n.toFloat else none
  | none => none

/-- Reads a floating-point number. -/
def readFloat : Reader Float := fun old v =>
  match v with
  | .null => .ok old
  | .number literal =>
    match finite? literal with
    | some x => .ok x
    | none => outOfRange literal "float64"
  | v => mismatch v "float64"

/-- Reads a timestamp. -/
def readTimestamp : Reader Timestamp := fun old v =>
  match v with
  | .null => .ok old
  | .string t =>
    match Timestamp.parse t with
    | .ok ts => .ok ts
    | .error e => .error (.timestamp e)
  | v => mismatch v "time.Time"

/-- Reads the items of an array from place `i` on one by one, each onto the old item in its place. -/
def readItems {α : Type} (blank : α) (read : Reader α) :
    Nat → List α → List Json → Except DecodeError (List α)
  | _, _, [] => .ok []
  | i, olds, v :: vs => do
    let x ← (read (olds.headD blank) v).mapError (DecodeError.inside (Text.decimal i))
    let xs ← readItems blank read (i + 1) olds.tail vs
    pure (x :: xs)

/-- Reads a list that may be absent; `type` names it in messages. -/
def readList? {α : Type} (type : Text) (blank : α) (read : Reader α) : Reader (Option (List α)) :=
  fun old v =>
    match v with
    | .null => .ok none
    | .array vs => ((readItems blank read 0 (old.getD []) vs).mapError (DecodeError.ofRecord [])).map some
    | v => mismatch v type

/-- A named part of a record and how it is read from JSON. -/
structure Field (σ : Type) where
  name : Text
  read : Reader σ

/-- A field given by how to get it from a record and how to put it there. -/
def Field.of {σ α : Type} (name : Text) (get : σ → α) (put : σ → α → σ) (read : Reader α) : Field σ :=
  { name, read := fun s v => (read (get s) v).map (put s) }

/-- The field that a member's key names: exactly, or else up to case. -/
def Field.find? {σ : Type} (fields : List (Field σ)) (key : Text) : Option (Field σ) :=
  (fields.find? fun f => f.name == key).or (fields.find? fun f => Text.equalFold f.name key)

/-- Reads the members of an object into a record. -/
def readMembers {σ : Type} (fields : List (Field σ)) (s : σ) : List (Text × Json) → Except DecodeError σ
  | [] => .ok s
  | (key, v) :: rest =>
    match Field.find? fields key with
    | none => readMembers fields s rest
    | some f =>
      match f.read s v with
      | .ok s => readMembers fields s rest
      | .error e => .error (e.inside key)

/-- Reads an object into a record; `type` names the record's type in messages, `record` the record
in messages about its fields. -/
def readRecord {σ : Type} (type record : Text) (fields : List (Field σ)) : Reader σ := fun s v =>
  match v with
  | .null => .ok s
  | .object members => (readMembers fields s members).mapError (DecodeError.ofRecord record)
  | v => mismatch v type

/-- Reads a whole text. -/
def decode {α : Type} (read : Reader α) (blank : α) (t : Text) : Except DecodeError α :=
  match parse t with
  | .ok v => read blank v
  | .error e => .error (.syntaxError e)

/-- Reads the first value of a text. -/
def decodeFirst {α : Type} (read : Reader α) (blank : α) (t : Text) : Except DecodeError α :=
  match parseFirst t with
  | .ok (v, _) => read blank v
  | .error e => .error (.syntaxError e)

end Roster.Json
