import Roster.User
import Roster.Text.Quoted

/-!
# Faults

Why an operation fails. A fault names its cause; its message is derived from it. Outer operations
wrap the fault of an inner one and say what they were doing.

A fault belongs to any number of kinds: a store's fault keeps the kinds of what it wraps.
-/

namespace Roster

/-- The kinds of faults that callers tell apart. -/
inductive Kind where
  | invalidInput
  | notFound
  | unauthorized
  | forbidden
  | database
  | canceled
  | deadlineExceeded
deriving DecidableEq, Repr

namespace Kind

/-- Every kind, the most telling first. -/
def all : List Kind :=
  [.invalidInput, .notFound, .unauthorized, .forbidden, .database, .canceled, .deadlineExceeded]

/-- The words that start or make up a message of this kind. -/
def label : Kind → Text
  | .invalidInput => "invalid input"
  | .notFound => "not found"
  | .unauthorized => "unauthorized"
  | .forbidden => "forbidden"
  | .database => "database error"
  | .canceled => "context canceled"
  | .deadlineExceeded => "context deadline exceeded"

end Kind

/-- Why an operation failed. -/
inductive Fault where
  /-- A text is not a role. -/
  | roleUnknown (text : Text)
  /-- There are no users to group. -/
  | usersEmpty
  /-- A batch names no user. -/
  | idsEmpty
  /-- An id is zero or too large. -/
  | idOutOfRange
  /-- An id is too large for the table that should hold it. -/
  | idTooLarge (id : UInt64)
  /-- A user lacks a name or an email. -/
  | detailsMissing
  /-- A password has fewer bytes than the least allowed. -/
  | passwordShort
  /-- A request body cannot be decoded. -/
  | bodyMalformed
  /-- Fields of a request body break the rules named beside them. -/
  | fieldsInvalid (fields : List (Text × Text))
  /-- No user is stored under an id. -/
  | userAbsent (id : UInt64)
  /-- A fetcher knows no user with an id. -/
  | fetchAbsent (id : UInt64)
  /-- None of the users of a batch was found. -/
  | nobodyFound
  /-- The caller is not known. -/
  | unauthorized
  /-- The caller is known and may not do this. -/
  | forbidden
  /-- The caller gave up. -/
  | canceled
  /-- The time for the operation is over. -/
  | deadlineExceeded
  /-- A password has more bytes than can be hashed. -/
  | passwordLong
  /-- The work factor for hashing is out of its range. -/
  | costOutOfRange (cost : Int)
  /-- Text reported by something outside: a driver, a server, an encoder. -/
  | reported (text : Text)
  /-- A store failed. -/
  | store (cause : Fault)
  /-- An operation failed while doing something. -/
  | during (activity : Text) (cause : Fault)
deriving DecidableEq, Repr, Inhabited

namespace Fault

/-- The least number of bytes of a password. -/
def minPasswordLength : Nat := 8

/-- Whether a fault is of a kind. -/
def has (k : Kind) : Fault → Bool
  | roleUnknown _ | usersEmpty | idsEmpty | idOutOfRange | idTooLarge _ | detailsMissing
  | passwordShort | bodyMalformed | fieldsInvalid _ => k == .invalidInput
  | userAbsent _ | fetchAbsent _ | nobodyFound => k == .notFound
  | unauthorized => k == .unauthorized
  | forbidden => k == .forbidden
  | canceled => k == .canceled
  | deadlineExceeded => k == .deadlineExceeded
  | passwordLong | costOutOfRange _ | reported _ => false
  | store cause => k == .database || cause.has k
  | during _ cause => cause.has k

/-- The most telling kind of a fault, if it has one. -/
def kind? (f : Fault) : Option Kind := Kind.all.find? fun k => f.has k

/-- A kind's label, a colon and a detail. -/
def labelled (k : Kind) (detail : Text) : Text := k.label ++ utf8 ": " ++ detail

/-- The full text of a fault. -/
def message : Fault → Text
  | roleUnknown t => labelled .invalidInput (utf8 "unknown role " ++ Text.quoted t)
  | usersEmpty => labelled .invalidInput "empty user list"
  | idsEmpty => labelled .invalidInput "empty user id list"
  | idOutOfRange =>
    labelled .invalidInput (utf8 "id must be between 1 and " ++ Text.decimal User.maxId.toNat)
  | idTooLarge id =>
    labelled .invalidInput
      (utf8 "id " ++ Text.decimal id.toNat ++ utf8 " exceeds " ++ Text.decimal User.maxId.toNat)
  | detailsMissing => labelled .invalidInput "name and email are required"
  | passwordShort =>
    labelled .invalidInput
      (utf8 "password must be at least " ++ Text.decimal minPasswordLength ++ utf8 " characters")
  | bodyMalformed => labelled .invalidInput "invalid request body"
  | fieldsInvalid fields =>
    labelled .invalidInput (Text.join (utf8 ", ") (fields.map fun (field, rule) =>
      field ++ utf8 " failed " ++ Text.quoted rule))
  | userAbsent id =>
    labelled .notFound (utf8 "user with id " ++ Text.decimal id.toNat ++ utf8 " not found")
  | fetchAbsent id => labelled .notFound (utf8 "user " ++ Text.decimal id.toNat ++ utf8 " not found")
  | nobodyFound => labelled .notFound "no users found"
  | unauthorized => Kind.unauthorized.label
  | forbidden => Kind.forbidden.label
  | canceled => Kind.canceled.label
  | deadlineExceeded => Kind.deadlineExceeded.label
  | passwordLong => "bcrypt: password length exceeds 72 bytes"
  | costOutOfRange c =>
    utf8 "crypto/bcrypt: cost " ++ Text.decimalInt c ++ utf8 " is outside allowed inclusive range 4..31"
  | reported t => t
  | store cause => labelled .database cause.message
  | during activity cause => activity ++ utf8 ": " ++ cause.message

end Fault

/-- The role with the given text, or the fault that it is none. -/
def Role.parse (t : Text) : Except Fault Role :=
  match Role.parse? t with
  | some r => .ok r
  | none => .error (.roleUnknown t)

end Roster
