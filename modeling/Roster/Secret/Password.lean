import Roster.Fault
import Roster.Text.Base64
import Roster.Secret.Blowfish

/-!
# Password hashes

A password is kept as a salted hash whose cost is part of it: raising the cost by one doubles the work
of computing it. A hash reads `$2a$`, two digits of cost, `$`, 22 digits of salt and 31 of hash, in a
base-64 alphabet of its own.

How passwords are hashed is a parameter of the services (`PasswordScheme`); `salted` is the scheme in
use.
-/

namespace Roster

/-- How passwords are turned into stored hashes, and how a password is compared with one. -/
structure PasswordScheme where
  hash : (salt password : Text) → Except Fault Text
  accepts : (stored password : Text) → Bool

namespace Password

/-- The base-64 alphabet of password hashes. -/
def alphabet : Text.Alphabet :=
  ⟨(utf8 "./ABCDEFGHIJKLMNOPQRSTUVWXYZabcdefghijklmnopqrstuvwxyz0123456789").toArray⟩

/-- The least and greatest cost, and the one taken in place of a lesser one. -/
def minCost : Int := 4

def maxCost : Int := 31

def defaultCost : Int := 10

/-- The longest password that is hashed. -/
def maxLength : Nat := 72

/-- The text that is encrypted with the key made from the password. -/
def magic : List UInt32 := [0x4f727068, 0x65616e42, 0x65686f6c, 0x64657253, 0x63727944, 0x6f756274]

/-- Encrypts a block `n` times over. -/
def encryptMany (t : Blowfish.Tables) : Nat → UInt32 → UInt32 → UInt32 × UInt32
  | 0, l, r => (l, r)
  | n + 1, l, r =>
    let (l, r) := Blowfish.encrypt t.keys t.boxes l r
    encryptMany t n l r

/-- Encrypts the words of a text 64 times over, pair by pair. -/
def encryptWords (t : Blowfish.Tables) : List UInt32 → List UInt32
  | l :: r :: rest =>
    let (l, r) := encryptMany t 64 l r
    l :: r :: encryptWords t rest
  | _ => []

/-- The bytes of a word. -/
def wordBytes (w : UInt32) : Text :=
  [(w >>> 24).toUInt8, (w >>> 16).toUInt8, (w >>> 8).toUInt8, w.toUInt8]

/-- The 31 hash digits of a password under a salt. The key is the password and a NUL, repeated as
long as needed; the last byte of the result is dropped. -/
def hashDigits (cost : Nat) (salt password : Text) : Text :=
  let key := (password ++ [0]).toArray
  let salt := salt.toArray
  let tables := Blowfish.expandMany key salt (Nat.pow 2 cost) (Blowfish.expand key salt Blowfish.initial)
  Text.toBase64 alphabet (((encryptWords tables magic).flatMap wordBytes).take 23)

/-- Whether a cost is allowed. -/
def allowed (cost : Int) : Bool := minCost ≤ cost && cost ≤ maxCost

/-- The stored form of a password. -/
def hash (cost : Int) (salt password : Text) : Except Fault Text :=
  if password.length > maxLength then .error .passwordLong
  else
    let cost := if cost < minCost then defaultCost else cost
    if !allowed cost then .error (.costOutOfRange cost)
    else
      .ok (utf8 "$2a$" ++ Text.padded 2 cost.toNat ++ utf8 "$" ++ Text.toBase64 alphabet salt
        ++ hashDigits cost.toNat salt password)

/-- A stored hash taken apart. -/
structure Stored where
  cost : Nat
  salt : Text
  digits : Text

/-- The value of two bytes as a number, which may have a sign. -/
def costOf : UInt8 → UInt8 → Option Nat
  | a, b =>
    if a == Text.byte '+' then Text.toNat? [b]
    else Text.toNat? [a, b]

/-- Takes a stored hash apart: a version that is not newer than `2`, an optional further byte of
version, the cost, the salt, the hash. Bytes after it are ignored. -/
def Stored.parse? (t : Text) : Option Stored := do
  if t.length < 59 then none
  else
    match t with
    | mark :: major :: minor :: rest =>
      if mark != Text.byte '$' || Text.byte '2' < major then none
      else
        let rest := if minor == Text.byte '$' then rest else rest.drop 1
        match rest with
        | x :: y :: _ :: rest =>
          let cost ← costOf x y
          if !allowed cost then none
          else
            let salt ← Text.ofBase64 alphabet (rest.take 22)
            if salt.length != 16 then none
            else some { cost, salt, digits := (rest.drop 22).take 31 }
        | _ => none
    | _ => none

/-- Whether a password belongs to a stored hash. -/
def accepts (stored password : Text) : Bool :=
  match Stored.parse? stored with
  | some s => hashDigits s.cost s.salt password == s.digits
  | none => false

/-- Salted hashes of a given cost. -/
def salted (cost : Int) : PasswordScheme := { hash := hash cost, accepts }

end Password

end Roster
