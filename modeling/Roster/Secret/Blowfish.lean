import Roster.Text.Basic
import Roster.Secret.PiTable

/-!
# The password cipher

A block cipher on pairs of 32-bit words whose tables depend on a key. Setting up the tables is
deliberately slow, which is what makes it fit for passwords.
-/

namespace Roster.Blowfish

/-- Round keys and tables; the four tables stand one after the other. -/
structure Tables where
  keys : Array UInt32
  boxes : Array UInt32

/-- The tables before any key. -/
def initial : Tables := ⟨piKeys, piTables⟩

/-- The four table entries selected by the bytes of a word, combined. -/
@[inline]
def scramble (boxes : Array UInt32) (x : UInt32) : UInt32 :=
  ((boxes.getD (x >>> 24).toNat 0 + boxes.getD (256 + ((x >>> 16) &&& 0xFF).toNat) 0)
      ^^^ boxes.getD (512 + ((x >>> 8) &&& 0xFF).toNat) 0)
    + boxes.getD (768 + (x &&& 0xFF).toNat) 0

/-- `n` double rounds, starting with round key `i`. -/
def rounds (keys boxes : Array UInt32) : Nat → Nat → UInt32 → UInt32 → UInt32 × UInt32
  | 0, _, l, r => (l, r)
  | n + 1, i, l, r =>
    let r := r ^^^ scramble boxes l ^^^ keys.getD i 0
    let l := l ^^^ scramble boxes r ^^^ keys.getD (i + 1) 0
    rounds keys boxes n (i + 2) l r

/-- Encrypts one block. -/
def encrypt (keys boxes : Array UInt32) (l r : UInt32) : UInt32 × UInt32 :=
  let (l, r) := rounds keys boxes 8 1 (l ^^^ keys.getD 0 0) r
  (r ^^^ keys.getD 17 0, l)

/-- A word from four bytes of a cyclic text, from place `i` on. -/
def cyclicWord (t : Array UInt8) (i : Nat) : UInt32 :=
  let b := fun k => (t.getD ((i + k) % t.size) 0).toUInt32
  (b 0 <<< 24) ||| (b 1 <<< 16) ||| (b 2 <<< 8) ||| b 3

/-- Adds a cyclic key to the round keys. -/
def addKey (key : Array UInt8) (keys : Array UInt32) : Array UInt32 :=
  keys.mapIdx fun i k => k ^^^ cyclicWord key (4 * i)

/-- Replaces `n` pairs of round keys from place `i` on by successive encryptions of a block, to which
the words of a salt are added first. -/
def refillKeys (salt : Array UInt8) (boxes : Array UInt32) :
    Nat → Nat → UInt32 → UInt32 → Array UInt32 → Array UInt32 × UInt32 × UInt32
  | 0, _, l, r, keys => (keys, l, r)
  | n + 1, i, l, r, keys =>
    let l := l ^^^ cyclicWord salt (4 * i)
    let r := r ^^^ cyclicWord salt (4 * i + 4)
    let (l, r) := encrypt keys boxes l r
    refillKeys salt boxes n (i + 2) l r ((keys.setIfInBounds i l).setIfInBounds (i + 1) r)

/-- Replaces `n` pairs of table entries from place `i` on in the same way; the salt goes on where the
round keys left it. -/
def refillBoxes (salt : Array UInt8) (keys : Array UInt32) :
    Nat → Nat → UInt32 → UInt32 → Array UInt32 → Array UInt32
  | 0, _, _, _, boxes => boxes
  | n + 1, i, l, r, boxes =>
    let l := l ^^^ cyclicWord salt (4 * (18 + i))
    let r := r ^^^ cyclicWord salt (4 * (18 + i) + 4)
    let (l, r) := encrypt keys boxes l r
    refillBoxes salt keys n (i + 2) l r ((boxes.setIfInBounds i l).setIfInBounds (i + 1) r)

/-- Works a key and a salt into the tables. An empty salt adds nothing. -/
def expand (key salt : Array UInt8) (t : Tables) : Tables :=
  let keys := addKey key t.keys
  let (keys, l, r) := refillKeys salt t.boxes 9 0 0 0 keys
  ⟨keys, refillBoxes salt keys 512 0 l r t.boxes⟩

/-- Works a key and then a salt into the tables, `n` times over. -/
def expandMany (key salt : Array UInt8) : Nat → Tables → Tables
  | 0, t => t
  | n + 1, t => expandMany key salt n (expand salt #[] (expand key #[] t))

end Roster.Blowfish
