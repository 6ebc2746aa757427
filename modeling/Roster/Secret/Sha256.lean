import Roster.Text.Basic

/-!
# SHA-256

The digest of a text: it is filled up to blocks of 64 bytes, and each block is mixed into eight words
of state in 64 rounds.
-/

namespace Roster.Sha256

/-- The round constants. -/
def constants : Array UInt32 :=
  #[0x428a2f98, 0x71374491, 0xb5c0fbcf, 0xe9b5dba5, 0x3956c25b, 0x59f111f1, 0x923f82a4, 0xab1c5ed5,
    0xd807aa98, 0x12835b01, 0x243185be, 0x550c7dc3, 0x72be5d74, 0x80deb1fe, 0x9bdc06a7, 0xc19bf174,
    0xe49b69c1, 0xefbe4786, 0x0fc19dc6, 0x240ca1cc, 0x2de92c6f, 0x4a7484aa, 0x5cb0a9dc, 0x76f988da,
    0x983e5152, 0xa831c66d, 0xb00327c8, 0xbf597fc7, 0xc6e00bf3, 0xd5a79147, 0x06ca6351, 0x14292967,
    0x27b70a85, 0x2e1b2138, 0x4d2c6dfc, 0x53380d13, 0x650a7354, 0x766a0abb, 0x81c2c92e, 0x92722c85,
    0xa2bfe8a1, 0xa81a664b, 0xc24b8b70, 0xc76c51a3, 0xd192e819, 0xd6990624, 0xf40e3585, 0x106aa070,
    0x19a4c116, 0x1e376c08, 0x2748774c, 0x34b0bcb5, 0x391c0cb3, 0x4ed8aa4a, 0x5b9cca4f, 0x682e6ff3,
    0x748f82ee, 0x78a5636f, 0x84c87814, 0x8cc70208, 0x90befffa, 0xa4506ceb, 0xbef9a3f7, 0xc67178f2]

/-- The eight words of state. -/
structure State where
  a : UInt32
  b : UInt32
  c : UInt32
  d : UInt32
  e : UInt32
  f : UInt32
  g : UInt32
  h : UInt32

/-- The state before the first block. -/
def initial : State :=
  ⟨0x6a09e667, 0xbb67ae85, 0x3c6ef372, 0xa54ff53a, 0x510e527f, 0x9b05688c, 0x1f83d9ab, 0x5be0cd19⟩

/-- A word turned to the right. -/
def turn (x : UInt32) (n : UInt32) : UInt32 := (x >>> n) ||| (x <<< (32 - n))

/-- A word from its bytes, the first the most significant. -/
def word (a b c d : UInt8) : UInt32 :=
  (a.toUInt32 <<< 24) ||| (b.toUInt32 <<< 16) ||| (c.toUInt32 <<< 8) ||| d.toUInt32

/-- The words of a text whose length is a multiple of four. -/
def words : Text → List UInt32
  | a :: b :: c :: d :: t => word a b c d :: words t
  | _ => []

/-- The bytes of a word. -/
def wordBytes (w : UInt32) : Text :=
  [(w >>> 24).toUInt8, (w >>> 16).toUInt8, (w >>> 8).toUInt8, w.toUInt8]

/-- Extends the sixteen words of a block by `n` more. -/
def schedule : Nat → Array UInt32 → Array UInt32
  | 0, w => w
  | n + 1, w =>
    let at' := fun back => w.getD (w.size - back) 0
    let x := at' 15
    let y := at' 2
    let s0 := turn x 7 ^^^ turn x 18 ^^^ (x >>> 3)
    let s1 := turn y 17 ^^^ turn y 19 ^^^ (y >>> 10)
    schedule n (w.push (at' 16 + s0 + at' 7 + s1))

/-- One round with a constant and a word of the schedule. -/
def round (s : State) (k w : UInt32) : State :=
  let s1 := turn s.e 6 ^^^ turn s.e 11 ^^^ turn s.e 25
  let choice := (s.e &&& s.f) ^^^ ((~~~ s.e) &&& s.g)
  let t1 := s.h + s1 + choice + k + w
  let s0 := turn s.a 2 ^^^ turn s.a 13 ^^^ turn s.a 22
  let majority := (s.a &&& s.b) ^^^ (s.a &&& s.c) ^^^ (s.b &&& s.c)
  ⟨t1 + (s0 + majority), s.a, s.b, s.c, s.d + t1, s.e, s.f, s.g⟩

/-- Mixes a block of sixteen words into the state. -/
def mix (s : State) (block : List UInt32) : State :=
  let w := schedule 48 block.toArray
  let t := (constants.zip w).foldl (fun s (k, w) => round s k w) s
  ⟨s.a + t.a, s.b + t.b, s.c + t.c, s.d + t.d, s.e + t.e, s.f + t.f, s.g + t.g, s.h + t.h⟩

/-- The text filled up to whole blocks: a one bit, zeros, and the length in bits in eight bytes. -/
def filled (t : Text) : Text :=
  let bits := (t.length * 8).toUInt64
  let zeros := (119 - t.length % 64) % 64
  t ++ (0x80 : UInt8) :: List.replicate zeros 0 ++ wordBytes (bits >>> 32).toUInt32 ++ wordBytes bits.toUInt32

/-- Mixes blocks of sixteen words one after the other; `fuel` bounds their number. -/
def mixAll : Nat → List UInt32 → State → State
  | 0, _, s => s
  | _, [], s => s
  | fuel + 1, ws, s => mixAll fuel (ws.drop 16) (mix s (ws.take 16))

/-- The digest of a text, 32 bytes. -/
def digest (t : Text) : Text :=
  let ws := words (filled t)
  let s := mixAll ws.length ws initial
  [s.a, s.b, s.c, s.d, s.e, s.f, s.g, s.h].flatMap wordBytes

/-- A key as one block: a long one is replaced by its digest, and it is filled up with zeros. -/
def keyBlock (key : Text) : Text :=
  let k := if key.length > 64 then digest key else key
  k ++ List.replicate (64 - k.length) 0

/-- The authentication code of a text under a key. -/
def authenticate (key t : Text) : Text :=
  let k := keyBlock key
  digest ((k.map (· ^^^ 0x5c)) ++ digest ((k.map (· ^^^ 0x36)) ++ t))

end Roster.Sha256
