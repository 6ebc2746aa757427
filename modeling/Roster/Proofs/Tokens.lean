import Roster.SignIn
import Mathlib.Data.List.Basic

/-!
# Signed tokens are read back

A text is recovered from its base-64 digits, and the digits hold no dot, so a signed token falls into the three parts it was
made of. Whether a token with a valid signature is accepted depends on its header, its claims and the moment only.
-/

namespace Roster

namespace Text

/-! ## Base 64 -/

/-- The six-bit values that a text is written with. -/
def sixes : Text → List Nat
  | x :: y :: z :: t =>
    let n := x.toNat * 65536 + y.toNat * 256 + z.toNat
    n / 262144 :: n / 4096 % 64 :: n / 64 % 64 :: n % 64 :: sixes t
  | [x, y] =>
    let n := x.toNat * 1024 + y.toNat * 4
    [n / 4096, n / 64 % 64, n % 64]
  | [x] => [x.toNat * 16 / 64, x.toNat * 16 % 64]
  | [] => []

/-- The digits of a text are those of its six-bit values. -/
theorem toBase64_eq (a : Alphabet) (t : Text) : toBase64 a t = (sixes t).map a.digit := by
  induction t using sixes.induct with
  | case1 x y z t ih => simp [toBase64, sixes, ih]
  | case2 x y => simp [toBase64, sixes]
  | case3 x => simp [toBase64, sixes]
  | case4 => rfl

/-- Six bits make values below 64. -/
theorem sixes_lt (t : Text) : ∀ n ∈ sixes t, n < 64 := by
  induction t using sixes.induct with
  | case1 x y z t ih =>
    have hx := x.toNat_lt
    have hy := y.toNat_lt
    have hz := z.toNat_lt
    simp only [sixes, List.mem_cons]
    rintro m (rfl | rfl | rfl | rfl | hm)
    · omega
    · omega
    · omega
    · omega
    · exact ih m hm
  | case2 x y =>
    have hx := x.toNat_lt
    have hy := y.toNat_lt
    simp only [sixes, List.mem_cons, List.not_mem_nil, or_false]
    rintro m (rfl | rfl | rfl) <;> omega
  | case3 x =>
    have hx := x.toNat_lt
    simp only [sixes, List.mem_cons, List.not_mem_nil, or_false]
    rintro m (rfl | rfl) <;> omega
  | case4 => simp [sixes]

theorem toUInt8_eq {n : Nat} {x : UInt8} (h : n = x.toNat) : n.toUInt8 = x := by
  rw [h]
  exact UInt8.ofNat_toNat

/-- The six-bit values of a text give the text back. -/
theorem ofSixes_sixes (t : Text) : ofSixes (sixes t) = some t := by
  induction t using sixes.induct with
  | case1 x y z t ih =>
    have hx := x.toNat_lt
    have hy := y.toNat_lt
    have hz := z.toNat_lt
    simp only [sixes, ofSixes, ih, Option.map_some, Option.some.injEq, List.cons.injEq]
    exact ⟨toUInt8_eq (by omega), toUInt8_eq (by omega), toUInt8_eq (by omega), trivial⟩
  | case2 x y =>
    have hx := x.toNat_lt
    have hy := y.toNat_lt
    simp only [sixes, ofSixes, Option.some.injEq, List.cons.injEq]
    exact ⟨toUInt8_eq (by omega), toUInt8_eq (by omega), trivial⟩
  | case3 x =>
    have hx := x.toNat_lt
    simp only [sixes, ofSixes, Option.some.injEq, List.cons.injEq]
    exact ⟨toUInt8_eq (by omega), trivial⟩
  | case4 => rfl

/-- A digit is read back as its value. -/
theorem value?_digit : ∀ n < 64, Alphabet.url.value? (Alphabet.url.digit n) = some n := by
  decide +kernel

/-- No digit is a line end or a dot. -/
theorem digit_plain : ∀ n < 64, Alphabet.url.digit n ≠ 10 ∧ Alphabet.url.digit n ≠ 13 ∧ Alphabet.url.digit n ≠ Token.dot := by
  decide +kernel

/-- Digits are read back as their values. -/
theorem mapM_digit {l : List Nat} (h : ∀ n ∈ l, n < 64) : (l.map Alphabet.url.digit).mapM Alphabet.url.value? = some l := by
  induction l with
  | nil => rfl
  | cons n l ih =>
    have hn := value?_digit n (h n (List.mem_cons_self))
    have hl := ih fun m hm => h m (List.mem_cons_of_mem n hm)
    rw [List.map_cons, List.mapM_cons, hn, hl]
    rfl

/-- A text is recovered from its digits. -/
theorem ofBase64_toBase64 (t : Text) : ofBase64 .url (toBase64 .url t) = some t := by
  have hplain : (toBase64 .url t).filter (fun b => b != 10 && b != 13) = toBase64 .url t := by
    rw [List.filter_eq_self]
    intro b hb
    rw [toBase64_eq] at hb
    obtain ⟨n, hn, rfl⟩ := List.mem_map.mp hb
    obtain ⟨h10, h13, -⟩ := digit_plain n (sixes_lt t n hn)
    simp [h10, h13]
  rw [ofBase64, hplain, toBase64_eq, mapM_digit (sixes_lt t)]
  exact ofSixes_sixes t

/-- The digits of a text hold no dot. -/
theorem dot_notMem_toBase64 (t : Text) : Token.dot ∉ toBase64 .url t := by
  intro h
  rw [toBase64_eq] at h
  obtain ⟨n, hn, hd⟩ := List.mem_map.mp h
  exact (digit_plain n (sixes_lt t n hn)).2.2 hd

/-! ## Pieces -/

/-- A text without the byte is one piece. -/
theorem split_of_notMem {b : UInt8} {t : Text} (h : b ∉ t) : split b t = [t] := by
  induction t with
  | nil => rfl
  | cons a t ih =>
    obtain ⟨ha, ht⟩ := not_or.mp (mt List.mem_cons.mpr h)
    simp [split, Ne.symm ha, ih ht]

/-- The first piece is what stands before the first such byte. -/
theorem split_append {b : UInt8} {t : Text} (h : b ∉ t) (rest : Text) : split b (t ++ b :: rest) = t :: split b rest := by
  induction t with
  | nil => simp [split]
  | cons a t ih =>
    obtain ⟨ha, ht⟩ := not_or.mp (mt List.mem_cons.mpr h)
    simp [split, Ne.symm ha, ih ht]

end Text

namespace Token

/-- A signed token falls into the parts it was made of. -/
theorem split_sign (secret header payload : Text) :
    Text.split dot (sign secret header payload) =
      [Text.toBase64 .url header, Text.toBase64 .url payload,
        Text.toBase64 .url (Sha256.authenticate secret
          (Text.toBase64 .url header ++ dot :: Text.toBase64 .url payload))] := by
  rw [sign, List.append_assoc, List.cons_append, Text.split_append (Text.dot_notMem_toBase64 header),
    Text.split_append (Text.dot_notMem_toBase64 payload), Text.split_of_notMem (Text.dot_notMem_toBase64 _)]

/-- A token signed with the secret, whose header names the algorithm and whose claims can be read, is accepted at those
moments at which the claims hold. -/
theorem verify?_sign_eq {secret header payload : Text} {c : Claims} (hheader : algorithm? header = some algorithm)
    (hpayload : claims? payload = some c) (now : Timestamp) :
    verify? secret now (sign secret header payload) = if timely now c then some c else none := by
  rw [verify?, split_sign]
  simp [Text.ofBase64_toBase64, hheader, hpayload]

/-- A token signed with the secret is accepted if its header names the algorithm, its claims can be read, and they hold at
the moment. -/
theorem verify?_sign {secret header payload : Text} {now : Timestamp} {c : Claims} (hheader : algorithm? header = some algorithm)
    (hpayload : claims? payload = some c) (htimely : timely now c = true) :
    verify? secret now (sign secret header payload) = some c := by
  rw [verify?_sign_eq hheader hpayload, if_pos htimely]

end Token

/-! ## Identities -/

/-- The name of a role is read back as the role. -/
theorem Role.parse?_name (r : Role) : Role.parse? r.name = some r := by
  cases r <;> decide

/-- Only the name of a role is read as it. -/
theorem Role.name_of_parse? {t : Text} {r : Role} (h : Role.parse? t = some r) : t = r.name := by
  have := List.find?_some h
  exact (eq_of_beq this).symm

/-- A signed token stands for the id and the role in its claims, if it is timely. -/
theorem SignIn.identity?_sign {s : SignIn} {header payload : Text} {now : Timestamp} {c : Token.Claims} {id : UInt64}
    {role : Role} (hheader : Token.algorithm? header = some Token.algorithm) (hpayload : Token.claims? payload = some c)
    (htimely : Token.timely now c = true) (hid : readId? c.subject = some id) (hrole : Role.parse? c.role = some role) :
    s.identity? now (Token.sign s.secret header payload) = some ⟨id, role⟩ := by
  rw [identity?, Token.verify?_sign hheader hpayload htimely]
  simp [hid, hrole]

end Roster
