import Mathlib.Algebra.Group.Nat.Defs
import Mathlib.Algebra.Group.Int.Defs
import Roster.Proofs.Json
import Roster.Proofs.Tokens

/-!
# Issued tokens are read back

A token that is issued at a moment carries the role and the subject, and two dates as numbers of seconds. Numbers in tokens
are read as floating-point numbers; those of at most 53 bits are exact, so the dates come back as they were for millions of
years to come. Hence an issued token stands for its subject and its role exactly until it expires, a day after the second
in which it was issued.
-/

namespace Roster

/-! ## Texts in tokens -/

/-- A digit is an ASCII byte. -/
theorem Text.lt_of_isDigit {b : UInt8} (h : isDigit b = true) : b < 128 := by
  simp only [isDigit, Bool.and_eq_true, decide_eq_true_eq, UInt8.le_iff_toNat_le] at h
  rw [UInt8.lt_iff_toNat_lt]
  have := h.2
  simp at this ⊢
  omega

/-- A decimal number is valid UTF-8 already. -/
theorem Text.repaired_decimal (n : Nat) : (Text.decimal n).repaired = Text.decimal n :=
  Text.repaired_of_ascii fun b hb => Text.lt_of_isDigit (List.all_eq_true.mp (Text.all_isDigit_decimal n) b hb)

/-- The name of a role is valid UTF-8 already. -/
theorem Role.name_repaired (r : Role) : r.name.repaired = r.name := by
  cases r <;> exact Text.repaired_ofChars _

namespace Decimal

/-! ## Integers as floating-point numbers -/

/-- A whole number is not rounded. -/
theorem roundDiv_one (n : Nat) : roundDiv n 1 = n := by
  simp [roundDiv, Nat.mod_one]

/-- The exponent of a whole number is the place of its highest bit. -/
theorem exponent2_one {n : Nat} (hn : n ≠ 0) : exponent2 n 1 = n.log2 := by
  have hlog : Nat.pow 2 n.log2 ≤ n := Nat.log2_self_le hn
  have hone : Nat.log2 1 = 0 := by decide
  have hreached : ((n.log2 : Int) - (0 : Nat)).toNat = n.log2 := by omega
  simp only [exponent2, hone, hreached, Nat.one_mul]
  rw [if_pos (by rw [if_pos (by omega)]; exact hlog)]
  omega

/-- The significand of a whole number of at most 53 bits, shifted to the full width. -/
theorem scaled_bounds {n : Nat} (hn : n ≠ 0) (h : n < 2 ^ 53) :
    n.log2 ≤ 52 ∧ 2 ^ 52 ≤ n * 2 ^ (52 - n.log2) ∧ n * 2 ^ (52 - n.log2) < 2 ^ 53 := by
  have hlog : n.log2 < 53 := (Nat.log2_lt hn).mpr h
  have hlow : 2 ^ n.log2 ≤ n := Nat.log2_self_le hn
  have hhigh : n < 2 ^ (n.log2 + 1) := Nat.lt_log2_self
  have hpos : 0 < 2 ^ (52 - n.log2) := Nat.two_pow_pos _
  refine ⟨by omega, ?_, ?_⟩
  · calc 2 ^ 52 = 2 ^ n.log2 * 2 ^ (52 - n.log2) := by rw [← Nat.pow_add]; congr 1; omega
      _ ≤ n * 2 ^ (52 - n.log2) := Nat.mul_le_mul_right _ hlow
  · calc n * 2 ^ (52 - n.log2) < 2 ^ (n.log2 + 1) * 2 ^ (52 - n.log2) := Nat.mul_lt_mul_of_pos_right hhigh hpos
      _ = 2 ^ 53 := by rw [← Nat.pow_add]; congr 1; omega

/-- A whole number below 2^53 is shifted until its highest bit is the hidden one; nothing is rounded away. -/
theorem nearestBits_nat {n : Nat} (hn : n ≠ 0) (h : n < 2 ^ 53) :
    nearestBits n 1 = (n.log2 + 1023) * 2 ^ 52 + (n * 2 ^ (52 - n.log2) - 2 ^ 52) := by
  obtain ⟨hlog, hlow, hhigh⟩ := scaled_bounds hn h
  have he : max (-1074) (exponent2 n 1 - 52) = (n.log2 : Int) - 52 := by
    rw [exponent2_one hn]
    omega
  have hq : (if (n.log2 : Int) - 52 ≥ 0 then roundDiv n (1 * Nat.pow 2 ((n.log2 : Int) - 52).toNat)
      else roundDiv (n * Nat.pow 2 (-((n.log2 : Int) - 52)).toNat) 1) = n * 2 ^ (52 - n.log2) := by
    split
    · have : ((n.log2 : Int) - 52).toNat = 0 := by omega
      have hsub : 52 - n.log2 = 0 := by omega
      rw [this, hsub]
      show roundDiv n 1 = n * 1
      rw [roundDiv_one, Nat.mul_one]
    · have : (-((n.log2 : Int) - 52)).toNat = 52 - n.log2 := by omega
      rw [this, roundDiv_one]
      rfl
  have hzero : (n == 0) = false := by simpa using hn
  have hfull : ((n * 2 ^ (52 - n.log2)) == Nat.pow 2 53) = false := by
    rw [beq_eq_false_iff_ne]
    exact Nat.ne_of_lt hhigh
  have hnormal : ¬n * 2 ^ (52 - n.log2) < Nat.pow 2 52 := Nat.not_lt.mpr hlow
  simp only [nearestBits, hzero, Bool.false_eq_true, if_false, he, hq]
  rw [if_neg hnormal]
  simp only [hfull, Bool.false_eq_true, if_false]
  have hbiased : ((n.log2 : Int) - 52 + 1075).toNat = n.log2 + 1023 := by omega
  rw [hbiased, if_neg (by omega)]
  rfl

/-- A decimal without an exponent is the nearest number to itself. -/
theorem decimalBits_nat {n : Nat} (hn : n ≠ 0) : decimalBits n 0 = nearestBits n 1 := by
  have hsmall : ¬(n == 0 || (0 : Int) + (n.log2 : Int) < -1500) = true := by
    simp only [Bool.or_eq_true, beq_iff_eq, decide_eq_true_eq]
    omega
  unfold decimalBits
  rw [if_neg hsmall, if_neg (by decide), if_pos (by decide)]
  show nearestBits (n * 1) 1 = nearestBits n 1
  rw [Nat.mul_one]

theorem ofBits_eq (bits : Nat) : Binary.ofBits bits = if bits < 2 ^ 52 then Binary.scaled bits (-1074)
    else Binary.scaled (bits % 2 ^ 52 + 2 ^ 52) ((bits / 2 ^ 52 : Nat) - 1075) := rfl

/-- The bits of a whole number of at most 53 bits stand for it. -/
theorem ofBits_nearestBits {n : Nat} (hn : n ≠ 0) (h : n < 2 ^ 53) :
    Binary.ofBits (nearestBits n 1) = ⟨n * 2 ^ (52 - n.log2), 2 ^ (52 - n.log2)⟩ := by
  obtain ⟨hlog, hlow, hhigh⟩ := scaled_bounds hn h
  rw [nearestBits_nat hn h]
  generalize n * 2 ^ (52 - n.log2) = q at hlow hhigh
  have hlarge : ¬(n.log2 + 1023) * 2 ^ 52 + (q - 2 ^ 52) < 2 ^ 52 := by omega
  have hmod : ((n.log2 + 1023) * 2 ^ 52 + (q - 2 ^ 52)) % 2 ^ 52 + 2 ^ 52 = q := by omega
  have hdiv : ((n.log2 + 1023) * 2 ^ 52 + (q - 2 ^ 52)) / 2 ^ 52 = n.log2 + 1023 := by omega
  have hup : (((n.log2 + 1023 : Nat) : Int) - 1075).toNat = 0 := by omega
  have hdown : (-(((n.log2 + 1023 : Nat) : Int) - 1075)).toNat = 52 - n.log2 := by omega
  rw [ofBits_eq, if_neg hlarge, hmod, hdiv, Binary.scaled, hup, hdown]
  show Binary.mk (q * 1) _ = _
  rw [Nat.mul_one]
  rfl

/-- A whole number of at most 53 bits is a finite floating-point number with nothing after the point. -/
theorem ofBits_decimalBits {n : Nat} (h : n < 2 ^ 53) :
    (Binary.ofBits (decimalBits n 0)).whole = n ∧ (Binary.ofBits (decimalBits n 0)).restTimes 1000000000 = 0 ∧
      decimalBits n 0 < infinityBits := by
  by_cases hn : n = 0
  · subst hn
    have hzero : (Binary.ofBits (decimalBits 0 0)).dividend = 0 := Nat.zero_mul _
    refine ⟨?_, ?_, by decide⟩
    · rw [Binary.whole, hzero, Nat.zero_div]
    · rw [Binary.restTimes, hzero, Nat.zero_mod, Nat.zero_mul]
      rfl
  · rw [decimalBits_nat hn, ofBits_nearestBits hn h]
    have hpos : 0 < 2 ^ (52 - n.log2) := Nat.two_pow_pos _
    refine ⟨Nat.mul_div_cancel n hpos, ?_, ?_⟩
    · simp only [Binary.restTimes, Nat.mul_mod_left, Nat.zero_mul]
      rfl
    · obtain ⟨hlog, hlow, hhigh⟩ := scaled_bounds hn h
      rw [nearestBits_nat hn h]
      show _ < 2047 * 2 ^ 52
      omega

/-! ## Literals of integers -/

/-- A decimal number is digits to its end. -/
theorem takeWhile_decimal (n : Nat) :
    (Text.decimal n).takeWhile Text.isDigit = Text.decimal n ∧ (Text.decimal n).dropWhile Text.isDigit = [] := by
  have h := Json.takeDigits (Text.all_isDigit_decimal n) Json.ends_nil
  rwa [List.append_nil] at h

/-- The numeral of an integer. -/
def Numeral.ofInt (n : Int) : Numeral :=
  { negative := decide (n < 0), whole := Text.decimal n.natAbs, fraction := [], exponent := 0 }

/-- The literal of an integer is read as a numeral without fraction and exponent. -/
theorem numeral?_decimalInt (n : Int) : numeral? (Text.decimalInt n) = some (.ofInt n) := by
  obtain ⟨htake, hdrop⟩ := takeWhile_decimal n.natAbs
  have hsign : takeSign (Text.decimalInt n) = (decide (n < 0), Text.decimal n.natAbs) := by
    cases n with
    | ofNat n =>
      obtain ⟨b, t, hn, hb, -⟩ := Text.decimal_cons n
      have hminus : ¬b = Text.byte '-' := by
        rintro rfl
        revert hb
        decide
      have hplus : ¬b = Text.byte '+' := by
        rintro rfl
        revert hb
        decide
      show takeSign (Text.decimal n) = (false, Text.decimal n)
      rw [hn]
      simp only [takeSign, beq_iff_eq, hminus, hplus, if_false]
    | negSucc n =>
      rw [decide_eq_true (Int.negSucc_lt_zero n)]
      rfl
  simp only [numeral?, hsign, htake, hdrop, takeFraction, Text.isEmpty_decimal, Bool.false_and, Bool.false_eq_true, if_false]
  rfl

/-- The bits of a numeral for a whole number are those of its absolute value. -/
theorem bits_ofInt (n : Int) : (Numeral.ofInt n).bits = decimalBits n.natAbs 0 := by
  simp only [Numeral.bits, Numeral.ofInt, List.append_nil, Text.toNat?_decimal, Option.getD_some]
  rfl

/-- A whole number below 2^53 is not rounded to infinity. -/
theorem isFinite_ofInt {n : Int} (h : n.natAbs < 2 ^ 53) : (Numeral.ofInt n).isFinite = true := by
  rw [Numeral.isFinite, bits_ofInt]
  exact decide_eq_true (ofBits_decimalBits h).2.2

end Decimal

namespace Token

/-! ## Dates -/

/-- A whole number below 2^53 is read as that many seconds, with nothing after the point. -/
theorem wholeSeconds_ofInt {n : Int} (h : n.natAbs < 2 ^ 53) : wholeSeconds (.ofInt n) = (n, false) := by
  obtain ⟨hwhole, hrest, -⟩ := Decimal.ofBits_decimalBits h
  have hsigned : (if (Decimal.Numeral.ofInt n).negative then -(n.natAbs : Int) else n.natAbs) = n := by
    by_cases hn : n < 0
    · rw [if_pos (show (Decimal.Numeral.ofInt n).negative = true from decide_eq_true hn)]
      omega
    · rw [if_neg (show ¬(Decimal.Numeral.ofInt n).negative = true from fun h => hn (of_decide_eq_true h))]
      omega
  have hrange : (-(Word.half : Int) ≤ n && n < (Word.half : Int)) = true := by
    simp only [Bool.and_eq_true, decide_eq_true_eq, Word.half]
    omega
  have hbelow : (Decimal.oneBits ≤ 0) = False := by decide
  simp only [wholeSeconds, Decimal.bits_ofInt, hwhole, hrest, hsigned, hrange, if_true, hbelow, decide_false, Bool.and_false]

/-- A number that fits into 64 bits is not wrapped around. -/
theorem wrap_of_fits {n : Int} (hlow : -2 ^ 63 ≤ n) (hhigh : n < 2 ^ 63) : wrap n = n := by
  unfold wrap
  exact Int.bmod_eq_of_le (by simp only [Word.count]; omega) (by simp only [Word.count]; omega)

/-- A whole number below 2^53 is read as the date that many seconds after the epoch. -/
theorem dateOf_ofInt {n : Int} (h : n.natAbs < 2 ^ 53) : dateOf (.ofInt n) = n + Timestamp.unixEpoch := by
  rw [dateOf, wholeSeconds_ofInt h]
  show wrap (n + Timestamp.unixEpoch) = _
  exact wrap_of_fits (by simp only [Timestamp.unixEpoch]; omega) (by simp only [Timestamp.unixEpoch]; omega)

/-- A date that is a finite number replaces the one read before. -/
theorem readDate_of_isFinite {n : Int} (h : (Decimal.Numeral.ofInt n).isFinite = true) (old : Option Int) :
    readDate old (.int n) = .ok (some (dateOf (.ofInt n))) := by
  have hread := Json.number_decimalInt n Json.ends_nil
  rw [List.append_nil] at hread
  have hnumber : isNumber (Text.decimalInt n) = true := by rw [isNumber, hread]
  show (if isNumber (Text.decimalInt n) then _ else _) = _
  rw [if_pos hnumber, Decimal.numeral?_decimalInt, Option.filter_some, if_pos h]

/-- A number of seconds that is exact as a floating-point number is read as the date it means. -/
theorem readDate_int {n : Int} (h : n.natAbs < 2 ^ 53) (old : Option Int) :
    readDate old (.int n) = .ok (some (n + Timestamp.unixEpoch)) := by
  rw [readDate_of_isFinite (Decimal.isFinite_ofInt h), dateOf_ofInt h]

/-! ## The claims of an issued token -/

/-- A moment whose dates are exact as floating-point numbers of seconds, as those of a token have to be: within some 285
million years of 1970. -/
def Datable (now : Timestamp) : Prop := -2 ^ 53 < now.unix ∧ (now.add lifetime).unix < 2 ^ 53

instance (now : Timestamp) : Decidable (Datable now) := inferInstanceAs (Decidable (_ ∧ _))

/-- A token lives for a day, in whole seconds. -/
theorem unix_add_lifetime (now : Timestamp) : (now.add lifetime).unix = now.unix + 86400 := by
  simp only [Timestamp.unix, Timestamp.add, lifetime]
  have : (24 * Span.hour : Int) = 86400 * Span.second := by decide
  rw [this, Int.add_mul_ediv_right _ _ (by decide)]
  omega

/-- The header of issued tokens names the algorithm. -/
theorem algorithm?_header : algorithm? header.render = some algorithm := by
  decide +kernel

/-- The payload of a token is written as it is, if role and subject are valid UTF-8. -/
theorem clean_payload {role subject : Text} (hrole : role.repaired = role) (hsubject : subject.repaired = subject)
    (now : Timestamp) : (payload role subject now).Clean :=
  ⟨Text.repaired_ofChars _, hrole, Text.repaired_ofChars _, hsubject, Text.repaired_ofChars _, ⟨_, rfl⟩,
    Text.repaired_ofChars _, ⟨_, rfl⟩, trivial⟩

/-- The claims of a payload are those it was written with, its dates as they are read. -/
theorem claims?_payload_of_dates {role subject : Text} (hrole : role.repaired = role) (hsubject : subject.repaired = subject)
    {now : Timestamp} {expires issued : Option Int} (hexp : readDate none (.int (now.add lifetime).unix) = .ok expires)
    (hiat : readDate none (.int now.unix) = .ok issued) :
    claims? (payload role subject now).render = some { role, subject, expires, issued } := by
  have hmembers : Json.readMembers fields {} [("role", .string role), ("sub", .string subject),
      ("exp", .int (now.add lifetime).unix), ("iat", .int now.unix)] = .ok { role, subject, expires, issued } := by
    rw [Json.readMembers_found rfl rfl, Json.readMembers_found rfl rfl,
      Json.readMembers_found rfl (congrArg (Except.map _) hexp), Json.readMembers_found rfl (congrArg (Except.map _) hiat)]
    rfl
  rw [claims?, Json.decode, Json.parse_render (clean_payload hrole hsubject now)
    (by simp [payload, Json.height, Json.heightMembers, Json.Parse.maxDepth, Json.int])]
  show ((Json.readMembers fields {} _).mapError _).toOption = _
  rw [hmembers]
  rfl

/-- The claims of a token issued at a moment. -/
def issued (role subject : Text) (now : Timestamp) : Claims :=
  { role, subject, expires := some ((now.add lifetime).unix + Timestamp.unixEpoch)
    issued := some (now.unix + Timestamp.unixEpoch) }

/-- The claims of a payload issued at a datable moment are those it was issued with. -/
theorem claims?_payload {role subject : Text} (hrole : role.repaired = role) (hsubject : subject.repaired = subject)
    {now : Timestamp} (h : Datable now) : claims? (payload role subject now).render = some (issued role subject now) := by
  obtain ⟨hlow, hhigh⟩ := h
  have hadd := unix_add_lifetime now
  exact claims?_payload_of_dates hrole hsubject (readDate_int (by omega) none) (readDate_int (by omega) none)

/-- The moment from which on a token issued at a moment is no longer good: a day after the full second. -/
def expiry (now : Timestamp) : Instant := now.instant / Span.second * Span.second + lifetime

/-- An issued token is timely exactly until it expires. -/
theorem timely_issued (role subject : Text) (now now' : Timestamp) :
    timely now' (issued role subject now) = decide (now'.instant < expiry now) := by
  have hexpiry : ((now.add lifetime).unix + Timestamp.unixEpoch) * Span.second = expiry now := by
    rw [unix_add_lifetime, Timestamp.unix, expiry]
    have : lifetime = 86400 * Span.second := by decide
    rw [this, ← Int.add_mul]
    congr 1
    omega
  simp only [timely, issued, Option.all_some, Option.all_none, Bool.and_true, hexpiry]

/-- An issued token is accepted until it expires. -/
theorem verify?_issue {role subject : Text} (hrole : role.repaired = role) (hsubject : subject.repaired = subject)
    {now : Timestamp} (h : Datable now) (secret : Text) (now' : Timestamp) :
    verify? secret now' (issue secret now role subject) =
      if now'.instant < expiry now then some (issued role subject now) else none := by
  rw [issue, verify?_sign_eq algorithm?_header (claims?_payload hrole hsubject h), timely_issued]
  simp only [decide_eq_true_eq]

end Token

namespace SignIn

/-- The subject of a token is read back as the id it was made from. -/
theorem readId?_key (id : UInt64) : readId? (User.key id) = some id := by
  rw [readId?, User.key, Text.toNat?_decimal]
  dsimp only
  rw [if_pos id.toNat_lt]
  exact congrArg some (UInt64.ofNat_toNat)

/-- A token issued for a user stands for the user and its role until it expires. -/
theorem identity?_issue (s : SignIn) {now : Timestamp} (h : Token.Datable now) (id : UInt64) (role : Role)
    (now' : Timestamp) : s.identity? now' (Token.issue s.secret now role.name (User.key id)) =
      if now'.instant < Token.expiry now then some ⟨id, role⟩ else none := by
  have hkey : (User.key id).repaired = User.key id := Text.repaired_decimal id.toNat
  rw [identity?, Token.verify?_issue role.name_repaired hkey h]
  split
  · simp [Token.issued, readId?_key, Role.parse?_name]
  · rfl

end SignIn

end Roster
