import Roster.Proofs.IssuedTokens

/-!
# A token is good when it is issued

The dates of a token are read as floating-point numbers, so those beyond 53 bits come back rounded. A number of at most 63 bits
is off by no more than 1024, which is little compared with the day that a token lasts. Hence a token stands for its subject
and its role at the moment of its issue, however far that is from 1970, as long as 64 bits can count the seconds.
-/

namespace Roster

namespace Decimal

/-! ## Rounded integers -/

theorem roundDiv_bounds (num den : Nat) : num / den ≤ roundDiv num den ∧ roundDiv num den ≤ num / den + 1 := by
  unfold roundDiv
  dsimp only
  split
  · omega
  · split
    · omega
    · split <;> omega

/-- Rounding a quotient changes the number by one divisor at most. -/
theorem roundDiv_mul_bounds (num : Nat) {den : Nat} (hden : 0 < den) :
    num ≤ roundDiv num den * den + den ∧ roundDiv num den * den ≤ num + den := by
  obtain ⟨hlow, hhigh⟩ := roundDiv_bounds num den
  have hfloor : num / den * den ≤ num := Nat.div_mul_le_self num den
  have hceil : num < num / den * den + den := Nat.lt_div_mul_add hden
  have hlow' : num / den * den ≤ roundDiv num den * den := Nat.mul_le_mul_right den hlow
  have hhigh' : roundDiv num den * den ≤ (num / den + 1) * den := Nat.mul_le_mul_right den hhigh
  rw [Nat.add_mul, Nat.one_mul] at hhigh'
  omega

/-- The significand of a whole number of 53 bits or more, before a carry. -/
theorem significand_bounds {n e : Nat} (hn : n ≠ 0) (he : n.log2 = e + 52) :
    2 ^ 52 ≤ roundDiv n (2 ^ e) ∧ roundDiv n (2 ^ e) ≤ 2 ^ 53 := by
  obtain ⟨hlow, hhigh⟩ := roundDiv_bounds n (2 ^ e)
  have hpos : 0 < 2 ^ e := Nat.two_pow_pos e
  have hfloor : 2 ^ 52 ≤ n / 2 ^ e := by
    rw [Nat.le_div_iff_mul_le hpos, ← Nat.pow_add, Nat.add_comm, ← he]
    exact Nat.log2_self_le hn
  have hceil : n / 2 ^ e < 2 ^ 53 := by
    rw [Nat.div_lt_iff_lt_mul hpos, ← Nat.pow_add]
    have hlt : n < 2 ^ (n.log2 + 1) := Nat.lt_log2_self
    rw [he] at hlt
    rwa [show 53 + e = e + 52 + 1 by omega]
  omega

/-- The bits with a significand and an exponent that leaves nothing after the point. -/
theorem ofBits_integer {q e : Nat} (hlow : 2 ^ 52 ≤ q) (hhigh : q < 2 ^ 53) :
    Binary.ofBits ((e + 1075) * 2 ^ 52 + (q - 2 ^ 52)) = ⟨q * 2 ^ e, 1⟩ := by
  have hlarge : ¬(e + 1075) * 2 ^ 52 + (q - 2 ^ 52) < 2 ^ 52 := by omega
  have hmod : ((e + 1075) * 2 ^ 52 + (q - 2 ^ 52)) % 2 ^ 52 + 2 ^ 52 = q := by omega
  have hdiv : ((e + 1075) * 2 ^ 52 + (q - 2 ^ 52)) / 2 ^ 52 = e + 1075 := by omega
  have hup : (((e + 1075 : Nat) : Int) - 1075).toNat = e := by omega
  have hdown : (-(((e + 1075 : Nat) : Int) - 1075)).toNat = 0 := by omega
  rw [ofBits_eq, if_neg hlarge, hmod, hdiv, Binary.scaled, hup, hdown]
  rfl

/-- A whole number of 54 to 63 bits is rounded to a multiple of the weight of its last significant bit. -/
theorem ofBits_nearestBits_large {n e : Nat} (he : n.log2 = e + 52) (hpos : 0 < e) (hsmall : e ≤ 10) :
    Binary.ofBits (nearestBits n 1) = ⟨roundDiv n (2 ^ e) * 2 ^ e, 1⟩ ∧ nearestBits n 1 < infinityBits := by
  have hn : n ≠ 0 := by
    rintro rfl
    simp at he
  obtain ⟨hlow, hhigh⟩ := significand_bounds hn he
  have hexp : max (-1074) (exponent2 n 1 - 52) = (e : Int) := by
    rw [exponent2_one hn]
    omega
  have hzero : (n == 0) = false := by simpa using hn
  have hsig : (if (e : Int) ≥ 0 then roundDiv n (1 * Nat.pow 2 (e : Int).toNat)
      else roundDiv (n * Nat.pow 2 (-(e : Int)).toNat) 1) = roundDiv n (2 ^ e) := by
    rw [if_pos (by omega), Nat.one_mul]
    rfl
  have hnormal : ¬roundDiv n (2 ^ e) < Nat.pow 2 52 := Nat.not_lt.mpr hlow
  simp only [nearestBits, hzero, Bool.false_eq_true, if_false, hexp, hsig]
  rw [if_neg hnormal]
  by_cases hcarry : roundDiv n (2 ^ e) = 2 ^ 53
  · -- The significand is rounded up to the next power of two, which is written with the next exponent.
    have hbiased : ((e : Int) + 1 + 1075).toNat = (e + 1) + 1075 := by omega
    have hfull : (2 ^ 53 == Nat.pow 2 53) = true := by decide
    have hdouble : 2 ^ 52 * 2 ^ (e + 1) = 2 ^ 53 * 2 ^ e := by omega
    simp only [hcarry, hfull, if_true]
    rw [hbiased, if_neg (by omega), ← hdouble]
    refine ⟨ofBits_integer (Nat.le_refl _) (by decide), ?_⟩
    show _ < 2047 * 2 ^ 52
    simp only [Nat.pow_eq]
    omega
  · have hbiased : ((e : Int) + 1075).toNat = e + 1075 := by omega
    have hfull : (roundDiv n (2 ^ e) == Nat.pow 2 53) = false := beq_eq_false_iff_ne.mpr hcarry
    simp only [hfull, Bool.false_eq_true, if_false]
    rw [hbiased, if_neg (by omega)]
    refine ⟨ofBits_integer hlow (by omega), ?_⟩
    show _ < 2047 * 2 ^ 52
    simp only [Nat.pow_eq]
    omega

/-- A whole number of at most 63 bits is read as a finite one with nothing after the point, at most 1024 away. -/
theorem ofBits_decimalBits_near {n : Nat} (h : n < 2 ^ 63) :
    n ≤ (Binary.ofBits (decimalBits n 0)).whole + 1024 ∧ (Binary.ofBits (decimalBits n 0)).whole ≤ n + 1024 ∧
      (Binary.ofBits (decimalBits n 0)).restTimes 1000000000 = 0 ∧ decimalBits n 0 < infinityBits := by
  by_cases hsmall : n < 2 ^ 53
  · obtain ⟨hwhole, hrest, hfinite⟩ := ofBits_decimalBits hsmall
    rw [hwhole]
    exact ⟨by omega, by omega, hrest, hfinite⟩
  · have hn : n ≠ 0 := by omega
    have hlow : 53 ≤ n.log2 := (Nat.le_log2 hn).mpr (Nat.not_lt.mp hsmall)
    have hhigh : n.log2 < 63 := (Nat.log2_lt hn).mpr h
    obtain ⟨e, he⟩ : ∃ e, n.log2 = e + 52 := ⟨n.log2 - 52, by omega⟩
    obtain ⟨hbits, hfinite⟩ := ofBits_nearestBits_large he (by omega) (by omega)
    have hweight : 2 ^ e ≤ 2 ^ 10 := Nat.pow_le_pow_right (by decide) (by omega)
    obtain ⟨hunder, hover⟩ := roundDiv_mul_bounds n (Nat.two_pow_pos e)
    have hwhole : (Binary.mk (roundDiv n (2 ^ e) * 2 ^ e) 1).whole = roundDiv n (2 ^ e) * 2 ^ e := Nat.div_one _
    rw [decimalBits_nat hn, hbits, hwhole]
    refine ⟨by omega, by omega, ?_, hfinite⟩
    rw [Binary.restTimes, Nat.mod_one, Nat.zero_mul]
    rfl

end Decimal

namespace Token

/-! ## Rounded dates -/

theorem wholeSeconds_ofInt_near {n : Int} (h : n.natAbs < 2 ^ 63 - 1024) :
    ∃ x, wholeSeconds (.ofInt n) = (x, false) ∧ (x - n).natAbs ≤ 1024 := by
  obtain ⟨hlow, hhigh, hrest, -⟩ := Decimal.ofBits_decimalBits_near (show n.natAbs < 2 ^ 63 by omega)
  have hbelow : (Decimal.oneBits ≤ 0) = False := by decide
  have hrange (y : Int) (hy : y.natAbs < 2 ^ 63) : (-(Word.half : Int) ≤ y && y < (Word.half : Int)) = true := by
    simp only [Bool.and_eq_true, decide_eq_true_eq, Word.half]
    omega
  simp only [wholeSeconds, Decimal.bits_ofInt, hrest, hbelow, decide_false, Bool.and_false]
  refine ⟨_, rfl, ?_⟩
  generalize (Decimal.Binary.ofBits (Decimal.decimalBits n.natAbs 0)).whole = x at hlow hhigh
  by_cases hn : n < 0
  · rw [if_pos (show (Decimal.Numeral.ofInt n).negative = true from decide_eq_true hn), if_pos (hrange _ (by omega))]
    omega
  · rw [if_neg (show ¬(Decimal.Numeral.ofInt n).negative = true from fun h => hn (of_decide_eq_true h)),
      if_pos (hrange _ (by omega))]
    omega

/-- A number of seconds is read as a date at most 1024 seconds from the one it means. -/
theorem readDate_int_near {n : Int} (h : n.natAbs < 2 ^ 63 - 2 ^ 37) (old : Option Int) :
    ∃ d, readDate old (.int n) = .ok (some d) ∧ (d - (n + Timestamp.unixEpoch)).natAbs ≤ 1024 := by
  obtain ⟨x, hx, hnear⟩ := wholeSeconds_ofInt_near (show n.natAbs < 2 ^ 63 - 1024 by omega)
  have hfinite : (Decimal.Numeral.ofInt n).isFinite = true := by
    rw [Decimal.Numeral.isFinite, Decimal.bits_ofInt]
    exact decide_eq_true (Decimal.ofBits_decimalBits_near (show n.natAbs < 2 ^ 63 by omega)).2.2.2
  have hdate : dateOf (.ofInt n) = x + Timestamp.unixEpoch := by
    rw [dateOf, hx]
    show wrap (x + Timestamp.unixEpoch) = _
    exact wrap_of_fits (by simp only [Timestamp.unixEpoch]; omega) (by simp only [Timestamp.unixEpoch]; omega)
  refine ⟨x + Timestamp.unixEpoch, ?_, by omega⟩
  rw [readDate_of_isFinite hfinite, hdate]

/-- A token is accepted at the moment of its issue, with the role and the subject it was issued for. -/
theorem verify?_issue_at_once {role subject : Text} (hrole : role.repaired = role) (hsubject : subject.repaired = subject)
    {now : Timestamp} (h : now.unix.natAbs < 2 ^ 62) (secret : Text) :
    ∃ c, verify? secret now (issue secret now role subject) = some c ∧ c.role = role ∧ c.subject = subject := by
  have hadd := unix_add_lifetime now
  obtain ⟨expires, hexp, hnear⟩ := readDate_int_near (show (now.add lifetime).unix.natAbs < 2 ^ 63 - 2 ^ 37 by omega) none
  obtain ⟨issued, hiat, -⟩ := readDate_int_near (show now.unix.natAbs < 2 ^ 63 - 2 ^ 37 by omega) none
  refine ⟨{ role, subject, expires := some expires, issued := some issued }, ?_, rfl, rfl⟩
  rw [issue, verify?_sign_eq algorithm?_header (claims?_payload_of_dates hrole hsubject hexp hiat), if_pos]
  have hunix : now.unix = now.instant / Span.second - Timestamp.unixEpoch := rfl
  -- The date is off by less than a day.
  have hlater : now.instant < expires * Span.second := (Int.ediv_lt_iff_lt_mul (by decide)).mp (by omega)
  simp only [timely, Option.all_some, Option.all_none, Bool.and_true, hlater, decide_true]

end Token

/-- A token issued for a user stands for the user and its role at once. -/
theorem SignIn.identity?_issue_at_once (s : SignIn) {now : Timestamp} (h : now.unix.natAbs < 2 ^ 62) (id : UInt64) (role : Role) :
    s.identity? now (Token.issue s.secret now role.name (User.key id)) = some ⟨id, role⟩ := by
  have hkey : (User.key id).repaired = User.key id := Text.repaired_decimal id.toNat
  obtain ⟨c, hc, hrole, hsubject⟩ := Token.verify?_issue_at_once role.name_repaired hkey h s.secret
  rw [identity?, hc]
  simp [hrole, hsubject, readId?_key, Role.parse?_name]

end Roster
