import Mathlib.Data.Nat.Digits.Defs
import Roster.Proofs.RemoteCache
import Roster.Proofs.StoredUsers

/-!
# Ids as texts

An id is read from the path of a request and from the subject of a token, and it is written as the key of a cache and as the
subject of a token. The texts that are read are the sequences of decimal digits, and what they are read as is the number that
they denote in base ten (`Text.Denotes`), as far as it is an id. What is written is read back, so two ids never have the same
text.
-/

namespace Roster

namespace Text

/-! ## Digits and the numbers that they denote -/

/-- A text consists of decimal digits, one at least, and they denote a number. There may be zeros in front. -/
structure Denotes (t : Text) (n : Nat) : Prop where
  nonempty : t ≠ []
  digits : ∀ b ∈ t, byte '0' ≤ b ∧ b ≤ byte '9'
  value : Nat.ofDigits 10 (t.reverse.map fun b => (b - byte '0').toNat) = n

/-- The digits stand next to each other among the bytes. -/
theorem isDigit_iff {b : UInt8} : isDigit b = true ↔ byte '0' ≤ b ∧ b ≤ byte '9' := by
  rw [isDigit, Bool.and_eq_true, decide_eq_true_eq, decide_eq_true_eq]
  rfl

/-- The value of a digit does not wrap around. -/
theorem toNat_sub_zero {b : UInt8} (h : isDigit b = true) : (b - byte '0').toNat = b.toNat - 48 :=
  UInt8.toNat_sub_of_le b _ (isDigit_iff.mp h).1

/-- Reading digits from the left gives what they denote in base ten. -/
theorem valueFrom_eq_ofDigits {t : Text} (h : t.all isDigit = true) :
    valueFrom 0 t = Nat.ofDigits 10 (t.reverse.map fun b => (b - byte '0').toNat) := by
  have hdigits : t.reverse.map (fun b => (b - byte '0').toNat) = (t.map fun b => b.toNat - 48).reverse := by
    rw [List.map_reverse]
    refine congrArg List.reverse (List.map_congr_left fun b hb => ?_)
    exact toNat_sub_zero (List.all_eq_true.mp h b hb)
  rw [hdigits, Nat.ofDigits_eq_foldr, List.foldr_reverse, List.foldl_map, valueFrom]
  congr 1
  funext n b
  rw [Nat.mul_comm, Nat.add_comm]
  rfl

/-- Digits denote the number that they are read as from left to right. -/
theorem denotes_iff {t : Text} {n : Nat} : t.Denotes n ↔ t ≠ [] ∧ t.all isDigit = true ∧ valueFrom 0 t = n := by
  constructor
  · rintro ⟨hne, hdigits, hvalue⟩
    have hall : t.all isDigit = true := List.all_eq_true.mpr fun b hb => isDigit_iff.mpr (hdigits b hb)
    exact ⟨hne, hall, (valueFrom_eq_ofDigits hall).trans hvalue⟩
  · rintro ⟨hne, hall, hvalue⟩
    refine ⟨hne, fun b hb => isDigit_iff.mp (List.all_eq_true.mp hall b hb), ?_⟩
    rw [← valueFrom_eq_ofDigits hall, hvalue]

/-- Digits denote one number only. -/
theorem Denotes.unique {t : Text} {n k : Nat} (h : t.Denotes n) (h' : t.Denotes k) : n = k := h.value.symm.trans h'.value

/-- A text is read as a number exactly if it denotes it. -/
theorem toNat?_eq_some_iff {t : Text} {n : Nat} : toNat? t = some n ↔ t.Denotes n := by
  rw [denotes_iff, toNat?]
  split
  · rename_i hbad
    refine iff_of_false (Option.some_ne_none n).symm ?_
    rintro ⟨hne, hall, -⟩
    simp [hall, hne] at hbad
  · rename_i hgood
    obtain ⟨hne, hall⟩ : t ≠ [] ∧ t.all isDigit = true := by simpa using hgood
    rw [Option.some.injEq]
    exact ⟨fun hn => ⟨hne, hall, hn⟩, fun hn => hn.2.2⟩

/-- A number is written as a text that denotes it. -/
theorem denotes_decimal (n : Nat) : (decimal n).Denotes n := toNat?_eq_some_iff.mp (toNat?_decimal n)

/-! ## Reading within 64 bits -/

/-- Letters stand for ten and more. -/
theorem isDigit_of_digitValue? {b : UInt8} {d : Nat} (h : Numeral.digitValue? b = some d) (hd : d < 10) :
    isDigit b = true ∧ b.toNat - 48 = d := by
  have hletters : ∀ n : Fin 256, isLetter (UInt8.ofNat n) = true → 10 ≤ (lowerByte (UInt8.ofNat n)).toNat - 87 := by
    decide +kernel
  unfold Numeral.digitValue? at h
  split at h
  · rename_i hdigit
    exact ⟨hdigit, Option.some.inj h⟩
  · split at h
    · rename_i hletter
      have hlarge := hletters ⟨b.toNat, b.toNat_lt⟩
      rw [UInt8.ofNat_toNat, Option.some.inj h] at hlarge
      exact absurd hd (Nat.not_lt.mpr (hlarge hletter))
    · cases h

/-- A reader that gives up once the number is too large for 64 bits accepts digits only, and only such that denote a number
within 64 bits. -/
theorem of_digits_eq_ok {t : Text} {n k : Nat} (hn : n < Word.count) (h : Numeral.digits 10 false t n = .ok k) :
    t.all isDigit = true ∧ valueFrom n t = k ∧ k < Word.count := by
  induction t generalizing n with
  | nil => exact ⟨rfl, Except.ok.inj h, Except.ok.inj h ▸ hn⟩
  | cons b t ih =>
    rw [Numeral.digits, Bool.false_and, if_neg Bool.false_ne_true] at h
    cases hd : Numeral.digitValue? b with
    | none =>
      rw [hd] at h
      cases h
    | some d =>
      rw [hd] at h
      dsimp only at h
      split at h
      · cases h
      · rename_i hten
        split at h
        · cases h
        · rename_i hsmall
          obtain ⟨hdigit, rfl⟩ := isDigit_of_digitValue? hd (Nat.not_le.mp hten)
          obtain ⟨hall, hvalue, hk⟩ := ih (Nat.not_le.mp hsmall) h
          exact ⟨by rw [List.all_cons, hdigit, hall]; rfl, hvalue, hk⟩

/-- It accepts all of these, however many zeros there are in front. -/
theorem natural_eq_ok_iff {t : Text} {n : Nat} : Numeral.natural t = .ok n ↔ t.Denotes n ∧ n < Word.count := by
  have hzero : 0 < Word.count := by decide
  rw [Numeral.natural, Numeral.naturalIn, denotes_iff]
  split
  · rename_i hempty
    refine iff_of_false (fun h => ?_) fun h => h.1.1 (List.isEmpty_iff.mp hempty)
    cases h
  · rename_i hne
    have hne' : t ≠ [] := fun h => hne (List.isEmpty_iff.mpr h)
    constructor
    · intro h
      obtain ⟨hall, hvalue, hn⟩ := of_digits_eq_ok hzero h
      exact ⟨⟨hne', hall, hvalue⟩, hn⟩
    · rintro ⟨⟨-, hall, rfl⟩, hn⟩
      exact digits_eq_valueFrom hall hn

end Text

/-! ## Subjects of tokens -/

/-- A role is written into a token with its stray bytes replaced. -/
theorem Token.render_payload_repaired (role subject : Text) (now : Timestamp) :
    (payload role.repaired subject now).render = (payload role subject now).render := by
  have hstring : ∀ t, (Json.string t).render = Json.renderText t := fun _ => rfl
  have hobject : ∀ ms, (Json.object ms).render = Text.byte '\x7b' :: Json.renderMembers ms ++ [Text.byte '\x7d'] :=
    fun _ => rfl
  simp only [payload, hobject, Json.renderMembers_cons, hstring, Cache.Codec.renderText_repaired]

/-- The subject of a token that was issued for an id is the key of the id, whatever role it names. -/
theorem Token.subject_of_verify? {secret role : Text} {now later : Timestamp} {id : UInt64} {c : Claims}
    (h : verify? secret later (issue secret now role (User.key id)) = some c) : c.subject = User.key id := by
  have hrole : role.repaired.repaired = role.repaired := Text.repaired_ofChars _
  have hclaims := claims?_of_verify? algorithm?_header h
  rw [← render_payload_repaired] at hclaims
  exact (role_of_claims? hrole (Text.repaired_decimal id.toNat) hclaims).2

/-! ## Ids in paths -/

namespace Http

/-- A segment of a path is read as the id it denotes, or it denotes none that is in range and is refused. -/
theorem pathId_cases (t : Text) :
    (∃ n, t.Denotes n ∧ 1 ≤ n ∧ n ≤ User.maxId.toNat ∧ pathId t = .ok n.toUInt64) ∨
      (∀ n, t.Denotes n → ¬(1 ≤ n ∧ n ≤ User.maxId.toNat)) ∧ pathId t = .error .idOutOfRange := by
  cases hn : Text.toNat? t with
  | none =>
    refine .inr ⟨fun n h => ?_, by rw [pathId, hn]⟩
    rw [Text.toNat?_eq_some_iff.mpr h] at hn
    cases hn
  | some n =>
    have hdenotes := Text.toNat?_eq_some_iff.mp hn
    by_cases hrange : 1 ≤ n ∧ n ≤ User.maxId.toNat
    · exact .inl ⟨n, hdenotes, hrange.1, hrange.2, by simp [pathId, hn, hrange]⟩
    · refine .inr ⟨fun k h => h.unique hdenotes ▸ hrange, ?_⟩
      simp only [pathId, hn, Bool.and_eq_true, decide_eq_true_eq, if_neg hrange]

theorem maxId_eq : User.maxId.toNat = 2 ^ 63 - 1 := by decide

/-- A segment is read as an id exactly if it denotes it and it is in range. -/
theorem pathId_eq_ok_iff {t : Text} {id : UInt64} :
    pathId t = .ok id ↔ t.Denotes id.toNat ∧ 1 ≤ id.toNat ∧ id.toNat ≤ 2 ^ 63 - 1 := by
  rw [← maxId_eq]
  obtain ⟨n, hn, hone, hmax, hpath⟩ | ⟨hnone, hpath⟩ := pathId_cases t
  · have hword : n.toUInt64.toNat = n := UInt64.toNat_ofNat_of_lt (Nat.lt_of_le_of_lt hmax (by decide))
    rw [hpath, Except.ok.injEq]
    constructor
    · rintro rfl
      rw [hword]
      exact ⟨hn, hone, hmax⟩
    · rintro ⟨hid, -, -⟩
      rw [hn.unique hid]
      exact UInt64.ofNat_toNat
  · rw [hpath]
    exact iff_of_false nofun fun h => hnone _ h.1 h.2

/-- The id that a path names is read exactly.
1. A text is read as an id if it consists of decimal digits, one at least, and denotes the id, which is from 1 to the largest
   signed number of 64 bits. There is no bound on the length of the text.
2. A reader that gives up once the number is too large for 64 bits comes to the same.
3. Any other text is refused as invalid input.
4. The key of an id is read back as the id, from a path if it is in that range, and from the subject of a token in any case.
5. Distinct ids have distinct keys, and tokens that were issued for them, by whom and when and with whatever roles, have
   distinct subjects. -/
theorem path_ids_read_exactly :
    (∀ (t : Text) (id : UInt64), pathId t = .ok id ↔ t.Denotes id.toNat ∧ 1 ≤ id.toNat ∧ id.toNat ≤ 2 ^ 63 - 1) ∧
    (∀ (t : Text) (id : UInt64),
      pathId t = .ok id ↔ Numeral.natural t = .ok id.toNat ∧ 1 ≤ id.toNat ∧ id.toNat ≤ 2 ^ 63 - 1) ∧
    (∀ t : Text, (∀ n, t.Denotes n → n < 1 ∨ 2 ^ 63 - 1 < n) → ∃ f, pathId t = .error f ∧ f.has .invalidInput = true ∧
      f.message = utf8 "invalid input: id must be between 1 and 9223372036854775807") ∧
    (∀ id : UInt64, SignIn.readId? (User.key id) = some id ∧
      (1 ≤ id.toNat → id.toNat ≤ 2 ^ 63 - 1 → pathId (User.key id) = .ok id)) ∧
    ∀ i j : UInt64, i ≠ j → User.key i ≠ User.key j ∧
      ∀ (secret secret' role role' : Text) (now now' later later' : Timestamp) (c c' : Token.Claims),
        Token.verify? secret later (Token.issue secret now role (User.key i)) = some c →
        Token.verify? secret' later' (Token.issue secret' now' role' (User.key j)) = some c' →
        c.subject ≠ c'.subject := by
  refine ⟨fun t id => pathId_eq_ok_iff, fun t id => ?_, fun t hnone => ?_, fun id => ?_, fun i j hij => ?_⟩
  · rw [pathId_eq_ok_iff, Text.natural_eq_ok_iff]
    exact and_congr_left fun _ => (and_iff_left id.toNat_lt).symm
  · obtain ⟨n, hn, hone, hmax, -⟩ | ⟨-, hpath⟩ := pathId_cases t
    · rw [maxId_eq] at hmax
      have hout := hnone n hn
      omega
    · exact ⟨.idOutOfRange, hpath, rfl, by decide +kernel⟩
  · exact ⟨SignIn.readId?_key id, fun hone hmax => pathId_eq_ok_iff.mpr ⟨Text.denotes_decimal _, hone, hmax⟩⟩
  · have hkeys : User.key i ≠ User.key j := fun h => hij (User.key_injective h)
    refine ⟨hkeys, fun _ _ _ _ _ _ _ _ c c' hc hc' => ?_⟩
    rw [Token.subject_of_verify? hc, Token.subject_of_verify? hc']
    exact hkeys

/-- The largest id is read behind any number of zeros, and the number after it is refused. -/
theorem largest_id_read_behind_zeros :
    pathId (List.replicate 40 48 ++ utf8 "9223372036854775807") = .ok User.maxId ∧
      ∃ f, pathId "9223372036854775808" = .error f ∧ f.has .invalidInput = true := by
  obtain ⟨hread, -, hrefused, -⟩ := path_ids_read_exactly
  have hlargest : Text.Denotes (List.replicate 40 48 ++ utf8 "9223372036854775807") User.maxId.toNat :=
    Text.toNat?_eq_some_iff.mp (by decide +kernel)
  have hnext : Text.Denotes "9223372036854775808" (2 ^ 63) := Text.toNat?_eq_some_iff.mp (by decide +kernel)
  have hbeyond : ∀ n, Text.Denotes "9223372036854775808" n → n < 1 ∨ 2 ^ 63 - 1 < n := by
    intro n hn
    rw [hn.unique hnext]
    decide
  obtain ⟨f, hf, hinvalid, -⟩ := hrefused _ hbeyond
  exact ⟨(hread _ _).mpr ⟨hlargest, by decide, by decide⟩, f, hf, hinvalid⟩

end Http

end Roster
