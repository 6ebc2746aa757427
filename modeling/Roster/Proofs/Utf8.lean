import Roster.Text.Rune

/-!
# Encoded characters are read back

A text is read rune by rune. Reading the encoding of a character gives the character and goes on after its bytes, so every
sequence of characters is recovered from its encoding. The other way round, a text in which only characters are read is their
encoding.
-/

namespace Roster.Text

/-! ## The first rune, by its width -/

/-- The bytes that may follow the first one of a character. -/
theorem isTrail_iff (b : UInt8) : isTrail b = true ↔ 0x80 ≤ b.toNat ∧ b.toNat ≤ 0xBF := by
  simp only [isTrail, Bool.and_eq_true, decide_eq_true_eq, UInt8.le_iff_toNat_le]
  rfl

section FirstRune

variable {a b c d : UInt8} (t : Text)

/-- A byte below 128 is a character by itself. -/
theorem firstRune_one (h : a.toNat < 0x80) : firstRune a t = (.char (Char.ofNat a.toNat), 0) := by
  unfold firstRune
  rw [if_pos (UInt8.lt_iff_toNat_lt.mpr h)]

/-- Two bytes that encode a character are read as it. -/
theorem firstRune_two (ha : 0xC2 ≤ a.toNat ∧ a.toNat ≤ 0xDF) (hb : isTrail b = true) :
    firstRune a (b :: t) = (.char (Char.ofNat ((a.toNat - 0xC0) * 64 + (b.toNat - 0x80))), 1) := by
  have h1 : ¬a < 0x80 := by rw [UInt8.lt_iff_toNat_lt]; simp; omega
  have h2 : (0xC2 ≤ a && a ≤ 0xDF) = true := by
    simp only [Bool.and_eq_true, decide_eq_true_eq, UInt8.le_iff_toNat_le]
    exact ha
  unfold firstRune
  rw [if_neg h1, if_pos h2]
  simp only [hb, if_true]

/-- Three bytes that encode a character are read as it: none that would fit into two, and no surrogate. -/
theorem firstRune_three (ha : 0xE0 ≤ a.toNat ∧ a.toNat ≤ 0xEF) (hb : isTrail b = true) (hc : isTrail c = true)
    (hlow : a.toNat = 0xE0 → 0xA0 ≤ b.toNat) (hhigh : a.toNat = 0xED → b.toNat ≤ 0x9F) :
    firstRune a (b :: c :: t) =
      (.char (Char.ofNat ((a.toNat - 0xE0) * 4096 + (b.toNat - 0x80) * 64 + (c.toNat - 0x80))), 2) := by
  have h1 : ¬a < 0x80 := by rw [UInt8.lt_iff_toNat_lt]; simp; omega
  have h2 : ¬(0xC2 ≤ a && a ≤ 0xDF) = true := by
    simp only [Bool.and_eq_true, decide_eq_true_eq, UInt8.le_iff_toNat_le]
    simp
    omega
  have h3 : (0xE0 ≤ a && a ≤ 0xEF) = true := by
    simp only [Bool.and_eq_true, decide_eq_true_eq, UInt8.le_iff_toNat_le]
    exact ha
  have hb' := (isTrail_iff b).mp hb
  have h4 : ((if a == 0xE0 then 0xA0 else 0x80 : UInt8) ≤ b && b ≤ (if a == 0xED then 0x9F else 0xBF : UInt8)) = true := by
    simp only [Bool.and_eq_true, decide_eq_true_eq, UInt8.le_iff_toNat_le, beq_iff_eq, ← UInt8.toNat_inj]
    constructor
    · split
      · rename_i h
        exact hlow h
      · exact hb'.1
    · split
      · rename_i h
        exact hhigh h
      · exact hb'.2
  unfold firstRune
  rw [if_neg h1, if_neg h2, if_pos h3]
  simp only [h4, hc, Bool.and_true, if_true]

/-- Four bytes that encode a character are read as it: none that would fit into three, and none beyond the last. -/
theorem firstRune_four (ha : 0xF0 ≤ a.toNat ∧ a.toNat ≤ 0xF4) (hb : isTrail b = true) (hc : isTrail c = true)
    (hd : isTrail d = true) (hlow : a.toNat = 0xF0 → 0x90 ≤ b.toNat) (hhigh : a.toNat = 0xF4 → b.toNat ≤ 0x8F) :
    firstRune a (b :: c :: d :: t) =
      (.char (Char.ofNat ((a.toNat - 0xF0) * 262144 + (b.toNat - 0x80) * 4096 + (c.toNat - 0x80) * 64
        + (d.toNat - 0x80))), 3) := by
  have h1 : ¬a < 0x80 := by rw [UInt8.lt_iff_toNat_lt]; simp; omega
  have h2 : ¬(0xC2 ≤ a && a ≤ 0xDF) = true := by
    simp only [Bool.and_eq_true, decide_eq_true_eq, UInt8.le_iff_toNat_le]
    simp
    omega
  have h3 : ¬(0xE0 ≤ a && a ≤ 0xEF) = true := by
    simp only [Bool.and_eq_true, decide_eq_true_eq, UInt8.le_iff_toNat_le]
    simp
    omega
  have h4 : (0xF0 ≤ a && a ≤ 0xF4) = true := by
    simp only [Bool.and_eq_true, decide_eq_true_eq, UInt8.le_iff_toNat_le]
    exact ha
  have hb' := (isTrail_iff b).mp hb
  have h5 : ((if a == 0xF0 then 0x90 else 0x80 : UInt8) ≤ b && b ≤ (if a == 0xF4 then 0x8F else 0xBF : UInt8)) = true := by
    simp only [Bool.and_eq_true, decide_eq_true_eq, UInt8.le_iff_toNat_le, beq_iff_eq, ← UInt8.toNat_inj]
    constructor
    · split
      · rename_i h
        exact hlow h
      · exact hb'.1
    · split
      · rename_i h
        exact hhigh h
      · exact hb'.2
  unfold firstRune
  rw [if_neg h1, if_neg h2, if_neg h3, if_pos h4]
  simp only [h5, hc, hd, Bool.and_true, if_true]

end FirstRune

/-- The rune at the front of an encoded character is the character, and takes all of its bytes. -/
theorem firstRune_encode (c : Char) (t : Text) :
    ∃ a rest, String.utf8EncodeChar c = a :: rest ∧ firstRune a (rest ++ t) = (.char c, rest.length) := by
  have hv : c.val.toNat < 0xD800 ∨ 0xDFFF < c.val.toNat ∧ c.val.toNat < 0x110000 := c.valid
  have hc : Char.ofNat c.val.toNat = c := Char.ofNat_toNat c
  generalize hn : c.val.toNat = n at hv hc
  have hbyte : ∀ m, m < 256 → (UInt8.ofNat m).toNat = m := fun m hm => UInt8.toNat_ofNat_of_lt' hm
  simp only [String.utf8EncodeChar, hn]
  split
  · refine ⟨_, _, rfl, ?_⟩
    have ha := hbyte n (by omega)
    rw [firstRune_one _ (by omega), ha, hc]
    rfl
  split
  · refine ⟨_, _, rfl, ?_⟩
    have ha := hbyte (n / 64 % 0x20 + 0xc0) (by omega)
    have hb := hbyte (n % 0x40 + 0x80) (by omega)
    rw [List.cons_append, firstRune_two _ (by omega) ((isTrail_iff _).mpr (by omega)), ha, hb]
    rw [show (n / 64 % 0x20 + 0xc0 - 0xC0) * 64 + (n % 0x40 + 0x80 - 0x80) = n by omega, hc]
    rfl
  split
  · refine ⟨_, _, rfl, ?_⟩
    have ha := hbyte (n / 4096 % 0x10 + 0xe0) (by omega)
    have hb := hbyte (n / 64 % 0x40 + 0x80) (by omega)
    have hd := hbyte (n % 0x40 + 0x80) (by omega)
    rw [List.cons_append, List.cons_append, firstRune_three _ (by omega) ((isTrail_iff _).mpr (by omega))
      ((isTrail_iff _).mpr (by omega)) (by omega) (by omega), ha, hb, hd]
    rw [show (n / 4096 % 0x10 + 0xe0 - 0xE0) * 4096 + (n / 64 % 0x40 + 0x80 - 0x80) * 64 + (n % 0x40 + 0x80 - 0x80) = n
      by omega, hc]
    rfl
  · refine ⟨_, _, rfl, ?_⟩
    have ha := hbyte (n / 262144 % 0x08 + 0xf0) (by omega)
    have hb := hbyte (n / 4096 % 0x40 + 0x80) (by omega)
    have hd := hbyte (n / 64 % 0x40 + 0x80) (by omega)
    have he := hbyte (n % 0x40 + 0x80) (by omega)
    rw [List.cons_append, List.cons_append, List.cons_append, firstRune_four _ (by omega)
      ((isTrail_iff _).mpr (by omega)) ((isTrail_iff _).mpr (by omega)) ((isTrail_iff _).mpr (by omega)) (by omega)
      (by omega), ha, hb, hd, he]
    rw [show (n / 262144 % 0x08 + 0xf0 - 0xF0) * 262144 + (n / 4096 % 0x40 + 0x80 - 0x80) * 4096
      + (n / 64 % 0x40 + 0x80 - 0x80) * 64 + (n % 0x40 + 0x80 - 0x80) = n by omega, hc]
    rfl

/-- Bytes that have been read already are passed over. -/
theorem runesFrom_append (s t : Text) : runesFrom s.length (s ++ t) = runesFrom 0 t := by
  induction s with
  | nil => rfl
  | cons a s ih => exact ih

/-- The encoding of a character is read as the character, whatever follows. -/
theorem runes_encode (c : Char) (t : Text) : runes (String.utf8EncodeChar c ++ t) = .char c :: runes t := by
  obtain ⟨a, rest, hencode, hfirst⟩ := firstRune_encode c t
  rw [hencode]
  show (firstRune a (rest ++ t)).1 :: runesFrom (firstRune a (rest ++ t)).2 (rest ++ t) = _
  rw [hfirst, runesFrom_append]
  rfl

/-- The characters of a text are read back from their encodings. -/
theorem chars_ofChars (cs : List Char) : (ofChars cs).chars = cs := by
  induction cs with
  | nil => rfl
  | cons c cs ih =>
    have hrunes : runes (ofChars (c :: cs)) = .char c :: runes (ofChars cs) := runes_encode c _
    rw [chars, hrunes, List.map_cons]
    exact congrArg (c :: ·) ih

/-- A text that is put together from characters needs no repair. -/
theorem repaired_ofChars (cs : List Char) : (ofChars cs).repaired = ofChars cs := by rw [repaired, chars_ofChars]

/-! ## ASCII -/

/-- A text of ASCII bytes is read byte by byte. -/
theorem runes_of_ascii {t : Text} (h : ∀ b ∈ t, b < 128) : t.runes = t.map fun b => .char (Char.ofNat b.toNat) := by
  induction t with
  | nil => rfl
  | cons b t ih =>
    obtain ⟨hb, ht⟩ := List.forall_mem_cons.mp h
    have hfirst := firstRune_one t (UInt8.lt_iff_toNat_lt.mp hb)
    show (firstRune b t).1 :: runesFrom (firstRune b t).2 t = _
    rw [hfirst, List.map_cons, ← ih ht]
    rfl

/-- An ASCII character is encoded as its byte. -/
theorem encode_ascii {b : UInt8} (h : b < 128) : String.utf8EncodeChar (Char.ofNat b.toNat) = [b] := by
  have hall : ∀ n : Fin 128, String.utf8EncodeChar (Char.ofNat n) = [UInt8.ofNat n] := by decide +kernel
  have hb : b.toNat < 128 := UInt8.lt_iff_toNat_lt.mp h
  simpa using hall ⟨b.toNat, hb⟩

/-- A text of ASCII bytes is the encoding of its characters. -/
theorem ofChars_ascii {t : Text} (h : ∀ b ∈ t, b < 128) : ofChars (t.map fun b => Char.ofNat b.toNat) = t := by
  induction t with
  | nil => rfl
  | cons b t ih =>
    obtain ⟨hb, ht⟩ := List.forall_mem_cons.mp h
    have hrest : (t.map fun b => Char.ofNat b.toNat).flatMap String.utf8EncodeChar = t := ih ht
    rw [ofChars, List.map_cons, List.flatMap_cons, encode_ascii hb, hrest]
    rfl

/-- Nothing has to be repaired in a text of ASCII characters. -/
theorem repaired_of_ascii {t : Text} (h : ∀ b ∈ t, b < 128) : t.repaired = t := by
  rw [← ofChars_ascii h]
  exact repaired_ofChars _

/-! ## Valid texts -/

/-- A number that is a character is the number of that character. -/
theorem toNat_ofNat {n : Nat} (h : n.isValidChar) : (Char.ofNat n).toNat = n := by
  unfold Char.ofNat
  rw [dif_pos h]
  rfl

theorem ofNat_eq {b : UInt8} {n : Nat} (h : n = b.toNat) : UInt8.ofNat n = b := by rw [h, UInt8.ofNat_toNat]

section Encode

variable {a b c d : UInt8}

/-- A character that was read from two bytes is encoded as these. -/
theorem encode_two (ha : 0xC2 ≤ a.toNat ∧ a.toNat ≤ 0xDF) (hb : isTrail b = true) :
    String.utf8EncodeChar (Char.ofNat ((a.toNat - 0xC0) * 64 + (b.toNat - 0x80))) = [a, b] := by
  rw [isTrail_iff] at hb
  generalize hn : (a.toNat - 0xC0) * 64 + (b.toNat - 0x80) = n
  have hchar : (Char.ofNat n).val.toNat = n := toNat_ofNat (.inl (by omega))
  rw [String.utf8EncodeChar, hchar, if_neg (by omega), if_pos (by omega)]
  rw [ofNat_eq (show n / 64 % 0x20 + 0xc0 = a.toNat by omega), ofNat_eq (show n % 0x40 + 0x80 = b.toNat by omega)]

/-- A character that was read from three bytes is encoded as these. -/
theorem encode_three (ha : 0xE0 ≤ a.toNat ∧ a.toNat ≤ 0xEF) (hb : isTrail b = true) (hc : isTrail c = true)
    (hlow : a.toNat = 0xE0 → 0xA0 ≤ b.toNat) (hhigh : a.toNat = 0xED → b.toNat ≤ 0x9F) :
    String.utf8EncodeChar (Char.ofNat ((a.toNat - 0xE0) * 4096 + (b.toNat - 0x80) * 64 + (c.toNat - 0x80))) = [a, b, c] := by
  rw [isTrail_iff] at hb hc
  generalize hn : (a.toNat - 0xE0) * 4096 + (b.toNat - 0x80) * 64 + (c.toNat - 0x80) = n
  have hvalid : n.isValidChar := by
    unfold Nat.isValidChar
    omega
  have hchar : (Char.ofNat n).val.toNat = n := toNat_ofNat hvalid
  rw [String.utf8EncodeChar, hchar, if_neg (by omega), if_neg (by omega), if_pos (by omega)]
  rw [ofNat_eq (show n / 4096 % 0x10 + 0xe0 = a.toNat by omega), ofNat_eq (show n / 64 % 0x40 + 0x80 = b.toNat by omega),
    ofNat_eq (show n % 0x40 + 0x80 = c.toNat by omega)]

/-- A character that was read from four bytes is encoded as these. -/
theorem encode_four (ha : 0xF0 ≤ a.toNat ∧ a.toNat ≤ 0xF4) (hb : isTrail b = true) (hc : isTrail c = true)
    (hd : isTrail d = true) (hlow : a.toNat = 0xF0 → 0x90 ≤ b.toNat) (hhigh : a.toNat = 0xF4 → b.toNat ≤ 0x8F) :
    String.utf8EncodeChar (Char.ofNat ((a.toNat - 0xF0) * 262144 + (b.toNat - 0x80) * 4096 + (c.toNat - 0x80) * 64
      + (d.toNat - 0x80))) = [a, b, c, d] := by
  rw [isTrail_iff] at hb hc hd
  generalize hn : (a.toNat - 0xF0) * 262144 + (b.toNat - 0x80) * 4096 + (c.toNat - 0x80) * 64 + (d.toNat - 0x80) = n
  have hvalid : n.isValidChar := by
    unfold Nat.isValidChar
    omega
  have hchar : (Char.ofNat n).val.toNat = n := toNat_ofNat hvalid
  rw [String.utf8EncodeChar, hchar, if_neg (by omega), if_neg (by omega), if_neg (by omega)]
  rw [ofNat_eq (show n / 262144 % 0x08 + 0xf0 = a.toNat by omega), ofNat_eq (show n / 4096 % 0x40 + 0x80 = b.toNat by omega),
    ofNat_eq (show n / 64 % 0x40 + 0x80 = c.toNat by omega), ofNat_eq (show n % 0x40 + 0x80 = d.toNat by omega)]

end Encode

/-- The second byte of a long encoding continues it, within narrower bounds after two of the first bytes. -/
theorem trail_of_second {a b first low second high : UInt8} (hlow : 0x80 ≤ low.toNat) (hhigh : high.toNat ≤ 0xBF)
    (h : ((if a == first then low else 0x80 : UInt8) ≤ b && b ≤ (if a == second then high else 0xBF : UInt8)) = true) :
    isTrail b = true ∧ (a.toNat = first.toNat → low.toNat ≤ b.toNat) ∧ (a.toNat = second.toNat → b.toNat ≤ high.toNat) := by
  simp only [Bool.and_eq_true, decide_eq_true_eq, UInt8.le_iff_toNat_le, beq_iff_eq, ← UInt8.toNat_inj] at h
  obtain ⟨hl, hh⟩ := h
  refine ⟨(isTrail_iff b).mpr ⟨?_, ?_⟩, fun ha => ?_, fun ha => ?_⟩
  · split at hl
    · exact Nat.le_trans hlow hl
    · exact hl
  · split at hh
    · exact Nat.le_trans hh hhigh
    · exact hh
  · rwa [if_pos ha] at hl
  · rwa [if_pos ha] at hh

/-- A character is read from the bytes that encode it and from no others. -/
theorem encode_firstRune {a : UInt8} {t : Text} {c : Char} {n : Nat} (h : firstRune a t = (.char c, n)) :
    String.utf8EncodeChar c = a :: t.take n := by
  unfold firstRune at h
  split at h
  · rename_i ha
    obtain ⟨rfl, rfl⟩ : Char.ofNat a.toNat = c ∧ 0 = n := by simpa using h
    exact encode_ascii ha
  split at h
  · rename_i ha
    simp only [Bool.and_eq_true, decide_eq_true_eq, UInt8.le_iff_toNat_le] at ha
    split at h
    · rename_i b t
      by_cases hb : isTrail b = true
      · obtain ⟨rfl, rfl⟩ : Char.ofNat _ = c ∧ 1 = n := by simpa [hb] using h
        exact encode_two ha hb
      · simp [hb] at h
    · simp at h
  split at h
  · rename_i ha
    simp only [Bool.and_eq_true, decide_eq_true_eq, UInt8.le_iff_toNat_le] at ha
    split at h
    · rename_i b d t
      by_cases hrest : ((if a == 0xE0 then 0xA0 else 0x80 : UInt8) ≤ b && b ≤ (if a == 0xED then 0x9F else 0xBF : UInt8)
          && isTrail d) = true
      · rw [if_pos hrest] at h
        obtain ⟨hb, hd⟩ := Bool.and_eq_true_iff.mp hrest
        obtain ⟨htrail, hlow, hhigh⟩ := trail_of_second (by decide) (by decide) hb
        obtain ⟨rfl, rfl⟩ : Char.ofNat _ = c ∧ 2 = n := by simpa using h
        exact encode_three ha htrail hd hlow hhigh
      · rw [if_neg hrest] at h
        cases h
    · simp at h
  split at h
  · rename_i ha
    simp only [Bool.and_eq_true, decide_eq_true_eq, UInt8.le_iff_toNat_le] at ha
    split at h
    · rename_i b d e t
      by_cases hrest : ((if a == 0xF0 then 0x90 else 0x80 : UInt8) ≤ b && b ≤ (if a == 0xF4 then 0x8F else 0xBF : UInt8)
          && isTrail d && isTrail e) = true
      · rw [if_pos hrest] at h
        obtain ⟨hbd, he⟩ := Bool.and_eq_true_iff.mp hrest
        obtain ⟨hb, hd⟩ := Bool.and_eq_true_iff.mp hbd
        obtain ⟨htrail, hlow, hhigh⟩ := trail_of_second (by decide) (by decide) hb
        obtain ⟨rfl, rfl⟩ : Char.ofNat _ = c ∧ 3 = n := by simpa using h
        exact encode_four ha htrail hd he hlow hhigh
      · rw [if_neg hrest] at h
        cases h
    · simp at h
  · simp at h

/-- The bytes after the first few are those of the characters that are read there, if only characters are. -/
theorem ofChars_runesFrom {t : Text} {k : Nat} (h : ∀ r ∈ runesFrom k t, ∃ c, r = .char c) :
    ofChars ((runesFrom k t).map Rune.toChar) = t.drop k := by
  induction t generalizing k with
  | nil => cases k <;> rfl
  | cons a t ih =>
    cases k with
    | succ k => exact ih h
    | zero =>
      have hrunes : runesFrom 0 (a :: t) = (firstRune a t).1 :: runesFrom (firstRune a t).2 t := rfl
      rw [hrunes] at h ⊢
      cases hfirst : firstRune a t with
      | mk r n =>
        rw [hfirst] at h
        obtain ⟨⟨c, rfl⟩, hrest⟩ := List.forall_mem_cons.mp h
        calc ofChars ((Rune.char c :: runesFrom n t).map Rune.toChar)
            = String.utf8EncodeChar c ++ ofChars ((runesFrom n t).map Rune.toChar) := rfl
          _ = (a :: t.take n) ++ t.drop n := by rw [encode_firstRune hfirst, ih hrest]
          _ = a :: t := by rw [List.cons_append, List.take_append_drop]

/-- A text is valid UTF-8 exactly if every rune read from it is a character. -/
theorem isUtf8_iff {t : Text} : t.isUtf8 = true ↔ ∀ r ∈ t.runes, ∃ c, r = .char c := by
  rw [isUtf8, List.all_eq_true]
  refine forall_congr' fun r => imp_congr_right fun _ => ?_
  cases r <;> simp

/-- Nothing has to be repaired in a valid text. -/
theorem repaired_of_isUtf8 {t : Text} (h : t.isUtf8 = true) : t.repaired = t := ofChars_runesFrom (isUtf8_iff.mp h)

end Roster.Text
