import Roster.Proofs.StoreAgreement

/-!
# Look-ups by email

Both kinds of stores look users up by email up to case, and of several matches answer with the one of least id. They do not
mean the same by case: in memory two characters match if simple folding makes them one, over all of Unicode, and in a table
only the ASCII letters match their other case. So a look-up may find nobody in a table, or somebody else, where the users in
memory have a match. Here, exactly when both find the same. The table also stops comparing at a NUL, so texts with a NUL in
them are a case of their own.
-/

namespace Roster

namespace Text

/-! ## Lower case of ASCII letters, in bytes and in characters -/

/-- For ASCII characters, lower case and folding are the same. -/
theorem toLower_of_ascii {c : Char} (h : c.toNat < 128) : c.toLower.toNat = foldCode c.toNat := by
  have hall : ∀ n : Fin 128, (Char.ofNat n).toLower.toNat = foldCode (Char.ofNat n).toNat := by decide +kernel
  simpa using hall ⟨c.toNat, h⟩

/-- Other characters have no other case here. -/
theorem toLower_of_not_ascii {c : Char} (h : 128 ≤ c.toNat) : c.toLower = c := by
  unfold Char.toLower
  rw [dif_neg]
  rintro ⟨-, hz⟩
  have hle : c.toNat ≤ 90 := hz
  omega

/-- Lower case leads neither into ASCII nor out of it. -/
theorem toLower_ascii_iff {c : Char} : c.toLower.toNat < 128 ↔ c.toNat < 128 := by
  constructor
  · intro h
    by_contra hc
    rw [toLower_of_not_ascii (Nat.le_of_not_lt hc)] at h
    exact hc h
  · intro h
    have hall : ∀ n : Fin 128, (Char.ofNat n).toLower.toNat < 128 := by decide +kernel
    simpa using hall ⟨c.toNat, h⟩

/-- Characters are equal up to ASCII case if they are equal, or are ASCII and folding makes them one. -/
theorem toLower_eq_iff {c d : Char} :
    c.toLower = d.toLower ↔ foldCode c.toNat = foldCode d.toNat ∧ (c = d ∨ c.toNat < 128 ∧ d.toNat < 128) := by
  constructor
  · intro h
    by_cases hc : c.toNat < 128
    · have hd : d.toNat < 128 := toLower_ascii_iff.mp (h ▸ toLower_ascii_iff.mpr hc)
      refine ⟨?_, .inr ⟨hc, hd⟩⟩
      rw [← toLower_of_ascii hc, ← toLower_of_ascii hd, h]
    · have hd : ¬d.toNat < 128 := fun hd => hc (toLower_ascii_iff.mp (h ▸ toLower_ascii_iff.mpr hd))
      rw [toLower_of_not_ascii (Nat.le_of_not_lt hc), toLower_of_not_ascii (Nat.le_of_not_lt hd)] at h
      exact ⟨congrArg (fun c => foldCode c.toNat) h, .inl h⟩
  · rintro ⟨hfold, rfl | ⟨hc, hd⟩⟩
    · rfl
    · rw [← toLower_of_ascii hc, ← toLower_of_ascii hd] at hfold
      exact Char.toNat_inj.mp hfold

/-- Bytes beyond ASCII have no other case. -/
theorem lowerByte_of_not_ascii {n : Nat} (h : 128 ≤ n) (h' : n < 256) : lowerByte (UInt8.ofNat n) = UInt8.ofNat n := by
  have hto : (UInt8.ofNat n).toNat = n := UInt8.toNat_ofNat_of_lt' h'
  have hupper : isUpper (UInt8.ofNat n) = false := by
    rw [isUpper, Bool.and_eq_false_iff]
    refine .inr (decide_eq_false fun hle => ?_)
    rw [UInt8.le_iff_toNat_le, hto] at hle
    have hle' : n ≤ 90 := hle
    omega
  rw [lowerByte, hupper]
  rfl

/-- Lower case can be taken byte by byte, because no byte of a longer encoding is an ASCII letter. -/
theorem map_lowerByte_encode (c : Char) :
    (String.utf8EncodeChar c).map lowerByte = String.utf8EncodeChar c.toLower := by
  by_cases hc : c.toNat < 128
  · have hall : ∀ n : Fin 128, (String.utf8EncodeChar (Char.ofNat n)).map lowerByte =
        String.utf8EncodeChar (Char.ofNat n).toLower := by decide +kernel
    simpa using hall ⟨c.toNat, hc⟩
  · rw [toLower_of_not_ascii (Nat.le_of_not_lt hc)]
    have hlong : ¬c.val.toNat ≤ 0x7f := fun h => hc (Nat.lt_succ_of_le h)
    rw [String.utf8EncodeChar]
    generalize c.val.toNat = n at hlong
    rw [if_neg hlong]
    split
    · simp only [List.map_cons, List.map_nil]
      rw [lowerByte_of_not_ascii (by omega) (by omega), lowerByte_of_not_ascii (by omega) (by omega)]
    split
    · simp only [List.map_cons, List.map_nil]
      rw [lowerByte_of_not_ascii (by omega) (by omega), lowerByte_of_not_ascii (by omega) (by omega),
        lowerByte_of_not_ascii (by omega) (by omega)]
    · simp only [List.map_cons, List.map_nil]
      rw [lowerByte_of_not_ascii (by omega) (by omega), lowerByte_of_not_ascii (by omega) (by omega),
        lowerByte_of_not_ascii (by omega) (by omega), lowerByte_of_not_ascii (by omega) (by omega)]

/-- The bytes of a text are lowered as its ASCII characters are. -/
theorem lower_ofChars (cs : List Char) : lower (ofChars cs) = ofChars (cs.map Char.toLower) := by
  rw [lower, ofChars, List.map_flatMap, ofChars, List.flatMap_map]
  exact List.flatMap_congr fun c _ => map_lowerByte_encode c

/-- Valid texts are equal up to ASCII case if their characters are. -/
theorem lower_eq_iff {s t : Text} (hs : s.isUtf8 = true) (ht : t.isUtf8 = true) :
    lower s = lower t ↔ s.chars.map Char.toLower = t.chars.map Char.toLower := by
  have hs' : ofChars s.chars = s := repaired_of_isUtf8 hs
  have ht' : ofChars t.chars = t := repaired_of_isUtf8 ht
  conv_lhs => rw [← hs', ← ht', lower_ofChars, lower_ofChars]
  constructor
  · intro h
    rw [← chars_ofChars (s.chars.map _), h, chars_ofChars]
  · exact congrArg ofChars

/-! ## The two equalities -/

/-- Texts match in memory exactly if their characters have the same folding, one by one. -/
theorem equalFold_iff {s t : Text} :
    equalFold s t = true ↔ (s.chars.map fun c => foldCode c.toNat) = t.chars.map fun c => foldCode c.toNat := by
  rw [equalFold, beq_iff_eq, foldKey, foldKey, chars, chars, List.map_map, List.map_map]
  rfl

/-- Only NUL is lowered to NUL. -/
theorem lowerByte_eq_zero {b : UInt8} : lowerByte b = 0 ↔ b = 0 := by
  have hall : ∀ n : Fin 256, lowerByte (UInt8.ofNat n) = 0 ↔ UInt8.ofNat n = 0 := by decide +kernel
  simpa using hall ⟨b.toNat, b.toNat_lt⟩

/-- The column compares whole texts where the query has no NUL. -/
theorem equalNoCase_iff_lower {s t : Text} (ht : 0 ∉ t) : equalNoCase s t = true ↔ lower s = lower t := by
  induction s generalizing t with
  | nil => cases t <;> simp [equalNoCase, lower]
  | cons a s ih =>
    cases t with
    | nil => simp [equalNoCase, lower]
    | cons b t =>
      obtain ⟨hb, ht'⟩ : (0 : UInt8) ≠ b ∧ 0 ∉ t := by simpa using ht
      simp only [equalNoCase, lower, List.map_cons, List.cons.injEq]
      by_cases hab : lowerByte a = lowerByte b
      · have ha : a ≠ 0 := by
          rintro rfl
          exact hb (lowerByte_eq_zero.mp hab.symm).symm
        simp only [hab, bne_self_eq_false, Bool.false_eq_true, if_false, beq_iff_eq, ha, true_and]
        exact ih ht'
      · simp [hab]

/-- Two texts differ at a place where one of them has a character beyond ASCII. -/
def DiffersBeyondAscii (s t : Text) : Prop :=
  ∃ p ∈ s.chars.zip t.chars, p.1 ≠ p.2 ∧ (128 ≤ p.1.toNat ∨ 128 ≤ p.2.toNat)

instance (s t : Text) : Decidable (s.DiffersBeyondAscii t) :=
  inferInstanceAs (Decidable (∃ p ∈ s.chars.zip t.chars, p.1 ≠ p.2 ∧ (128 ≤ p.1.toNat ∨ 128 ≤ p.2.toNat)))

/-- Characters are equal in lower case exactly if they have the same folding and are the same, or both ASCII. -/
theorem map_toLower_eq_iff {cs ds : List Char} : cs.map Char.toLower = ds.map Char.toLower ↔
    ((cs.map fun c => foldCode c.toNat) = ds.map fun c => foldCode c.toNat) ∧
      ∀ p ∈ cs.zip ds, p.1 = p.2 ∨ p.1.toNat < 128 ∧ p.2.toNat < 128 := by
  induction cs generalizing ds with
  | nil => cases ds <;> simp
  | cons c cs ih =>
    cases ds with
    | nil => simp
    | cons d ds =>
      simp only [List.map_cons, List.cons.injEq, List.zip_cons_cons, List.forall_mem_cons, ih, toLower_eq_iff]
      exact and_and_and_comm

/-- Where the query has no NUL, the column's equality is the narrower one: it lacks the matches that need a character beyond
ASCII. -/
theorem equalNoCase_iff_equalFold {s t : Text} (hs : s.isUtf8 = true) (ht : t.isUtf8 = true) (hnul : 0 ∉ t) :
    equalNoCase s t = true ↔ equalFold s t = true ∧ ¬s.DiffersBeyondAscii t := by
  rw [equalNoCase_iff_lower hnul, lower_eq_iff hs ht, map_toLower_eq_iff, equalFold_iff, DiffersBeyondAscii]
  refine and_congr_right fun _ => ?_
  simp only [not_exists, not_and, not_or, Nat.not_le]
  exact forall₂_congr fun p _ => or_iff_not_imp_left

end Text

/-! ## The user that is found -/

namespace Register

/-- Two tests pick the same record exactly if what each of them picks passes the other. -/
theorem Picks.eq_iff {f : Register} {p q : User → Bool} {r r' : Option User} (h : f.Picks p r) (h' : f.Picks q r') :
    r = r' ↔ (∀ u, r = some u → q u = true) ∧ ∀ u, r' = some u → p u = true := by
  constructor
  · rintro rfl
    constructor
    · rintro u rfl
      exact h'.2.1
    · rintro u rfl
      exact h.2.1
  · rintro ⟨hq, hp⟩
    cases r with
    | none =>
      cases r' with
      | none => rfl
      | some v => exact absurd (hp v rfl) (by simp [h v h'.1])
    | some u =>
      cases r' with
      | none => exact absurd (hq u rfl) (by simp [h' u h.1])
      | some v =>
        have hid : u.id = v.id := UInt64.le_antisymm (h.2.2 v h'.1 (hp v rfl)) (h'.2.2 u h.1 (hq u rfl))
        rw [← h.1, hid, h'.1]

/-- A wider test picks a record wherever a narrower one does, of the same id or a lesser one. -/
theorem Picks.le_of_imp {f : Register} {p q : User → Bool} {r : Option User} (h : f.Picks p r) {v : User}
    (h' : f.Picks q (some v)) (hv : p v = true) : ∃ u, r = some u ∧ u.id ≤ v.id := by
  cases r with
  | none => exact absurd hv (by simp [h v h'.1])
  | some u => exact ⟨u, rfl, h.2.2 v h'.1 hv⟩

end Register

namespace World

/-- The same users are kept in memory and in a table, and looked up by the same email, all texts being valid. Each store finds
the match of least id, by its own equality. 1. Both find the same user, or nobody, exactly if what each one finds is a match
to the other as well. 2. Where the email has no NUL, the table finds nobody that has no match in memory, and the stores disagree
exactly if the email of the user who is found in memory differs from the one asked for at a character beyond ASCII. -/
theorem same_user_found_iff {w w' : World} {f : Register} (hw : w.Keeps f) (hw' : w'.Keeps f) {m : Store.Memory}
    (hmemory : w.storage = .memory m) {db : Sql.Database} (htable : w'.storage = .database db)
    (hvalid : f.All fun u => u.email.isUtf8 = true) {email : Text} (hemail : email.isUtf8 = true) :
    ∃ r r', (answer (.findByEmail email) w).1 = .ok r ∧ (answer (.findByEmail email) w').1 = .ok r' ∧
      f.Picks (fun u => Text.equalFold u.email email) r ∧ f.Picks (fun u => Text.equalNoCase u.email email) r' ∧
      (r = r' ↔ (∀ u, r = some u → Text.equalNoCase u.email email = true) ∧
        ∀ u, r' = some u → Text.equalFold u.email email = true) ∧
      (0 ∉ email → (∀ v, r' = some v → ∃ u, r = some u ∧ u.id ≤ v.id) ∧
        (r ≠ r' ↔ ∃ u, r = some u ∧ u.email.DiffersBeyondAscii email)) := by
  obtain ⟨r, hr, hpicks⟩ := hw.findByEmail email
  obtain ⟨r', hr', hpicks'⟩ := hw'.findByEmail email
  rw [hmemory] at hpicks
  rw [htable] at hpicks'
  change f.Picks (fun u => Text.equalFold u.email email) r at hpicks
  change f.Picks (fun u => Text.equalNoCase u.email email) r' at hpicks'
  have hsame := hpicks.eq_iff hpicks'
  refine ⟨r, r', hr, hr', hpicks, hpicks', hsame, fun hnul => ?_⟩
  have hnarrow : ∀ u, f u.id = some u → (Text.equalNoCase u.email email = true ↔
      Text.equalFold u.email email = true ∧ ¬u.email.DiffersBeyondAscii email) :=
    fun u hu => Text.equalNoCase_iff_equalFold (hvalid u.id u hu) hemail hnul
  have hboth : ∀ v, r' = some v → Text.equalFold v.email email = true := by
    rintro v rfl
    exact ((hnarrow v hpicks'.1).mp hpicks'.2.1).1
  constructor
  · rintro v rfl
    exact hpicks.le_of_imp hpicks' (hboth v rfl)
  · rw [Ne, hsame, and_iff_left hboth, not_forall]
    refine exists_congr fun u => ?_
    rw [Classical.not_imp]
    refine and_congr_right ?_
    rintro rfl
    rw [hnarrow u hpicks.1, not_and, Classical.not_not]
    exact ⟨fun h => h hpicks.2.1, fun h _ => h⟩

/-- Both stores hold ÉVA and éva. Asked for ÉVA in other ASCII case, both find ÉVA. -/
theorem same_user_found_in_ascii_case :
    let first : User := { id := 1, name := "ÉVA", email := "ÉVA@example.com", role := Role.admin.name }
    let second : User := { id := 2, name := "éva", email := "éva@example.com", role := Role.viewer.name }
    let f := Register.put (fun _ => none) first
    let memory := (answer (.save second) (answer (.save first) { clock := 0 }).2).2
    let table := (answer (.save second) (answer (.save first) (migrate { clock := 0, storage := .database {} }).2).2).2
    memory.Keeps (f.put second) ∧ table.Keeps (f.put second) ∧
      ∃ r, (answer (.findByEmail "Éva@Example.com") memory).1 = .ok r ∧
        (answer (.findByEmail "Éva@Example.com") table).1 = .ok r := by
  intro first second f memory table
  have hempty : ({ clock := 0 } : World).Keeps fun _ => none := ⟨⟨Lists.nil, rfl⟩, rfl⟩
  have hfresh := (migrate_fresh (w := { clock := 0, storage := .database {} }) rfl rfl rfl).2
  have hmemory : memory.Keeps (f.put second) :=
    ((hempty.save (u := first) (by decide) (by decide +kernel)).2.save (u := second) (by decide) (by decide +kernel)).2
  have htable : table.Keeps (f.put second) :=
    ((hfresh.save (u := first) (by decide) (by decide +kernel)).2.save (u := second) (by decide) (by decide +kernel)).2
  have hvalid : (f.put second).All fun u => u.email.isUtf8 = true := by
    refine Register.All.put (Register.All.put nofun ?_) ?_ <;> decide +kernel
  obtain ⟨r, r', hr, hr', -, -, -, hnul⟩ :=
    same_user_found_iff hmemory htable rfl rfl hvalid (show (utf8 "Éva@Example.com").isUtf8 = true by decide +kernel)
  have hfirst : r = some first := Except.ok.inj (hr.symm.trans (by decide +kernel))
  have hsame : ¬r ≠ r' := by
    rw [(hnul (by decide +kernel)).2]
    rintro ⟨u, hu, hdiffers⟩
    obtain rfl : first = u := Option.some.inj (hfirst.symm.trans hu)
    exact absurd hdiffers (by decide +kernel)
  refine ⟨hmemory, htable, r, hr, ?_⟩
  rw [hr', Classical.not_not.mp hsame]

/-- Both stores hold ÉVA and éva. Asked for éva, memory finds ÉVA, the match of lesser id, and the table finds éva; once éva is
removed, the table finds nobody. -/
theorem email_leads_to_different_users :
    let first : User := { id := 1, name := "ÉVA", email := "ÉVA@example.com", role := Role.admin.name }
    let second : User := { id := 2, name := "éva", email := "éva@example.com", role := Role.viewer.name }
    let memory := (answer (.save second) (answer (.save first) { clock := 0 }).2).2
    let table := (answer (.save second) (answer (.save first) (migrate { clock := 0, storage := .database {} }).2).2).2
    (answer (.findByEmail "éva@example.com") memory).1 = .ok (some first) ∧
      (answer (.findByEmail "éva@example.com") table).1 = .ok (some second) ∧
      (answer (.findByEmail "éva@example.com") (answer (.delete 2) memory).2).1 = .ok (some first) ∧
      (answer (.findByEmail "éva@example.com") (answer (.delete 2) table).2).1 = .ok none := by
  decide +kernel

end World

end Roster
