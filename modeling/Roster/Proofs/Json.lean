import Mathlib.Data.List.Nodup
import Roster.Json.Decode
import Roster.Proofs.Stores
import Roster.Proofs.Utf8

/-!
# JSON is read back as it was written

Every value whose texts are made of characters and whose numbers are integers is recovered from its text, provided that it
is not nested too deep. A text with stray bytes comes back with replacement characters in their place.
-/

namespace Roster

namespace Text

/-- Only zero is written with a leading zero. -/
theorem decimalFrom_cons {fuel n : Nat} (hn : n ≠ 0) (h : n < fuel) (acc : Text) :
    ∃ b t, decimalFrom fuel n acc = b :: t ∧ b ≠ 48 := by
  induction fuel generalizing n acc with
  | zero => omega
  | succ fuel ih =>
    simp only [decimalFrom]
    split
    · rename_i hlt
      refine ⟨_, _, rfl, fun h48 => hn ?_⟩
      have := congrArg UInt8.toNat h48
      rw [digit_toNat hlt] at this
      simp at this
      omega
    · exact ih (by omega) (by omega) _

/-- A number starts with a digit, and only zero starts with a zero. -/
theorem decimal_cons (n : Nat) : ∃ b t, decimal n = b :: t ∧ isDigit b = true ∧ (b = 48 → t = []) := by
  by_cases hn : n = 0
  · subst hn
    exact ⟨48, [], rfl, rfl, fun _ => rfl⟩
  · obtain ⟨b, t, hbt, hb⟩ := decimalFrom_cons hn (Nat.lt_succ_self n) []
    have hdigits := all_isDigit_decimal n
    rw [decimal, hbt, List.all_cons, Bool.and_eq_true] at hdigits
    exact ⟨b, t, hbt, hdigits.1, fun h => absurd h hb⟩

end Text

namespace Json

open Parse

/-! ## Strings -/

/-- A byte that stands for itself in a string. -/
def Literal (b : UInt8) : Prop := b ≠ Text.byte '"' ∧ b ≠ Text.byte '\\' ∧ ¬b < 32

/-- A byte that needs no escape is a piece of its own. -/
theorem pieces_literal {b : UInt8} (h : Literal b) (t : Text) :
    pieces (b :: t) = (pieces t).map fun r => (.byte b :: r.1, r.2) := by
  obtain ⟨hq, hb, hs⟩ := h
  rw [pieces.eq_def]
  simp only [beq_iff_eq, hq, hb, hs, if_false]

/-- Bytes that need no escape are pieces of their own. -/
theorem pieces_literals {bs : Text} (h : ∀ b ∈ bs, Literal b) (t : Text) :
    pieces (bs ++ t) = (pieces t).map fun r => (bs.map .byte ++ r.1, r.2) := by
  induction bs with
  | nil =>
    rw [List.nil_append]
    cases pieces t <;> rfl
  | cons b bs ih =>
    obtain ⟨hb, hbs⟩ := List.forall_mem_cons.mp h
    rw [List.cons_append, pieces_literal hb, ih hbs]
    cases pieces t <;> rfl

/-- Bytes are put together as they are. -/
theorem assemble_bytes (bs : Text) (ps : List Piece) : assemble (bs.map .byte ++ ps) = bs ++ assemble ps := by
  induction bs with
  | nil => rfl
  | cons b bs ih => exact congrArg (b :: ·) ih

/-- A unit that is not the first of a pair stands for its own bytes. -/
theorem assemble_unit {n : Nat} (h : isHigh n = false) (ps : List Piece) :
    assemble (.unit n :: ps) = unitBytes n ++ assemble ps := by
  cases ps with
  | nil => rfl
  | cons p ps =>
    cases p with
    | byte b => rfl
    | unit m =>
      rw [assemble, h]
      rfl

/-- A hexadecimal digit is read back as its value. -/
theorem hexValue?_hexDigit : ∀ d < 16, Text.hexValue? (Text.hexDigit d) = some d := by
  decide +kernel

/-- Four hexadecimal digits are read back as the number they were written for. -/
theorem hex4?_hex {n : Nat} (h : n < 65536) :
    ∃ a b c d, Text.hex 4 n = [a, b, c, d] ∧ hex4? a b c d = some n := by
  refine ⟨_, _, _, _, rfl, ?_⟩
  have h1 := hexValue?_hexDigit (n / 16 / 16 / 16 % 16) (Nat.mod_lt _ (by omega))
  have h2 := hexValue?_hexDigit (n / 16 / 16 % 16) (Nat.mod_lt _ (by omega))
  have h3 := hexValue?_hexDigit (n / 16 % 16) (Nat.mod_lt _ (by omega))
  have h4 := hexValue?_hexDigit (n % 16) (Nat.mod_lt _ (by omega))
  simp only [hex4?, h1, h2, h3, h4]
  show some _ = some n
  congr 1
  omega

/-- A byte that is neither control, quote nor backslash needs no escape. -/
theorem literal_ofNat {m : Nat} (h : m < 256) (hq : m ≠ 34) (hb : m ≠ 92) (hs : 32 ≤ m) : Literal (UInt8.ofNat m) := by
  have hto : (UInt8.ofNat m).toNat = m := UInt8.toNat_ofNat_of_lt' h
  refine ⟨fun he => hq ?_, fun he => hb ?_, fun hlt => ?_⟩
  · exact hto.symm.trans (congrArg UInt8.toNat he)
  · exact hto.symm.trans (congrArg UInt8.toNat he)
  · rw [UInt8.lt_iff_toNat_lt, hto] at hlt
    exact absurd hlt (Nat.not_lt.mpr hs)

/-- The bytes of a character that needs no escape stand for themselves. -/
theorem literal_encode {c : Char} (hq : c ≠ '"') (hb : c ≠ '\\') (hs : 32 ≤ c.toNat) :
    ∀ b ∈ String.utf8EncodeChar c, Literal b := by
  have hq' : c.val.toNat ≠ 34 := fun h => hq (Char.toNat_inj.mp h)
  have hb' : c.val.toNat ≠ 92 := fun h => hb (Char.toNat_inj.mp h)
  have hs' : 32 ≤ c.val.toNat := hs
  simp only [String.utf8EncodeChar]
  generalize c.val.toNat = n at *
  split
  · intro b hm
    simp only [List.mem_singleton] at hm
    exact hm ▸ literal_ofNat (by omega) hq' hb' hs'
  split
  · intro b hm
    simp only [List.mem_cons, List.not_mem_nil, or_false] at hm
    rcases hm with rfl | rfl <;> exact literal_ofNat (by omega) (by omega) (by omega) (by omega)
  split
  · intro b hm
    simp only [List.mem_cons, List.not_mem_nil, or_false] at hm
    rcases hm with rfl | rfl | rfl <;> exact literal_ofNat (by omega) (by omega) (by omega) (by omega)
  · intro b hm
    simp only [List.mem_cons, List.not_mem_nil, or_false] at hm
    rcases hm with rfl | rfl | rfl | rfl <;> exact literal_ofNat (by omega) (by omega) (by omega) (by omega)

/-- A short escape is read as the byte it stands for. -/
theorem pieces_short {e c : UInt8} (he : e ≠ Text.byte 'u') (h : shortEscape? e = some c) (t : Text) :
    pieces (Text.byte '\\' :: e :: t) = (pieces t).map fun r => (.byte c :: r.1, r.2) := by
  have hq : Text.byte '\\' ≠ Text.byte '"' := by decide
  rw [pieces.eq_def]
  simp only [beq_iff_eq, hq, he, h, if_false, if_true]

/-- A long escape is read as its unit. -/
theorem pieces_unit {w x y z : UInt8} {n : Nat} (h : hex4? w x y z = some n) (t : Text) :
    pieces (Text.byte '\\' :: Text.byte 'u' :: w :: x :: y :: z :: t) = (pieces t).map fun r => (.unit n :: r.1, r.2) := by
  have hq : Text.byte '\\' ≠ Text.byte '"' := by decide
  rw [pieces.eq_def]
  simp only [beq_iff_eq, hq, h, if_false, if_true]

/-- An escaped character is read as pieces that give its bytes. -/
theorem pieces_escapeChar (c : Char) (t : Text) :
    ∃ qs, (pieces (escapeChar c ++ t) = (pieces t).map fun r => (qs ++ r.1, r.2)) ∧
      ∀ ps, assemble (qs ++ ps) = String.utf8EncodeChar c ++ assemble ps := by
  have short : ∀ e b : UInt8, e ≠ Text.byte 'u' → shortEscape? e = some b → String.utf8EncodeChar c = [b] →
      ∃ qs, (pieces ([Text.byte '\\', e] ++ t) = (pieces t).map fun r => (qs ++ r.1, r.2)) ∧
        ∀ ps, assemble (qs ++ ps) = String.utf8EncodeChar c ++ assemble ps := by
    intro e b he hb hc
    refine ⟨[.byte b], pieces_short he hb t, fun ps => ?_⟩
    rw [hc]
    rfl
  unfold escapeChar
  split
  · rename_i h
    obtain rfl := eq_of_beq h
    exact short 34 34 (by decide) (by decide) (by decide)
  split
  · rename_i h
    obtain rfl := eq_of_beq h
    exact short 92 92 (by decide) (by decide) (by decide)
  split
  · rename_i h
    obtain rfl := eq_of_beq h
    exact short 110 10 (by decide) (by decide) (by decide)
  split
  · rename_i h
    obtain rfl := eq_of_beq h
    exact short 114 13 (by decide) (by decide) (by decide)
  split
  · rename_i h
    obtain rfl := eq_of_beq h
    exact short 116 9 (by decide) (by decide) (by decide)
  split
  · rename_i h
    have hc : c = Char.ofNat 8 := by rw [← eq_of_beq h, Char.ofNat_toNat]
    exact short 98 8 (by decide) (by decide) (by rw [hc]; decide)
  split
  · rename_i h
    have hc : c = Char.ofNat 12 := by rw [← eq_of_beq h, Char.ofNat_toNat]
    exact short 102 12 (by decide) (by decide) (by rw [hc]; decide)
  split
  · rename_i h
    have hsmall : c.toNat < 0x2030 := by
      simp only [Bool.or_eq_true, decide_eq_true_eq, beq_iff_eq] at h
      rcases h with ((((h | rfl) | rfl) | rfl) | h) | h
      · omega
      · decide
      · decide
      · decide
      · omega
      · omega
    obtain ⟨x, y, z, w, hhex, hread⟩ := hex4?_hex (show c.toNat < 65536 by omega)
    have hhigh : isHigh c.toNat = false := by simp [isHigh]; omega
    have hlow : isLow c.toNat = false := by simp [isLow]; omega
    refine ⟨[.unit c.toNat], ?_, fun ps => ?_⟩
    · rw [hhex]
      exact pieces_unit hread t
    · rw [List.singleton_append, assemble_unit hhigh, unitBytes, hhigh, hlow, Char.ofNat_toNat]
      rfl
  · rename_i hq hb _ _ _ _ _ hs
    refine ⟨(String.utf8EncodeChar c).map .byte, pieces_literals (literal_encode ?_ ?_ ?_) t, assemble_bytes _⟩
    · simpa using hq
    · simpa using hb
    · simp at hs
      omega

/-- The escaped characters of a text, up to the closing quote, are read as the bytes of the characters. -/
theorem pieces_escaped (cs : List Char) (rest : Text) :
    ∃ ps, pieces (cs.flatMap escapeChar ++ Text.byte '"' :: rest) = .ok (ps, rest) ∧ assemble ps = Text.ofChars cs := by
  induction cs with
  | nil =>
    refine ⟨[], ?_, rfl⟩
    rw [pieces.eq_def]
    rfl
  | cons c cs ih =>
    obtain ⟨ps, hps, hassemble⟩ := ih
    obtain ⟨qs, hqs, hbytes⟩ := pieces_escapeChar c (cs.flatMap escapeChar ++ Text.byte '"' :: rest)
    refine ⟨qs ++ ps, ?_, ?_⟩
    · rw [List.flatMap_cons, List.append_assoc, hqs, hps]
      rfl
    · rw [hbytes, hassemble]
      rfl

/-- A text is read back from between quotes, with replacement characters for its stray bytes. -/
theorem string_render (t rest : Text) :
    Parse.string ((t.runes.flatMap fun r => escapeChar r.toChar) ++ Text.byte '"' :: rest) = .ok (t.repaired, rest) := by
  have hchars : (t.runes.flatMap fun r => escapeChar r.toChar) = t.chars.flatMap escapeChar := by
    rw [Text.chars, List.flatMap_map]
  obtain ⟨ps, hps, hassemble⟩ := pieces_escaped t.chars rest
  rw [Parse.string, hchars, hps]
  show Except.ok ((assemble ps).repaired, rest) = _
  rw [hassemble, Text.repaired, Text.chars_ofChars]
  rfl

/-! ## Numbers -/

/-- A text that does not go on with a number. -/
def Ends (t : Text) : Prop :=
  ∀ b ∈ t.head?, Text.isDigit b = false ∧ b ≠ 46 ∧ b ≠ Text.byte 'e' ∧ b ≠ Text.byte 'E'

theorem ends_nil : Ends [] := nofun

/-- A number ends before a byte that no number goes on with. -/
theorem ends_cons {b : UInt8} (t : Text)
    (h : Text.isDigit b = false ∧ b ≠ 46 ∧ b ≠ Text.byte 'e' ∧ b ≠ Text.byte 'E') : Ends (b :: t) := by
  rintro _ ⟨⟩
  exact h

/-- The digits at the start of a text are taken up to where the number ends. -/
theorem takeDigits {ds rest : Text} (hd : ds.all Text.isDigit = true) (hr : Ends rest) :
    (ds ++ rest).takeWhile Text.isDigit = ds ∧ (ds ++ rest).dropWhile Text.isDigit = rest := by
  have hall : ∀ b ∈ ds, Text.isDigit b = true := List.all_eq_true.mp hd
  rw [List.takeWhile_append_of_pos hall, List.dropWhile_append_of_pos hall]
  cases rest with
  | nil => simp
  | cons b rest =>
    have hb := (hr b rfl).1
    simp [hb]

/-- A number that ends has no fraction. -/
theorem fractionPart_of_ends {t : Text} (h : Ends t) : fractionPart t = .ok ([], t) := by
  cases t with
  | nil => rfl
  | cons b t =>
    obtain ⟨-, hb, -⟩ := h b rfl
    unfold fractionPart
    split
    · rename_i heq
      exact absurd (List.cons.inj heq).1 hb
    · rfl

/-- A number that ends has no exponent. -/
theorem exponentPart_of_ends {t : Text} (h : Ends t) : exponentPart t = .ok ([], t) := by
  cases t with
  | nil => rfl
  | cons b t =>
    obtain ⟨-, -, he, hE⟩ := h b rfl
    simp [exponentPart, he, hE]

/-- A decimal number is read up to its end. -/
theorem wholeDigits_decimal (n : Nat) {rest : Text} (h : Ends rest) :
    wholeDigits (Text.decimal n ++ rest) = .ok (Text.decimal n, rest) := by
  obtain ⟨b, t, hn, hb, hzero⟩ := Text.decimal_cons n
  obtain ⟨htake, hdrop⟩ := takeDigits (Text.all_isDigit_decimal n) h
  unfold wholeDigits
  split
  · rename_i rest' heq
    rw [hn] at heq ⊢
    obtain ⟨rfl, rfl⟩ := List.cons.inj heq
    rw [hzero rfl]
    rfl
  · rw [someDigits, htake, hdrop, Text.isEmpty_decimal]
    rfl

/-- A decimal number is read as a number, with nothing after its digits. -/
theorem number_decimal (n : Nat) {rest : Text} (h : Ends rest) :
    Parse.number (Text.decimal n ++ rest) = .ok (Text.decimal n, rest) := by
  obtain ⟨b, t, hn, hb, -⟩ := Text.decimal_cons n
  have hminus : ¬(b == Text.byte '-') = true := by
    rw [beq_iff_eq]
    rintro rfl
    revert hb
    decide
  have hwhole := wholeDigits_decimal n h
  rw [hn, List.cons_append] at hwhole ⊢
  simp only [Parse.number, if_neg hminus, hwhole]
  simp only [bind, Except.bind, fractionPart_of_ends h, exponentPart_of_ends h]
  simp [pure, Except.pure]

/-- The literal of an integer is read as such. -/
theorem number_decimalInt (n : Int) {rest : Text} (h : Ends rest) :
    Parse.number (Text.decimalInt n ++ rest) = .ok (Text.decimalInt n, rest) := by
  cases n with
  | ofNat n => exact number_decimal n h
  | negSucc n =>
    simp only [Text.decimalInt, List.cons_append, Parse.number, beq_self_eq_true, if_true, wholeDigits_decimal (n + 1) h]
    simp only [bind, Except.bind, fractionPart_of_ends h, exponentPart_of_ends h]
    simp [pure, Except.pure]

/-! ## Values -/

mutual

/-- The texts of a value are made of characters, and its numbers are integers. -/
def Clean : Json → Prop
  | .null | .bool _ => True
  | .number literal => ∃ n : Int, literal = Text.decimalInt n
  | .string t => t.repaired = t
  | .array items => CleanItems items
  | .object members => CleanMembers members

/-- The same for the items of an array. -/
def CleanItems : List Json → Prop
  | [] => True
  | v :: rest => Clean v ∧ CleanItems rest

/-- The same for the members of an object and their keys. -/
def CleanMembers : List (Text × Json) → Prop
  | [] => True
  | (key, v) :: rest => key.repaired = key ∧ Clean v ∧ CleanMembers rest

end

mutual

/-- How deep values are nested in a value. -/
def height : Json → Nat
  | .array items => heightItems items + 1
  | .object members => heightMembers members + 1
  | _ => 0

/-- The same for the items of an array. -/
def heightItems : List Json → Nat
  | [] => 0
  | v :: rest => max (height v) (heightItems rest)

/-- The same for the members of an object. -/
def heightMembers : List (Text × Json) → Nat
  | [] => 0
  | (_, v) :: rest => max (height v) (heightMembers rest)

end

/-- Only blanks are skipped. -/
theorem skip_cons {b : UInt8} (h : isBlank b = false) (t : Text) : skip (b :: t) = b :: t := by
  simp [skip, h]

/-- Whether a byte can start a number. -/
def startsNumber (b : UInt8) : Bool := b == Text.byte '-' || Text.isDigit b

/-- A whole number starts with a digit or a sign. -/
theorem decimalInt_cons (n : Int) : ∃ b t, Text.decimalInt n = b :: t ∧ startsNumber b = true := by
  cases n with
  | ofNat n =>
    obtain ⟨b, t, hn, hb, -⟩ := Text.decimal_cons n
    exact ⟨b, t, hn, by rw [startsNumber, hb, Bool.or_true]⟩
  | negSucc n => exact ⟨_, _, rfl, rfl⟩

/-- What starts a number starts nothing else. -/
theorem startsNumber_only {b : UInt8} (h : startsNumber b = true) :
    isBlank b = false ∧ ∀ c ∈ ['"', '[', ']', '\x7b', '\x7d', 't', 'f', 'n'], b ≠ Text.byte c := by
  constructor
  · rw [Bool.eq_false_iff]
    intro hb
    simp only [isBlank, Bool.or_eq_true, beq_iff_eq] at hb
    rcases hb with ((rfl | rfl) | rfl) | rfl <;> revert h <;> decide
  · intro c hc
    simp only [List.mem_cons, List.not_mem_nil, or_false] at hc
    rcases hc with rfl | rfl | rfl | rfl | rfl | rfl | rfl | rfl <;> (rintro rfl; revert h; decide)

/-- How the text of a value can start. -/
theorem render_cons {v : Json} (h : v.Clean) : ∃ b t, v.render = b :: t ∧ isBlank b = false ∧ b ≠ 93 ∧ b ≠ 125 := by
  cases v with
  | null => exact ⟨_, _, rfl, by decide, by decide, by decide⟩
  | bool b => cases b <;> exact ⟨_, _, rfl, by decide, by decide, by decide⟩
  | number literal =>
    obtain ⟨n, rfl⟩ := h
    obtain ⟨b, t, hn, hb⟩ := decimalInt_cons n
    obtain ⟨hblank, hother⟩ := startsNumber_only hb
    exact ⟨b, t, hn, hblank, hother ']' (by simp), hother '\x7d' (by simp)⟩
  | string t => exact ⟨_, _, by rw [render]; rfl, by decide, by decide, by decide⟩
  | array items => exact ⟨_, _, by rw [render]; rfl, by decide, by decide, by decide⟩
  | object members => exact ⟨_, _, by rw [render]; rfl, by decide, by decide, by decide⟩

section Values

variable {fuel depth : Nat} {rest : Text}

/-- A whole number is read back. -/
theorem value_number (n : Int) (h : Ends rest) :
    value (fuel + 1) depth (Text.decimalInt n ++ rest) = .ok (.int n, rest) := by
  have hread := number_decimalInt n h
  obtain ⟨b, t, hn, hb⟩ := decimalInt_cons n
  obtain ⟨hblank, hother⟩ := startsNumber_only hb
  simp only [List.forall_mem_cons, List.not_mem_nil, false_imp_iff, implies_true, and_true] at hother
  obtain ⟨h1, h2, -, h3, -, h4, h5, h6⟩ := hother
  rw [hn, List.cons_append] at hread ⊢
  rw [value, skip_cons hblank]
  simp only [beq_iff_eq, h1, h2, h3, h4, h5, h6, if_false]
  rw [if_pos (show (b == Text.byte '-' || Text.isDigit b) = true from hb), hread]
  show Except.ok (Json.number (b :: t), rest) = _
  rw [← hn]
  rfl

/-- A text that needs no repair is read back. -/
theorem value_string {t : Text} (ht : t.repaired = t) :
    value (fuel + 1) depth (renderText t ++ rest) = .ok (.string t, rest) := by
  have hrender : renderText t ++ rest =
      Text.byte '"' :: ((t.runes.flatMap fun r => escapeChar r.toChar) ++ Text.byte '"' :: rest) := by
    simp [renderText]
  rw [hrender, value, skip_cons (by decide)]
  simp only [beq_self_eq_true, if_true, string_render, ht]
  rfl

/-- A text that goes on with something else than a closing bracket is read as the items of an array. -/
theorem value_array {b : UInt8} {t : Text} (hb : isBlank b = false) (hb' : b ≠ 93) (hdepth : depth < maxDepth) :
    value (fuel + 1) depth (Text.byte '[' :: b :: t) =
      (items fuel (depth + 1) (b :: t)).map fun (vs, rest) => (.array vs, rest) := by
  rw [value, skip_cons (by decide)]
  have h : ¬Text.byte '[' = Text.byte '"' := by decide
  simp only [beq_iff_eq, h, if_false, if_true]
  rw [if_neg (by omega), skip_cons hb]
  split
  · rename_i heq
    exact absurd (List.cons.inj heq).1 hb'
  · rfl

/-- A text that goes on with something else than a closing brace is read as the members of an object. -/
theorem value_object {b : UInt8} {t : Text} (hb : isBlank b = false) (hb' : b ≠ 125) (hdepth : depth < maxDepth) :
    value (fuel + 1) depth (Text.byte '\x7b' :: b :: t) =
      (members fuel (depth + 1) (b :: t)).map fun (ms, rest) => (.object ms, rest) := by
  rw [value, skip_cons (by decide)]
  have h : ¬Text.byte '\x7b' = Text.byte '"' := by decide
  have h' : ¬Text.byte '\x7b' = Text.byte '[' := by decide
  simp only [beq_iff_eq, h, h', if_false, if_true]
  rw [if_neg (by omega), skip_cons hb]
  split
  · rename_i heq
    exact absurd (List.cons.inj heq).1 hb'
  · rfl

/-- An empty array is read, unless it is nested too deep. -/
theorem value_emptyArray (hdepth : depth < maxDepth) :
    value (fuel + 1) depth (Text.byte '[' :: 93 :: rest) = .ok (.array [], rest) := by
  rw [value, skip_cons (by decide)]
  have h : ¬Text.byte '[' = Text.byte '"' := by decide
  simp only [beq_iff_eq, h, if_false, if_true]
  rw [if_neg (by omega), skip_cons (by decide)]
  rfl

/-- An empty object is read, unless it is nested too deep. -/
theorem value_emptyObject (hdepth : depth < maxDepth) :
    value (fuel + 1) depth (Text.byte '\x7b' :: 125 :: rest) = .ok (.object [], rest) := by
  rw [value, skip_cons (by decide)]
  have h : ¬Text.byte '\x7b' = Text.byte '"' := by decide
  have h' : ¬Text.byte '\x7b' = Text.byte '[' := by decide
  simp only [beq_iff_eq, h, h', if_false, if_true]
  rw [if_neg (by omega), skip_cons (by decide)]
  rfl

/-- After an item comes the end of the array or a comma and further items. -/
theorem items_last {t : Text} {v : Json} (h : value fuel depth t = .ok (v, 93 :: rest)) :
    items (fuel + 1) depth t = .ok ([v], rest) := by
  rw [items, h]
  rfl

/-- After an item and a comma, the items go on. -/
theorem items_more {t : Text} {v : Json} (h : value fuel depth t = .ok (v, 44 :: rest)) :
    items (fuel + 1) depth t = (items fuel depth rest).map fun (vs, rest) => (v :: vs, rest) := by
  rw [items, h]
  rfl

/-- A key and a colon are followed by a value, and that by the end of the object or a comma and further members. -/
theorem members_cons {key : Text} (hkey : key.repaired = key) (t : Text) :
    members (fuel + 1) depth (renderText key ++ 58 :: t) = (do
      let (v, rest) ← value fuel depth t
      match skip rest with
      | 44 :: rest => (members fuel depth rest).map fun (ms, rest) => ((key, v) :: ms, rest)
      | 125 :: rest => .ok ([(key, v)], rest)
      | rest => refuse .afterMember rest) := by
  have hrender : renderText key ++ 58 :: t =
      34 :: ((key.runes.flatMap fun r => escapeChar r.toChar) ++ Text.byte '"' :: 58 :: t) := by
    simp [renderText, show Text.byte '"' = 34 from rfl]
  rw [hrender, members, skip_cons (by decide)]
  show Parse.string ((key.runes.flatMap fun r => escapeChar r.toChar) ++ Text.byte '"' :: 58 :: t) >>= _ = _
  rw [string_render, hkey]
  rfl

end Values

/-! ## Reading back -/

theorem ends_comma (t : Text) : Ends (44 :: t) := ends_cons t (by decide)

theorem ends_bracket (t : Text) : Ends (93 :: t) := ends_cons t (by decide)

theorem ends_brace (t : Text) : Ends (125 :: t) := ends_cons t (by decide)

theorem render_array (vs : List Json) (rest : Text) :
    (Json.array vs).render ++ rest = Text.byte '[' :: (renderItems vs ++ 93 :: rest) := by
  simp [render, show Text.byte ']' = 93 from rfl]

theorem render_object (ms : List (Text × Json)) (rest : Text) :
    (Json.object ms).render ++ rest = Text.byte '\x7b' :: (renderMembers ms ++ 125 :: rest) := by
  simp [render, show Text.byte '\x7d' = 125 from rfl]

theorem renderItems_cons (v v' : Json) (vs : List Json) :
    renderItems (v :: v' :: vs) = v.render ++ 44 :: renderItems (v' :: vs) := by
  simp [renderItems, show Text.byte ',' = 44 from rfl]

theorem renderMembers_single (key : Text) (v : Json) : renderMembers [(key, v)] = renderText key ++ 58 :: v.render := by
  simp [renderMembers, show Text.byte ':' = 58 from rfl]

theorem renderMembers_cons (key : Text) (v : Json) (m : Text × Json) (ms : List (Text × Json)) :
    renderMembers ((key, v) :: m :: ms) = renderText key ++ 58 :: (v.render ++ 44 :: renderMembers (m :: ms)) := by
  simp [renderMembers, show Text.byte ',' = 44 from rfl, show Text.byte ':' = 58 from rfl]

/-- The text of items starts as the text of the first does. -/
theorem renderItems_start {v : Json} (h : v.Clean) (vs : List Json) :
    ∃ b t, renderItems (v :: vs) = b :: t ∧ isBlank b = false ∧ b ≠ 93 := by
  obtain ⟨b, t, hrender, hblank, hb, -⟩ := render_cons h
  cases vs with
  | nil => exact ⟨b, t, by rw [renderItems, hrender], hblank, hb⟩
  | cons v' vs => exact ⟨b, _, by rw [renderItems_cons, hrender]; rfl, hblank, hb⟩

/-- The text of members starts with a quote. -/
theorem renderMembers_start (m : Text × Json) (ms : List (Text × Json)) :
    ∃ t, renderMembers (m :: ms) = Text.byte '"' :: t := by
  obtain ⟨key, v⟩ := m
  cases ms with
  | nil => exact ⟨_, by rw [renderMembers_single, renderText]; rfl⟩
  | cons m' ms => exact ⟨_, by rw [renderMembers_cons, renderText]; rfl⟩

/-- With so much fuel, values are read back from their texts. -/
def ReadsValues (fuel : Nat) : Prop :=
  ∀ (v : Json) (depth : Nat) (rest : Text), v.Clean → v.render.length < fuel → depth + v.height ≤ maxDepth → Ends rest →
    value fuel depth (v.render ++ rest) = .ok (v, rest)

/-- With so much fuel, the items of an array are read back from their texts. -/
def ReadsItems (fuel : Nat) : Prop :=
  ∀ (v : Json) (vs : List Json) (depth : Nat) (rest : Text), CleanItems (v :: vs) →
    (renderItems (v :: vs)).length + 1 < fuel → depth + heightItems (v :: vs) ≤ maxDepth →
    items fuel depth (renderItems (v :: vs) ++ 93 :: rest) = .ok (v :: vs, rest)

/-- With so much fuel, the members of an object are read back from their texts. -/
def ReadsMembers (fuel : Nat) : Prop :=
  ∀ (m : Text × Json) (ms : List (Text × Json)) (depth : Nat) (rest : Text), CleanMembers (m :: ms) →
    (renderMembers (m :: ms)).length + 1 < fuel → depth + heightMembers (m :: ms) ≤ maxDepth →
    members fuel depth (renderMembers (m :: ms) ++ 125 :: rest) = .ok (m :: ms, rest)

section Step

variable {fuel : Nat}

/-- Values are read back with a little more fuel, if items and members are. -/
theorem readsValues_succ (hitems : ReadsItems fuel) (hmembers : ReadsMembers fuel) : ReadsValues (fuel + 1) := by
  intro v depth rest hv hfuel hdepth hrest
  cases v with
  | null => rfl
  | bool b => cases b <;> rfl
  | number literal =>
    obtain ⟨n, rfl⟩ := hv
    rw [render]
    exact value_number n hrest
  | string t =>
    rw [render]
    exact value_string hv
  | array vs =>
    rw [height] at hdepth
    cases vs with
    | nil =>
      rw [render_array]
      exact value_emptyArray (by omega)
    | cons v vs =>
      have hread := hitems v vs (depth + 1) rest hv (by simp [render] at hfuel; omega) (by omega)
      obtain ⟨b, t, hstart, hblank, hb⟩ := renderItems_start hv.1 vs
      rw [hstart, List.cons_append] at hread
      rw [render_array, hstart, List.cons_append, value_array hblank hb (by omega), hread]
      rfl
  | object ms =>
    rw [height] at hdepth
    cases ms with
    | nil =>
      rw [render_object]
      exact value_emptyObject (by omega)
    | cons m ms =>
      have hread := hmembers m ms (depth + 1) rest hv (by simp [render] at hfuel; omega) (by omega)
      obtain ⟨t, hstart⟩ := renderMembers_start m ms
      rw [hstart, List.cons_append] at hread
      rw [render_object, hstart, List.cons_append, value_object (by decide) (by decide) (by omega), hread]
      rfl

/-- Items are read back with a little more fuel, if values and items are. -/
theorem readsItems_succ (hvalues : ReadsValues fuel) (hitems : ReadsItems fuel) : ReadsItems (fuel + 1) := by
  rintro v vs depth rest ⟨hv, hvs⟩ hfuel hdepth
  rw [heightItems] at hdepth
  cases vs with
  | nil =>
    rw [renderItems] at hfuel ⊢
    exact items_last (hvalues v depth _ hv (by omega) (by omega) (ends_bracket rest))
  | cons v' vs =>
    rw [renderItems_cons] at hfuel ⊢
    rw [List.length_append, List.length_cons] at hfuel
    have hvalue := hvalues v depth _ hv (by omega) (by omega) (ends_comma (renderItems (v' :: vs) ++ 93 :: rest))
    have hmore := hitems v' vs depth rest hvs (by omega) (by omega)
    rw [List.append_assoc, List.cons_append, items_more hvalue, hmore]
    rfl

/-- Members are read back with a little more fuel, if values and members are. -/
theorem readsMembers_succ (hvalues : ReadsValues fuel) (hmembers : ReadsMembers fuel) : ReadsMembers (fuel + 1) := by
  rintro ⟨key, v⟩ ms depth rest ⟨hkey, hv, hms⟩ hfuel hdepth
  rw [heightMembers] at hdepth
  cases ms with
  | nil =>
    rw [renderMembers_single] at hfuel ⊢
    rw [List.length_append, List.length_cons] at hfuel
    have hvalue := hvalues v depth _ hv (by omega) (by omega) (ends_brace rest)
    rw [List.append_assoc, List.cons_append, members_cons hkey, hvalue]
    rfl
  | cons m ms =>
    rw [renderMembers_cons] at hfuel ⊢
    rw [List.length_append, List.length_cons, List.length_append, List.length_cons] at hfuel
    have hvalue := hvalues v depth _ hv (by omega) (by omega) (ends_comma (renderMembers (m :: ms) ++ 125 :: rest))
    have hmore := hmembers m ms depth rest hms (by omega) (by omega)
    rw [List.append_assoc, List.cons_append, List.append_assoc, List.cons_append, members_cons hkey, hvalue]
    show (members fuel depth _).map _ = _
    rw [hmore]
    rfl

end Step

/-- The fuel that a text of the value's length is given is enough at every level. -/
theorem reads_back (fuel : Nat) : ReadsValues fuel ∧ ReadsItems fuel ∧ ReadsMembers fuel := by
  induction fuel with
  | zero => exact ⟨nofun, nofun, nofun⟩
  | succ fuel ih =>
    obtain ⟨hvalues, hitems, hmembers⟩ := ih
    exact ⟨readsValues_succ hitems hmembers, readsItems_succ hvalues hitems, readsMembers_succ hvalues hmembers⟩

/-- Every clean value that is not nested too deep is read back from its text. -/
theorem parse_render {v : Json} (hv : v.Clean) (hheight : v.height ≤ maxDepth) : parse v.render = .ok v := by
  have hvalue := (reads_back (2 * v.render.length + 2)).1 v 0 [] hv (by omega) (by omega) ends_nil
  rw [List.append_nil] at hvalue
  rw [parse, parseFirst, hvalue]
  rfl

/-! ## Records -/

/-- A member that names a field is read into it. -/
theorem readMembers_found {σ : Type} {fields : List (Field σ)} {key : Text} {f : Field σ}
    (hf : Field.find? fields key = some f) {s s' : σ} {v : Json} (hv : f.read s v = .ok s') (rest : List (Text × Json)) :
    readMembers fields s ((key, v) :: rest) = readMembers fields s' rest := by
  rw [readMembers, hf]
  simp only [hv]

/-- The values of the members that a name stands for, up to case. -/
def named (name : Text) (members : List (Text × Json)) : List Json :=
  (members.filter fun m => Text.equalFold name m.1).map Prod.snd

/-- A member of the name counts. -/
theorem named_cons_of_eq {name key : Text} (h : Text.equalFold name key = true) (v : Json) (rest : List (Text × Json)) :
    named name ((key, v) :: rest) = v :: named name rest := by
  simp only [named, List.filter_cons, h, if_true, List.map_cons]

/-- A member of another name does not count. -/
theorem named_cons_of_ne {name key : Text} (h : Text.equalFold name key = false) (v : Json) (rest : List (Text × Json)) :
    named name ((key, v) :: rest) = named name rest := by
  simp only [named, List.filter_cons, h, Bool.false_eq_true, if_false]

/-- A field reads a part of the record with a reader of its own. -/
def Field.Reads {σ α : Type} (f : Field σ) (get : σ → α) (read : Reader α) : Prop :=
  ∀ s s' v, f.read s v = .ok s' → read (get s) v = .ok (get s')

/-- A field leaves a part of the record alone. -/
def Field.Keeps {σ α : Type} (f : Field σ) (get : σ → α) : Prop := ∀ s s' v, f.read s v = .ok s' → get s' = get s

section Lenses

variable {σ α : Type} {name : Text} {get : σ → α} {put : σ → α → σ} {read : Reader α}

/-- A field is read by its own reader, and the result is put into the record. -/
theorem Field.of_read_eq_ok {s s' : σ} {v : Json} :
    (Field.of name get put read).read s v = .ok s' ↔ ∃ x, read (get s) v = .ok x ∧ put s x = s' := by
  show (read (get s) v).map (put s) = .ok s' ↔ _
  cases read (get s) v <;> simp [Except.map]

/-- A value can be read into a field exactly if its own reader takes it. -/
theorem Field.exists_of_read {s : σ} {v : Json} :
    (∃ s', (Field.of name get put read).read s v = .ok s') ↔ ∃ x, read (get s) v = .ok x := by
  simp only [of_read_eq_ok]
  exact ⟨fun ⟨_, x, hx, _⟩ => ⟨x, hx⟩, fun ⟨x, hx⟩ => ⟨_, x, hx, rfl⟩⟩

/-- A field reads the part of the record that it writes. -/
theorem Field.reads_of (h : ∀ s x, get (put s x) = x) : (Field.of name get put read).Reads get read := by
  intro s s' v hread
  obtain ⟨x, hx, rfl⟩ := of_read_eq_ok.mp hread
  rw [hx, h]

/-- A field keeps what its writing keeps. -/
theorem Field.keeps_of {β : Type} {part : σ → β} (h : ∀ s x, part (put s x) = part s) :
    (Field.of name get put read).Keeps part := by
  intro s s' v hread
  obtain ⟨x, -, rfl⟩ := of_read_eq_ok.mp hread
  exact h s x

end Lenses

section Records

variable {σ : Type} {fields : List (Field σ)} (hdistinct : (fields.map fun f => Text.foldKey f.name).Nodup)

include hdistinct

/-- Names that are equal up to case name the same field. -/
theorem Field.eq_of_foldKey {f g : Field σ} (hf : f ∈ fields) (hg : g ∈ fields)
    (h : Text.foldKey g.name = Text.foldKey f.name) : g = f :=
  List.inj_on_of_nodup_map hdistinct hg hf h

/-- Where no two names are equal up to case, a key names the field it equals up to case. -/
theorem Field.find?_eq (key : Text) : Field.find? fields key = fields.find? fun f => Text.equalFold f.name key := by
  unfold Field.find?
  cases hexact : fields.find? fun f => f.name == key with
  | none => exact Option.none_or
  | some f =>
    have hf : f ∈ fields := List.mem_of_find?_eq_some hexact
    have hbeq := List.find?_some hexact
    have hname : f.name = key := eq_of_beq hbeq
    cases hfold : fields.find? fun f => Text.equalFold f.name key with
    | none =>
      have := List.find?_eq_none.mp hfold f hf
      simp [Text.equalFold, hname] at this
    | some g =>
      have hg : g ∈ fields := List.mem_of_find?_eq_some hfold
      have hbeq := List.find?_some hfold
      have hkeys : Text.foldKey g.name = Text.foldKey f.name := hname ▸ eq_of_beq hbeq
      rw [eq_of_foldKey hdistinct hf hg hkeys]
      rfl

/-- What a key names: one field, whose name alone it equals up to case, or none. -/
theorem Field.find?_cases (key : Text) :
    (Field.find? fields key = none ∧ ∀ f ∈ fields, Text.equalFold f.name key = false) ∨
      ∃ f ∈ fields, Field.find? fields key = some f ∧ Text.equalFold f.name key = true ∧
        ∀ g ∈ fields, g.name ≠ f.name → Text.equalFold g.name key = false := by
  rw [find?_eq hdistinct]
  cases hfind : fields.find? fun f => Text.equalFold f.name key with
  | none =>
    refine .inl ⟨rfl, fun f hf => ?_⟩
    simpa using List.find?_eq_none.mp hfind f hf
  | some f =>
    have hf : f ∈ fields := List.mem_of_find?_eq_some hfind
    have hbeq := List.find?_some hfind
    have hfold : Text.equalFold f.name key = true := hbeq
    refine .inr ⟨f, hf, rfl, hfold, fun g hg hne => Bool.eq_false_iff.mpr fun hgold => hne ?_⟩
    have hkeys : Text.foldKey g.name = Text.foldKey f.name := (eq_of_beq hgold).trans (eq_of_beq hfold).symm
    rw [eq_of_foldKey hdistinct hf hg hkeys]

/-- A part of a record that one field reads, and no other field changes, is read from the members of that name, in order. -/
theorem readMembers_get {α : Type} {get : σ → α} {read : Reader α} {f : Field σ} (hf : f ∈ fields) (hreads : f.Reads get read)
    (hothers : ∀ g ∈ fields, g.name ≠ f.name → g.Keeps get) {members : List (Text × Json)} {s s' : σ}
    (h : readMembers fields s members = .ok s') : (named f.name members).foldlM read (get s) = .ok (get s') := by
  induction members generalizing s with
  | nil =>
    obtain rfl := Except.ok.inj h
    rfl
  | cons m rest ih =>
    obtain ⟨key, v⟩ := m
    rw [readMembers] at h
    obtain ⟨hnone, hall⟩ | ⟨g, hg, hfind, hfold, hunique⟩ := Field.find?_cases hdistinct key
    · rw [hnone] at h
      rw [named_cons_of_ne (hall f hf)]
      exact ih h
    · rw [hfind] at h
      dsimp only at h
      split at h
      · rename_i t hread
        by_cases heq : g.name = f.name
        · obtain rfl : g = f := Field.eq_of_foldKey hdistinct hf hg (congrArg Text.foldKey heq)
          rw [named_cons_of_eq hfold, List.foldlM_cons, hreads s t v hread]
          exact ih h
        · rw [named_cons_of_ne (hunique f hf (Ne.symm heq)), ← hothers g hg heq s t v hread]
          exact ih h
      · cases h

/-- Members can be read into a record if every value fits the field it is for, where what fits does not depend on what has
been read so far. -/
theorem readMembers_ok_iff (fits : Field σ → Json → Prop)
    (hfits : ∀ f ∈ fields, ∀ s v, (∃ s', f.read s v = .ok s') ↔ fits f v) (members : List (Text × Json)) (s : σ) :
    (∃ s', readMembers fields s members = .ok s') ↔ ∀ f ∈ fields, ∀ v ∈ named f.name members, fits f v := by
  induction members generalizing s with
  | nil => exact ⟨fun _ => nofun, fun _ => ⟨s, rfl⟩⟩
  | cons m rest ih =>
    obtain ⟨key, v⟩ := m
    rw [readMembers]
    obtain ⟨hnone, hall⟩ | ⟨f, hf, hfind, hfold, hunique⟩ := Field.find?_cases hdistinct key
    · rw [hnone]
      dsimp only
      rw [ih]
      refine forall₂_congr fun g hg => ?_
      rw [named_cons_of_ne (hall g hg)]
    · rw [hfind]
      dsimp only
      constructor
      · rintro ⟨s', h⟩ g hg
        split at h
        · rename_i t hread
          have hrest := (ih t).mp ⟨s', h⟩ g hg
          by_cases heq : g.name = f.name
          · rw [named_cons_of_eq (heq ▸ hfold), List.forall_mem_cons]
            obtain rfl : g = f := Field.eq_of_foldKey hdistinct hf hg (congrArg Text.foldKey heq)
            exact ⟨(hfits g hg s v).mp ⟨t, hread⟩, hrest⟩
          · rwa [named_cons_of_ne (hunique g hg heq)]
        · cases h
      · intro h
        have hown := h f hf
        rw [named_cons_of_eq hfold, List.forall_mem_cons] at hown
        obtain ⟨t, hread⟩ := (hfits f hf s v).mpr hown.1
        rw [hread]
        refine (ih t).mpr fun g hg => ?_
        by_cases heq : g.name = f.name
        · obtain rfl : g = f := Field.eq_of_foldKey hdistinct hf hg (congrArg Text.foldKey heq)
          exact hown.2
        · have hrest := h g hg
          rwa [named_cons_of_ne (hunique g hg heq)] at hrest

end Records

end Json

end Roster
