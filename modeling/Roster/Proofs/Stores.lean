import Roster.Store.Memory
import Roster.Cache.Local
import Roster.Text.Numeral
import Mathlib.Data.List.Basic

/-!
# Stores and caches as maps

The store in memory and the cache in the process are maps: what a look-up finds after a change is what was written under
the key, and what was there before under every other key. Ids reach the cache as decimal texts; distinct ids have distinct
texts, because reading the text of an id gives the id back.
-/

namespace Roster

/-! ## Decimal texts -/

namespace Text

/-- The number that digits denote when they follow those that denote `n`. -/
def valueFrom (n : Nat) (t : Text) : Nat := t.foldl (fun n b => n * 10 + (b.toNat - 48)) n

/-- The digits follow each other in ASCII. -/
theorem digit_toNat {d : Nat} (h : d < 10) : (digit d).toNat = 48 + d := by
  simp only [digit, Nat.toUInt8, UInt8.toNat_ofNat']
  omega

/-- A digit is one. -/
theorem isDigit_digit {d : Nat} (h : d < 10) : isDigit (digit d) = true := by
  have hd := digit_toNat h
  simp only [isDigit, Bool.and_eq_true, decide_eq_true_eq, UInt8.le_iff_toNat_le, hd]
  exact ⟨by simp, by simp; omega⟩

/-- Writing a number in front of digits and reading on gives what reading the digits after the number gives. -/
theorem valueFrom_decimalFrom {fuel n : Nat} (h : n < fuel) (acc : Text) :
    valueFrom 0 (decimalFrom fuel n acc) = valueFrom n acc := by
  induction fuel generalizing n acc with
  | zero => omega
  | succ fuel ih =>
    simp only [decimalFrom]
    split
    · rename_i hn
      simp only [valueFrom, List.foldl_cons, digit_toNat hn]
      congr 1
      omega
    · rw [ih (by omega)]
      have hd := digit_toNat (Nat.mod_lt n (by omega : 0 < 10))
      simp only [valueFrom, List.foldl_cons, hd]
      congr 1
      omega

/-- Digits put before digits are digits. -/
theorem all_isDigit_decimalFrom (fuel n : Nat) {acc : Text} (h : acc.all isDigit = true) :
    (decimalFrom fuel n acc).all isDigit = true := by
  induction fuel generalizing n acc with
  | zero => exact h
  | succ fuel ih =>
    simp only [decimalFrom]
    split
    · rename_i hn
      simp only [List.all_cons, isDigit_digit hn, h, Bool.and_self]
    · refine ih _ ?_
      simp only [List.all_cons, isDigit_digit (Nat.mod_lt n (by omega : 0 < 10)), h, Bool.and_self]

/-- At least one digit is written. -/
theorem decimalFrom_ne_nil (fuel n : Nat) {acc : Text} (h : fuel ≠ 0 ∨ acc ≠ []) : decimalFrom fuel n acc ≠ [] := by
  induction fuel generalizing n acc with
  | zero => simpa [decimalFrom] using h
  | succ fuel ih =>
    simp only [decimalFrom]
    split
    · exact List.cons_ne_nil _ _
    · exact ih _ (Or.inr (List.cons_ne_nil _ _))

/-- No number is written as the empty text. -/
theorem isEmpty_decimal (n : Nat) : (decimal n).isEmpty = false := by
  rw [List.isEmpty_eq_false_iff]
  exact decimalFrom_ne_nil _ _ (Or.inl (Nat.succ_ne_zero n))

/-- A number is written in digits only. -/
theorem all_isDigit_decimal (n : Nat) : (decimal n).all isDigit = true := all_isDigit_decimalFrom _ _ rfl

/-- A number that is written and read back is the number. -/
theorem valueFrom_decimal (n : Nat) : valueFrom 0 (decimal n) = n := valueFrom_decimalFrom (Nat.lt_succ_self n) []

/-- Reading the decimal text of a number gives the number back. -/
theorem toNat?_decimal (n : Nat) : toNat? (decimal n) = some n := by
  simp only [toNat?, isEmpty_decimal, all_isDigit_decimal, Bool.not_true, Bool.or_self, Bool.false_eq_true, if_false]
  exact congrArg some (valueFrom_decimal n)

/-- More digits do not make a number smaller. -/
theorem le_valueFrom (n : Nat) (t : Text) : n ≤ valueFrom n t := by
  induction t generalizing n with
  | nil => exact Nat.le_refl n
  | cons b t ih =>
    have h := ih (n * 10 + (b.toNat - 48))
    simp only [valueFrom, List.foldl_cons] at h ⊢
    omega

/-- Digits that denote a number below the bound of machine words are read as that number. -/
theorem digits_eq_valueFrom {t : Text} (ht : t.all isDigit = true) {n : Nat} (h : valueFrom n t < Word.count) :
    Numeral.digits 10 false t n = .ok (valueFrom n t) := by
  induction t generalizing n with
  | nil => rfl
  | cons b t ih =>
    obtain ⟨hb, ht⟩ : isDigit b = true ∧ t.all isDigit = true := by simpa using ht
    have hsmall : b.toNat - 48 < 10 := by
      simp only [isDigit, Bool.and_eq_true, decide_eq_true_eq, UInt8.le_iff_toNat_le] at hb
      have := hb.2
      simp at this
      omega
    have hnext : n * 10 + (b.toNat - 48) < Word.count := Nat.lt_of_le_of_lt (le_valueFrom _ t) h
    simp only [Numeral.digits, Bool.false_and, Bool.false_eq_true, if_false, Numeral.digitValue?, hb, if_true]
    rw [if_neg (by omega), if_neg (by omega)]
    exact ih ht h

/-- A machine word is read back from its decimal text. -/
theorem natural_decimal {n : Nat} (h : n < Word.count) : Numeral.natural (decimal n) = .ok n := by
  simp only [Numeral.natural, Numeral.naturalIn, isEmpty_decimal, Bool.false_eq_true, if_false]
  rw [digits_eq_valueFrom (all_isDigit_decimal n) (by rwa [valueFrom_decimal]), valueFrom_decimal]

/-- Distinct numbers are written differently. -/
theorem decimal_injective {n k : Nat} (h : decimal n = decimal k) : n = k := by
  have := congrArg toNat? h
  rwa [toNat?_decimal, toNat?_decimal, Option.some.injEq] at this

end Text

/-- Distinct ids have distinct keys. -/
theorem User.key_injective {i j : UInt64} (h : User.key i = User.key j) : i = j :=
  UInt64.toNat_inj.mp (Text.decimal_injective h)

/-! ## The store in memory -/

namespace Store.Memory

variable (m : Memory)

/-- A user is found under its own id only. -/
theorem id_of_find? {m : Memory} {id : UInt64} {u : User} (h : m.find? id = some u) : u.id = id := by
  have := List.find?_some h
  simpa using this

/-- A user that has been saved is found as it was answered with. -/
@[simp]
theorem find?_save_self (now : Timestamp) (u : User) : (m.save now u).2.find? u.id = some (m.save now u).1 := by
  simp [save, find?]

/-- A user that is left out does not affect the others. -/
theorem find?_without (id id' : UInt64) (h : id' ≠ id) :
    Memory.find? ⟨m.users.filter fun v => v.id != id⟩ id' = m.find? id' := by
  simp only [find?, List.find?_filter]
  congr 1
  funext v
  by_cases hv : v.id = id'
  · simp [hv, h]
  · simp [hv]

/-- A user that is left out is not found. -/
theorem find?_without_self (id : UInt64) : Memory.find? ⟨m.users.filter fun v => v.id != id⟩ id = none := by
  simp only [find?, List.find?_eq_none, List.mem_filter]
  intro v hv
  simpa using hv.2

/-- Saving a user leaves the others as they were. -/
theorem find?_save_other (now : Timestamp) (u : User) {id : UInt64} (h : id ≠ u.id) :
    (m.save now u).2.find? id = m.find? id := by
  rw [← find?_without m u.id id h]
  simp only [save, find?, List.find?_cons]
  have : ((u.id == id) = false) := by simpa using fun e => h e.symm
  simp only [this]

/-- Removing a stored user succeeds and leaves every other user. -/
theorem delete_stored {m : Memory} {id : UInt64} {u : User} (h : m.find? id = some u) :
    m.delete id = (.ok (), ⟨m.users.filter fun v => v.id != id⟩) := by
  simp only [delete, h]

/-- Deleting a user who is not there fails and changes nothing. -/
theorem delete_absent {m : Memory} {id : UInt64} (h : m.find? id = none) :
    m.delete id = (.error (.userAbsent id), m) := by
  simp only [delete, h]

/-- After a removal, successful or not, nothing is stored under the id. -/
theorem find?_delete_self (id : UInt64) : (m.delete id).2.find? id = none := by
  cases h : m.find? id with
  | none => rw [delete_absent h, h]
  | some u => rw [delete_stored h]; exact find?_without_self m id

/-- Deleting a user leaves the others as they were. -/
theorem find?_delete_other {id id' : UInt64} (h : id' ≠ id) : (m.delete id).2.find? id' = m.find? id' := by
  cases hf : m.find? id with
  | none => rw [delete_absent hf]
  | some u => rw [delete_stored hf]; exact find?_without m id id' h

end Store.Memory

/-! ## The cache in the process -/

namespace Cache.Local

variable {α : Type} (c : Local α)

/-- After a key has been erased nothing is under it, and the others are as they were. -/
theorem get?_erase (key key' : Text) : (c.erase key).get? key' = if key' = key then none else c.get? key' := by
  simp only [get?, erase]
  induction c.entries with
  | nil => simp
  | cons e rest ih =>
    obtain ⟨k, v⟩ := e
    by_cases hk : k = key
    · have hb : (k != key) = false := by simpa using hk
      simp only [List.filter_cons, hb, Bool.false_eq_true, if_false, ih, List.lookup_cons]
      by_cases hk' : key' = key
      · simp only [if_pos hk']
      · have hne : (key' == k) = false := by simpa [hk] using hk'
        simp only [if_neg hk', hne]
    · have hb : (k != key) = true := by simpa using hk
      simp only [List.filter_cons, hb, if_true, List.lookup_cons, ih]
      by_cases hk' : key' = k
      · have he : (key' == k) = true := by simpa using hk'
        simp only [he, if_neg (hk' ▸ hk)]
      · have hne : (key' == k) = false := by simpa using hk'
        simp only [hne]

/-- After a key has been set its value is under it, and the others are as they were. -/
theorem get?_set (key key' : Text) (v : α) : (c.set key v).get? key' = if key' = key then some v else c.get? key' := by
  have he := get?_erase c key key'
  simp only [get?, set, List.lookup_cons] at he ⊢
  by_cases h : key' = key
  · have hb : (key' == key) = true := by simpa using h
    simp only [hb, if_pos h]
  · have hb : (key' == key) = false := by simpa using h
    simp only [hb, he, if_neg h]

end Cache.Local

end Roster
