import Roster.Proofs.Stores
import Roster.Time.Timestamp
import Mathlib.Tactic.IntervalCases

/-!
# Timestamps and their text

A timestamp is read back from its full text, as long as its year has four digits and its offset is less than a day; seconds of
the offset are not written. The calendar is turned around first: the date of a day number is a date of the calendar and has that
number. Then each part of the text is read back with whatever follows it.
-/

namespace Roster

/-! ## The calendar -/

namespace Calendar

/-- The leap day of a year, if it has one. -/
def leapDay (year : Int) : Nat := if isLeap year then 1 else 0

/-- The year of a day in a cycle of four hundred years, the last day apart. A century has 36524 days, and four years of it have
1461; the last of four years may be longer than the others. -/
theorem year_of_cycle {c q s : Nat} (hc : c ≤ 3) (hq : q ≤ 24) (hs : s ≤ 1460) (hend : q = 24 → s ≤ 1459) {n : Nat}
    (hn : n = 36524 * c + 1461 * q + s) :
    (n - n / 1460 + n / 36524 - n / 146096) / 365 = 100 * c + 4 * q + min (s / 365) 3 := by
  have hcenturies : n / 36524 = c := by omega
  have hcycle : n / 146096 = 0 := by omega
  have hfours : n / 1460 = 25 * c + q + if 1460 ≤ 24 * c + q + s then 1 else 0 := by
    split <;> omega
  rw [hcenturies, hcycle, hfours]
  clear hcenturies hcycle hfours
  split <;> omega

/-- How a day of a cycle is split into years that start in March and days of them. Only a year before a leap year has 366
days. -/
theorem split_cycle {n y d : Nat} (hn : n < 146097) (hy : y = (n - n / 1460 + n / 36524 - n / 146096) / 365)
    (hd : d = n - (365 * y + y / 4 - y / 100)) :
    y < 400 ∧ n = 365 * y + y / 4 - y / 100 + d ∧ d ≤ 365 ∧ (d = 365 → (y + 1) % 4 = 0 ∧ ((y + 1) % 100 ≠ 0 ∨ y = 399)) := by
  by_cases hlast : n = 146096
  · subst hlast
    subst hy
    subst hd
    decide
  obtain ⟨c, q, s, hc, hq, hs, hend, hsplit⟩ : ∃ c q s, c ≤ 3 ∧ q ≤ 24 ∧ s ≤ 1460 ∧ (q = 24 → s ≤ 1459) ∧
      n = 36524 * c + 1461 * q + s := by
    refine ⟨n / 36524, n % 36524 / 1461, n % 36524 % 1461, ?_⟩
    clear hy hd
    omega
  rw [year_of_cycle hc hq hs hend hsplit] at hy
  have hleap : y / 4 = 25 * c + q := by omega
  have hhundred : y / 100 = c := by omega
  have hstart : 365 * y + y / 4 - y / 100 = 36524 * c + 1461 * q + 365 * min (s / 365) 3 := by omega
  rw [hstart] at hd ⊢
  clear hleap hhundred hstart hlast hn
  omega

/-- The next year starts a year later. -/
theorem daysBeforeYear_succ (year : Int) : daysBeforeYear (year + 1) = daysBeforeYear year + 365 + leapDay year := by
  unfold daysBeforeYear leapDay isLeap
  by_cases hfour : year % 4 = 0
  · by_cases hhundred : year % 100 = 0
    · by_cases hcycle : year % 400 = 0
      · simp [hfour, hhundred, hcycle]
        omega
      · simp [hfour, hhundred, hcycle]
        omega
    · simp [hfour, hhundred]
      omega
  · simp [hfour]
    omega

/-- The months from March on are those of any year, after the leap day. -/
theorem daysBeforeMonth_march (year : Int) {m : Nat} (hm : m ≤ 9) :
    daysBeforeMonth year (m + 3) = 59 + leapDay year + (153 * m + 2) / 5 := by
  unfold leapDay
  interval_cases m <;> simp [daysBeforeMonth, List.range, List.range.loop, daysIn] <;> split <;> rfl

/-- The years of a cycle, one after the other. -/
theorem daysBeforeYear_cycle (c : Int) {y : Nat} (hy : y < 400) :
    daysBeforeYear (c * 400 + y + 1) = 146097 * c + (365 * y + y / 4 - y / 100 : Nat) := by
  simp only [daysBeforeYear]
  omega

/-- The days of a month from March on, counted from the first of March. -/
theorem day_le_march (year : Int) {m d : Nat} (hm : m = (5 * d + 2) / 153) (hlate : m < 10) :
    d - (153 * m + 2) / 5 + 1 ≤ daysIn year (m + 3) := by
  interval_cases m <;> simp only [daysIn] <;> omega

/-- A year of a cycle that is divided by four, and not by a hundred unless it ends the cycle, is a leap year. -/
theorem isLeap_of_cycle (c : Int) {y : Nat} (hfour : (y + 1) % 4 = 0) (hhundred : (y + 1) % 100 ≠ 0 ∨ y = 399) :
    isLeap (c * 400 + y + 1) = true := by
  have hyear : (c * 400 + (y : Int) + 1) % 4 = 0 := by omega
  have hrule : (c * 400 + (y : Int) + 1) % 100 ≠ 0 ∨ (c * 400 + (y : Int) + 1) % 400 = 0 := by omega
  simp only [isLeap, hyear, beq_self_eq_true, Bool.true_and, Bool.or_eq_true, bne_iff_ne, beq_iff_eq]
  exact hrule

/-- A date that the calendar has. -/
structure Date.Real (d : Date) : Prop where
  month_pos : 1 ≤ d.month
  month_le : d.month ≤ 12
  day_pos : 1 ≤ d.day
  day_le : d.day ≤ daysIn d.year d.month

/-- The date of a day number is in the calendar, and it has that number. -/
theorem ofDays_real (days : Int) : (ofDays days).Real ∧ (ofDays days).toDays = days := by
  obtain ⟨c, hc⟩ : ∃ c, c = (days + 306) / 146097 := ⟨_, rfl⟩
  obtain ⟨n, hn⟩ : ∃ n, n = ((days + 306) % 146097).toNat := ⟨_, rfl⟩
  have hcycle : n < 146097 := by omega
  have hdays : days = 146097 * c + n - 306 := by omega
  obtain ⟨y, hy⟩ : ∃ y, y = (n - n / 1460 + n / 36524 - n / 146096) / 365 := ⟨_, rfl⟩
  obtain ⟨d, hd⟩ : ∃ d, d = n - (365 * y + y / 4 - y / 100) := ⟨_, rfl⟩
  obtain ⟨m, hm⟩ : ∃ m, m = (5 * d + 2) / 153 := ⟨_, rfl⟩
  have hdate : ofDays days =
      { year := c * 400 + y + (if (if m < 10 then m + 3 else m - 9) ≤ 2 then 1 else 0)
        month := if m < 10 then m + 3 else m - 9
        day := d - (153 * m + 2) / 5 + 1 } := by
    rw [hm, hd, hy, hn, hc]
    rfl
  obtain ⟨hyear, hsplit, hday, hlast⟩ := split_cycle hcycle hy hd
  have hnext := daysBeforeYear_cycle c hyear
  rw [hdate]
  clear hdate hd hy hn hc
  generalize 365 * y + y / 4 - y / 100 = start at hsplit hnext
  by_cases hlate : m < 10
  · -- From March to December the year is the one in which the count starts.
    have hmonth : ¬m + 3 ≤ 2 := by omega
    have hyears := daysBeforeYear_succ (c * 400 + y)
    have hbefore := daysBeforeMonth_march (c * 400 + y) (by omega : m ≤ 9)
    simp only [hlate, if_true, hmonth, if_false, Int.add_zero]
    have hdecember : m + 3 ≤ 12 := by omega
    refine ⟨⟨Nat.le_add_left 1 (m + 2), hdecember, Nat.le_add_left 1 _, day_le_march _ hm hlate⟩, ?_⟩
    simp only [Date.toDays, hbefore]
    omega
  · -- January and February belong to the year after it.
    obtain rfl | rfl : m = 10 ∨ m = 11 := by omega
    · refine ⟨⟨(by decide : 1 ≤ 1), (by decide : 1 ≤ 12), Nat.le_add_left 1 _, ?_⟩, ?_⟩
      · show d - 306 + 1 ≤ 31
        omega
      · show daysBeforeYear (c * 400 + y + 1) + (0 : Nat) + ((d - 306 + 1 : Nat) - 1) = days
        omega
    · refine ⟨⟨(by decide : 1 ≤ 2), (by decide : 2 ≤ 12), Nat.le_add_left 1 _, ?_⟩, ?_⟩
      · show d - 337 + 1 ≤ if isLeap (c * 400 + y + 1) then 29 else 28
        by_cases hleap : d = 365
        · obtain ⟨hfour, hhundred⟩ := hlast hleap
          rw [isLeap_of_cycle c hfour hhundred, if_pos rfl]
          omega
        · split <;> omega
      · show daysBeforeYear (c * 400 + y + 1) + (31 : Nat) + ((d - 337 + 1 : Nat) - 1) = days
        omega

end Calendar

/-! ## Numbers of a fixed width -/

namespace Text

/-- Digits are read from left to right. -/
theorem valueFrom_append (n : Nat) (t u : Text) : valueFrom n (t ++ u) = valueFrom (valueFrom n t) u := by
  simp only [valueFrom, List.foldl_append]

/-- Every zero at the end multiplies by ten. -/
theorem valueFrom_zeros (n k : Nat) : valueFrom n (List.replicate k 48) = n * 10 ^ k := by
  induction k generalizing n with
  | zero => simp [valueFrom]
  | succ k ih =>
    have hstep : valueFrom n (List.replicate (k + 1) 48) = valueFrom (n * 10) (List.replicate k 48) := rfl
    rw [hstep, ih, Nat.pow_succ, Nat.mul_assoc, Nat.mul_comm 10]

/-- A number has no more digits than a power of ten that exceeds it says. -/
theorem length_decimalFrom_le (fuel : Nat) {w n : Nat} (h : n < 10 ^ (w + 1)) (acc : Text) :
    (decimalFrom fuel n acc).length ≤ w + 1 + acc.length := by
  induction fuel generalizing w n acc with
  | zero => simp only [decimalFrom]; omega
  | succ fuel ih =>
    simp only [decimalFrom]
    split
    · simp only [List.length_cons]
      omega
    · cases w with
      | zero => omega
      | succ w =>
        have hshort : n / 10 < 10 ^ (w + 1) := by
          rw [Nat.pow_succ] at h
          omega
        have hrest := ih hshort (digit (n % 10) :: acc)
        simp only [List.length_cons] at hrest
        omega

/-- A number that fits is written with exactly the given number of digits. -/
theorem length_padded {w n : Nat} (h : n < 10 ^ (w + 1)) : (padded (w + 1) n).length = w + 1 := by
  have hshort := length_decimalFrom_le (n + 1) h []
  simp only [List.length_nil, Nat.add_zero] at hshort
  have hdecimal : (decimal n).length ≤ w + 1 := hshort
  simp only [padded, List.length_append, List.length_replicate]
  omega

/-- A padded number is written in digits only. -/
theorem all_isDigit_padded (w n : Nat) : (padded w n).all isDigit = true := by
  have hzero : isDigit 48 = true := by decide
  simp only [padded, List.all_append, all_isDigit_decimal, Bool.and_true, List.all_replicate, hzero, ite_self]

/-- Zeros in front do not change a number. -/
theorem valueFrom_padded (w n : Nat) : valueFrom 0 (padded w n) = n := by
  simp only [padded, valueFrom_append, valueFrom_zeros, Nat.zero_mul, valueFrom_decimal]

end Text

namespace Timestamp

/-- Two bytes that are digits are read as the number they denote. -/
theorem exists_two {t : Text} (hlength : t.length = 2) (hdigits : t.all Text.isDigit = true) :
    ∃ a b, t = [a, b] ∧ Text.isDigit a = true ∧ Text.isDigit b = true ∧
      (a.toNat - 48) * 10 + (b.toNat - 48) = Text.valueFrom 0 t := by
  obtain ⟨a, b, rfl⟩ := List.length_eq_two.mp hlength
  simp only [List.all_cons, List.all_nil, Bool.and_true, Bool.and_eq_true] at hdigits
  refine ⟨a, b, rfl, hdigits.1, hdigits.2, ?_⟩
  simp [Text.valueFrom]

/-- Two digits are read back, whatever follows. -/
theorem twoDigits?_padded {n : Nat} (h : n < 100) (rest : Text) : twoDigits? (Text.padded 2 n ++ rest) = some (n, rest) := by
  obtain ⟨a, b, hab, ha, hb, hvalue⟩ := exists_two (Text.length_padded h) (Text.all_isDigit_padded 2 n)
  rw [Text.valueFrom_padded] at hvalue
  rw [hab]
  simp only [List.cons_append, List.nil_append, twoDigits?, ha, hb, Bool.and_self, if_true, hvalue]

/-- Two digits are read back also where one would do. -/
theorem upToTwoDigits?_padded {n : Nat} (h : n < 100) (rest : Text) :
    upToTwoDigits? (Text.padded 2 n ++ rest) = some (n, rest) := by
  obtain ⟨a, b, hab, ha, hb, hvalue⟩ := exists_two (Text.length_padded h) (Text.all_isDigit_padded 2 n)
  rw [Text.valueFrom_padded] at hvalue
  rw [hab]
  simp only [List.cons_append, List.nil_append, upToTwoDigits?, ha, hb, Bool.not_true, Bool.false_eq_true, if_false, if_true,
    hvalue]

/-- Four digits are read back, whatever follows. -/
theorem fourDigits?_padded {n : Nat} (h : n < 10000) (rest : Text) :
    fourDigits? (Text.padded 4 n ++ rest) = some (n, rest) := by
  have hlength : (Text.padded 4 n).length = 4 := Text.length_padded h
  have hread : Text.toNat? (Text.padded 4 n) = some n := by
    have hempty : (Text.padded 4 n).isEmpty = false := by
      rw [List.isEmpty_eq_false_iff, ← List.length_pos_iff, hlength]
      decide
    simp only [Text.toNat?, hempty, Text.all_isDigit_padded, Bool.not_true, Bool.or_self, Bool.false_eq_true, if_false]
    exact congrArg some (Text.valueFrom_padded 4 n)
  generalize Text.padded 4 n = t at hlength hread
  rcases t with _ | ⟨a, _ | ⟨b, _ | ⟨c, _ | ⟨d, _ | ⟨e, t⟩⟩⟩⟩⟩
  case cons.cons.cons.cons.nil => simp only [List.cons_append, List.nil_append, fourDigits?, hread, Option.map_some]
  all_goals simp at hlength

/-! ## The fraction of a second -/

/-- Digits without their trailing zeros. -/
theorem dropEndWhile_zeros (t : Text) : ∃ k, t = Text.dropEndWhile (· == 48) t ++ List.replicate k 48 := by
  refine ⟨(t.reverse.takeWhile (· == 48)).length, ?_⟩
  have hzeros : ∀ b ∈ t.reverse.takeWhile (· == 48), b = 48 := by
    intro b hb
    simpa using List.all_eq_true.mp List.all_takeWhile b hb
  have hsplit := congrArg List.reverse (List.takeWhile_append_dropWhile (p := (· == (48 : UInt8))) (l := t.reverse))
  rw [List.reverse_append, List.reverse_reverse, List.eq_replicate_of_mem hzeros, List.reverse_replicate] at hsplit
  exact hsplit.symm

/-- The nanoseconds are read back from the fraction, if what follows does not go on with it. -/
theorem takeFraction_render {n : Nat} (h : n < 1000000000) {z : UInt8} (hdigit : Text.isDigit z = false)
    (hpoint : (z == Text.byte '.' || z == Text.byte ',') = false) (rest : Text) :
    takeFraction (renderFraction n ++ z :: rest) = (n, z :: rest) := by
  by_cases hzero : n = 0
  · subst hzero
    show takeFraction (z :: rest) = _
    cases rest with
    | nil => rfl
    | cons b rest => simp only [takeFraction, hpoint, Bool.false_and, Bool.false_eq_true, if_false]
  obtain ⟨k, hk⟩ := dropEndWhile_zeros (Text.padded 9 n)
  have hfraction : renderFraction n = Text.byte '.' :: Text.dropEndWhile (· == 48) (Text.padded 9 n) := by
    rw [renderFraction, if_neg (by simpa using hzero)]
  rw [hfraction]
  have hlength : (Text.padded 9 n).length = 9 := Text.length_padded h
  have hdigits := Text.all_isDigit_padded 9 n
  have hvalue := Text.valueFrom_padded 9 n
  generalize Text.dropEndWhile (· == 48) (Text.padded 9 n) = t at hk ⊢
  rw [hk, List.length_append, List.length_replicate] at hlength
  rw [hk, List.all_append, Bool.and_eq_true] at hdigits
  rw [hk, Text.valueFrom_append, Text.valueFrom_zeros] at hvalue
  have hall : ∀ b ∈ t, Text.isDigit b = true := List.all_eq_true.mp hdigits.1
  cases t with
  | nil =>
    simp only [Text.valueFrom, List.foldl_nil, Nat.zero_mul] at hvalue
    exact absurd hvalue.symm hzero
  | cons b t =>
    have hnanoseconds : nanoseconds (b :: t) = n := by
      have hkept : (b :: t).take 9 = b :: t := List.take_of_length_le (by omega)
      have hread : Text.toNat? (b :: t) = some (Text.valueFrom 0 (b :: t)) := by
        simp only [Text.toNat?, List.isEmpty_cons, hdigits.1, Bool.not_true, Bool.or_self, Bool.false_eq_true, if_false]
        rfl
      have hplaces : 9 - (b :: t).length = k := by omega
      simp only [nanoseconds, hkept, hread, Option.getD_some, hplaces]
      exact hvalue
    have htake : (b :: t ++ z :: rest).takeWhile Text.isDigit = b :: t := by
      rw [List.takeWhile_append_of_pos hall]
      simp only [List.takeWhile_cons, hdigit]
      simp
    have hdrop : (b :: t ++ z :: rest).dropWhile Text.isDigit = z :: rest := by
      rw [List.dropWhile_append_of_pos hall]
      simp only [List.dropWhile_cons, hdigit, Bool.false_eq_true, if_false]
    have hfirst : Text.isDigit b = true := hall b List.mem_cons_self
    simp only [List.cons_append] at htake hdrop ⊢
    simp only [takeFraction, beq_self_eq_true, Bool.true_or, hfirst, Bool.and_self, if_true, htake, hdrop, hnanoseconds]

/-! ## The offset -/

/-- The end of a text, from which an offset is read. It does not go on with a fraction. -/
structure Zone (z : UInt8) (rest : Text) (offset : Int) : Prop where
  not_digit : Text.isDigit z = false
  not_point : (z == Text.byte '.' || z == Text.byte ',') = false
  read : z = Text.byte 'Z' ∧ rest = [] ∧ offset = 0 ∨
    z ≠ Text.byte 'Z' ∧ ∀ whole, signedOffset whole (z :: rest) = .ok (offset, [])

theorem zone_universal : Zone (Text.byte 'Z') [] 0 :=
  ⟨by decide, by decide, .inl ⟨rfl, rfl, rfl⟩⟩

/-- Hours and minutes behind a sign are read back. -/
theorem signedOffset_padded (whole : Text) (sign : UInt8) {hours minutes : Nat} (hhours : hours < 24)
    (hminutes : minutes < 60) :
    signedOffset whole (sign :: Text.padded 2 hours ++ Text.byte ':' :: Text.padded 2 minutes) =
      if sign == Text.byte '+' then .ok ((hours * 60 + minutes) * 60, [])
      else if sign == Text.byte '-' then .ok (-((hours * 60 + minutes) * 60), [])
      else .error (.malformed whole (sign :: Text.padded 2 hours ++ Text.byte ':' :: Text.padded 2 minutes)
        Field.offset.pattern) := by
  have hreadHours := twoDigits?_padded (by omega : hours < 100) []
  have hreadMinutes := twoDigits?_padded (by omega : minutes < 100) []
  rw [List.append_nil] at hreadHours hreadMinutes
  obtain ⟨a, b, hab, -⟩ := exists_two (Text.length_padded (by omega : hours < 10 ^ 2)) (Text.all_isDigit_padded 2 hours)
  obtain ⟨c, d, hcd, -⟩ := exists_two (Text.length_padded (by omega : minutes < 10 ^ 2)) (Text.all_isDigit_padded 2 minutes)
  rw [hab] at hreadHours ⊢
  rw [hcd] at hreadMinutes ⊢
  have hcolon : (Text.byte ':' != Text.byte ':') = false := by decide
  simp only [List.cons_append, List.nil_append, signedOffset, hcolon, Bool.false_eq_true, if_false, hreadHours, hreadMinutes,
    show ¬hours > 24 by omega, show ¬minutes > 60 by omega]

/-- An offset of less than a day is read back, without its seconds. -/
theorem zone_renderOffset {t : Timestamp} (h : t.offset.natAbs < 86400) :
    ∃ z rest, t.renderOffset = z :: rest ∧ Zone z rest (t.offset.tdiv 60 * 60) := by
  by_cases huniversal : t.offset = 0
  · refine ⟨Text.byte 'Z', [], ?_, ?_⟩
    · rw [renderOffset, huniversal, if_pos (by decide)]
      decide +kernel
    · rw [huniversal]
      exact zone_universal
  obtain ⟨minutes, hminutes⟩ : ∃ minutes, minutes = t.offset.natAbs / 60 := ⟨_, rfl⟩
  have hhour : minutes / 60 < 24 := by omega
  refine ⟨t.offsetSign, Text.padded 2 (minutes / 60) ++ Text.byte ':' :: Text.padded 2 (minutes % 60), ?_, ?_, ?_, ?_⟩
  · rw [renderOffset, if_neg (by simpa using huniversal), hminutes]
    rfl
  · unfold offsetSign
    split <;> decide
  · unfold offsetSign
    split <;> decide
  refine .inr ⟨?_, fun whole => ?_⟩
  · unfold offsetSign
    split <;> decide
  refine (signedOffset_padded whole t.offsetSign hhour (Nat.mod_lt _ (by decide))).trans ?_
  have hdiv := Int.tdiv_eq_ediv (a := t.offset) (b := 60)
  have hsixty : Int.sign 60 = 1 := by decide
  -- The sign is that of the whole minutes.
  unfold offsetSign
  split
  case isTrue hwest =>
    have hvalue : -(((minutes / 60 : Nat) * 60 + (minutes % 60 : Nat) : Int) * 60) = t.offset.tdiv 60 * 60 := by omega
    rw [if_neg (by decide), if_pos (by decide), hvalue]
  case isFalse heast =>
    have hvalue : (((minutes / 60 : Nat) * 60 + (minutes % 60 : Nat) : Int) * 60) = t.offset.tdiv 60 * 60 := by omega
    rw [if_pos (by decide), hvalue]

/-! ## The whole text -/

theorem expect_cons (whole : Text) (c : Char) (rest : Text) : expect whole c (Text.byte c :: rest) = .ok rest := by
  simp [expect]

/-- A number that can be read is taken. -/
theorem number_of_read (whole : Text) (field : Field) {read : Text → Option (Nat × Text)} {t rest : Text} {n : Nat}
    (h : read t = some (n, rest)) : number whole field read t = .ok (n, rest) := by
  rw [number, h]

/-- What is in range is not refused. -/
theorem within_of (whole what : Text) {ok : Bool} (h : ok = true) : within whole what ok = .ok () := by
  rw [within, h, if_pos rfl]

/-- The full text of a timestamp, put together from what it shows. -/
def written (year month day hour minute second nanosecond : Nat) (zone : Text) : Text :=
  Text.padded 4 year ++ Text.byte '-' :: (Text.padded 2 month ++ Text.byte '-' :: (Text.padded 2 day ++ Text.byte 'T' ::
    (Text.padded 2 hour ++ Text.byte ':' :: (Text.padded 2 minute ++ Text.byte ':' :: (Text.padded 2 second ++
      (renderFraction nanosecond ++ zone))))))

/-- What is written part by part is read part by part. -/
theorem parse_written {date : Calendar.Date} {year hour minute second nanosecond : Nat} {z : UInt8} {rest : Text} {offset : Int}
    (hyear : date.year = year) (hdigits : year < 10000) (hdate : date.Real) (hhour : hour < 24) (hminute : minute < 60)
    (hsecond : second < 60) (hnanosecond : nanosecond < 1000000000) (hzone : Zone z rest offset) :
    parse (written year date.month date.day hour minute second nanosecond (z :: rest)) =
      .ok (ofParts date (hour * 3600 + minute * 60 + second) nanosecond offset) := by
  have hmonth : date.month < 100 := Nat.lt_of_le_of_lt hdate.month_le (by decide)
  have hdays : Calendar.daysIn date.year date.month ≤ 31 := by
    unfold Calendar.daysIn
    split
    · split <;> decide
    all_goals decide
  have hday : date.day < 100 := by
    have hle := hdate.day_le
    omega
  unfold written
  generalize hend : renderFraction nanosecond ++ z :: rest = ending
  have hfraction : takeFraction ending = (nanosecond, z :: rest) :=
    hend ▸ takeFraction_render hnanosecond hzone.not_digit hzone.not_point rest
  have hinYear : (decide (1 ≤ date.month) && decide (date.month ≤ 12)) = true := by
    simp only [hdate.month_pos, hdate.month_le, decide_true, Bool.and_self]
  have hinMonth : (decide (1 ≤ date.day) && decide (date.day ≤ Calendar.daysIn date.year date.month)) = true := by
    simp only [hdate.day_pos, hdate.day_le, decide_true, Bool.and_self]
  unfold parse
  simp only [number_of_read _ _ (fourDigits?_padded hdigits _), number_of_read _ _ (twoDigits?_padded hmonth _),
    number_of_read _ _ (twoDigits?_padded hday _), number_of_read _ _ (upToTwoDigits?_padded (by omega : hour < 100) _),
    number_of_read _ _ (twoDigits?_padded (by omega : minute < 100) _),
    number_of_read _ _ (twoDigits?_padded (by omega : second < 100) _), expect_cons, bind, Except.bind,
    within_of _ _ hinYear, within_of _ _ (decide_eq_true hhour), within_of _ _ (decide_eq_true hminute),
    within_of _ _ (decide_eq_true hsecond), hfraction, pure, Except.pure, within_of _ _ hinMonth, ← hyear]
  rcases hzone.read with ⟨rfl, rfl, rfl⟩ | ⟨hletter, hread⟩
  · simp only [beq_self_eq_true, if_true, List.isEmpty_nil, Bool.not_true, Bool.false_eq_true, if_false]
  · simp only [beq_eq_false_iff_ne.mpr hletter, hread, List.isEmpty_nil, Bool.not_true, Bool.false_eq_true, if_false]

/-- A timestamp that can be written: its year has at most four digits, its offset is less than a day. -/
structure Writable (t : Timestamp) : Prop where
  year_nonneg : 0 ≤ t.date.year
  year_le : t.date.year ≤ 9999
  offset_lt : t.offset.natAbs < 86400

/-- A timestamp in universal time whose year has at most four digits. -/
structure Plain (t : Timestamp) : Prop where
  universal : t.offset = 0
  year_nonneg : 0 ≤ t.date.year
  year_le : t.date.year ≤ 9999

/-- A plain timestamp can be written. -/
theorem Plain.writable {t : Timestamp} (h : t.Plain) : t.Writable :=
  ⟨h.year_nonneg, h.year_le, by rw [h.universal]; decide⟩

/-- What is left of a timestamp in its text: an offset without seconds, and the date and time of day that were shown. -/
def inMinutes (t : Timestamp) : Timestamp :=
  { instant := t.instant + t.offset.tmod 60 * Span.second
    offset := t.offset.tdiv 60 * 60 }

/-- Nothing is lost if the offset has no seconds. -/
theorem inMinutes_of_tmod {t : Timestamp} (h : t.offset.tmod 60 = 0) : t.inMinutes = t := by
  have hoffset : t.offset.tdiv 60 * 60 = t.offset := Int.tdiv_mul_cancel (Int.dvd_of_tmod_eq_zero h)
  rw [inMinutes, h, hoffset, Int.zero_mul, Int.add_zero]

/-- The full text as the parts it is made of. -/
theorem exists_written {t : Timestamp} (h : t.Writable) :
    ∃ year : Nat, t.date.year = year ∧ year < 10000 ∧
      t.renderFull = written year t.date.month t.date.day (t.secondOfDay / 3600) (t.secondOfDay / 60 % 60) (t.secondOfDay % 60)
        t.nanosecond t.renderOffset := by
  obtain ⟨year, hyear⟩ := Int.eq_ofNat_of_zero_le h.year_nonneg
  have hle := h.year_le
  refine ⟨year, hyear, by omega, ?_⟩
  simp only [renderFull, renderSeconds, hyear, renderYear, written, List.append_assoc, List.cons_append]

/-- A timestamp is read back from its full text. -/
theorem parse_renderFull {t : Timestamp} (h : t.Writable) : parse t.renderFull = .ok t.inMinutes := by
  obtain ⟨year, hyear, hdigits, hrender⟩ := exists_written h
  obtain ⟨z, rest, hoffset, hzone⟩ := zone_renderOffset h.offset_lt
  have hdate := Calendar.ofDays_real ((t.instant / Span.second + t.offset) / 86400)
  have hday : t.secondOfDay < 86400 := by
    unfold secondOfDay
    omega
  have hnanosecond : t.nanosecond < 1000000000 := by
    unfold nanosecond Span.second
    omega
  have hseconds : t.secondOfDay / 3600 * 3600 + t.secondOfDay / 60 % 60 * 60 + t.secondOfDay % 60 = t.secondOfDay := by omega
  rw [hrender, hoffset, parse_written hyear hdigits hdate.1 (by omega) (by omega) (by omega) hnanosecond hzone, hseconds]
  -- The moment is put together from its days, seconds and nanoseconds.
  have hsecond : (t.secondOfDay : Int) = (t.instant / Span.second + t.offset) % 86400 :=
    Int.toNat_of_nonneg (Int.emod_nonneg _ (by decide))
  have hfraction : (t.nanosecond : Int) = t.instant % Span.second :=
    Int.toNat_of_nonneg (Int.emod_nonneg _ (by decide))
  have hminutes : t.instant / Span.second + t.offset - t.offset.tdiv 60 * 60 = t.instant / Span.second + t.offset.tmod 60 := by
    rw [Int.add_sub_assoc, Int.tmod_def, Int.mul_comm 60]
  have hinstant : (t.date.toDays * 86400 + t.secondOfDay - t.offset.tdiv 60 * 60) * Span.second + t.nanosecond =
      t.instant + t.offset.tmod 60 * Span.second := by
    rw [date, hdate.2, hsecond, hfraction, Int.ediv_mul_add_emod, hminutes, Int.add_mul, Int.add_right_comm,
      Int.ediv_mul_add_emod]
  rw [ofParts, hinstant, inMinutes]

end Timestamp
end Roster
