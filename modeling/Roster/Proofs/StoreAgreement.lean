import Roster.Proofs.Contract
import Roster.Proofs.Utf8

/-!
# Two stores, one contract

A store in memory and a table that has just been set up hold the same register, the empty one. Whatever is stored, looked up
and removed from then on, at the same times, both give the same answers; listings may differ in their order. Ids beyond the
table's range and unknown roles are refused by the table only, and emails are compared over all of Unicode by one store and
over ASCII up to the first NUL by the other, so what is stored and looked up has to stay clear of these.
-/

namespace Roster

/-! ## Plain texts -/

namespace Text

/-- A text of ASCII characters other than NUL. -/
def Plain (t : Text) : Prop := ∀ b ∈ t, b ≠ 0 ∧ b < 128

instance (t : Text) : Decidable t.Plain := inferInstanceAs (Decidable (∀ b ∈ t, b ≠ 0 ∧ b < 128))

/-- Folding an ASCII character puts it in lower case. -/
theorem foldCode_of_ascii {b : UInt8} (h : b < 128) :
    foldCode (Rune.char (Char.ofNat b.toNat)).code = (lowerByte b).toNat := by
  have hall : ∀ n : Fin 128, foldCode (Rune.char (Char.ofNat n)).code = (lowerByte (UInt8.ofNat n)).toNat := by
    decide +kernel
  have hb : b.toNat < 128 := by simpa [UInt8.lt_iff_toNat_lt] using h
  simpa using hall ⟨b.toNat, hb⟩

theorem foldKey_of_ascii {t : Text} (h : ∀ b ∈ t, b < 128) : foldKey t = t.map fun b => (lowerByte b).toNat := by
  rw [foldKey, runes_of_ascii h, List.map_map]
  exact List.map_congr_left fun b hb => foldCode_of_ascii (h b hb)

theorem equalNoCase_iff {s t : Text} (h : ∀ b ∈ s, b ≠ 0) :
    equalNoCase s t = true ↔ s.map lowerByte = t.map lowerByte := by
  induction s generalizing t with
  | nil => cases t <;> simp [equalNoCase]
  | cons a s ih =>
    obtain ⟨ha, hs⟩ := List.forall_mem_cons.mp h
    cases t with
    | nil => simp [equalNoCase]
    | cons b t => simp [equalNoCase, ha, ih hs]

/-- On plain texts, equality up to case over all of Unicode is the equality of the table's column. -/
theorem equalFold_eq_equalNoCase {s t : Text} (hs : s.Plain) (ht : t.Plain) : equalFold s t = equalNoCase s t := by
  rw [Bool.eq_iff_iff, equalNoCase_iff fun b hb => (hs b hb).1, equalFold, beq_iff_eq,
    foldKey_of_ascii fun b hb => (hs b hb).2, foldKey_of_ascii fun b hb => (ht b hb).2]
  have hinj : Function.Injective (List.map UInt8.toNat) := List.map_injective_iff.mpr fun _ _ => UInt8.toNat_inj.mp
  rw [← hinj.eq_iff, List.map_map, List.map_map]
  rfl

end Text

/-! ## A fresh table -/

namespace World

/-- Setting up the tables succeeds and leaves an empty table of users. -/
theorem migrate_fresh {w : World} (hs : w.storage = .database {}) (hf : w.failing = []) (hp : w.patience = .ok ()) :
    w.migrate.1 = .ok () ∧ w.migrate.2.Keeps fun _ => none := by
  have hsorted : Text.sorted Migration.all = Migration.all := List.mergeSort_singleton _
  simp only [migrate, hs, script, driverAnswer_of_patience hp, Migration.run, Migration.pending, hsorted]
  exact ⟨rfl, ⟨⟨[], ⟨rfl, rfl, List.Pairwise.nil, List.forall_mem_nil _⟩, Lists.nil⟩, hf⟩, hp⟩

end World

/-! ## Runs of calls -/

/-- Whether a call is one that both kinds of stores can take: ids and roles that a table can hold, and plain emails. -/
def Call.common : Call → Bool
  | .findById _ | .delete _ | .findAll => true
  | .findByEmail email => decide email.Plain
  | .save u => decide (u.id ≤ User.maxId) && (Role.parse? u.role).isSome && decide u.email.Plain
  | _ => false

/-- The same answer; users may be listed in another order. -/
def Call.Alike : (c : Call) → c.Answer → c.Answer → Prop
  | .findAll, .ok us, .ok vs => us.Perm vs
  | _, x, y => x = y

/-- A call at a time, by a caller that waits until a deadline at most. -/
structure Visit where
  clock : Instant
  deadline : Option Instant := none
  call : Call

/-- Whether the call comes before the deadline. -/
def Visit.inTime (v : Visit) : Bool := v.deadline.all fun t => v.clock < t

/-- On plain texts, both kinds of stores compare emails alike. -/
theorem Storage.sameEmail_of_plain (s : Storage) {email email' : Text} (h : email.Plain) (h' : email'.Plain) :
    s.sameEmail email email' = Text.equalNoCase email email' := by
  cases s with
  | memory m => exact Text.equalFold_eq_equalNoCase h h'
  | database db => rfl

/-- A register whose users have plain emails. -/
abbrev Register.Plain (f : Register) : Prop := f.All fun u => u.email.Plain

namespace World

theorem Keeps.findByEmail_plain {w : World} {f : Register} (h : w.Keeps f) (hf : f.Plain) {email : Text}
    (he : email.Plain) :
    ∃ r, (answer (.findByEmail email) w).1 = .ok r ∧ f.Picks (fun u => Text.equalNoCase u.email email) r := by
  obtain ⟨r, hr, hpicks⟩ := h.findByEmail email
  exact ⟨r, hr, hpicks.congr fun u hu => w.storage.sameEmail_of_plain (hf u.id u hu) he⟩

/-- One call: worlds that keep the same register answer it alike and keep the same register again. -/
theorem Keeps.alike {w w' : World} {f : Register} (hw : w.Keeps f) (hw' : w'.Keeps f) (hnow : w'.now = w.now)
    (hplain : f.Plain) {c : Call} (hc : c.common = true) :
    c.Alike (answer c w).1 (answer c w').1 ∧
      ∃ g : Register, (answer c w).2.Keeps g ∧ (answer c w').2.Keeps g ∧ g.Plain := by
  cases c with
  | findById id =>
    exact ⟨(hw.findById id).trans (hw'.findById id).symm, f, hw.of_reads rfl rfl, hw'.of_reads rfl rfl, hplain⟩
  | findByEmail email =>
    obtain ⟨r, hr, hpicks⟩ := hw.findByEmail_plain hplain (of_decide_eq_true hc)
    obtain ⟨r', hr', hpicks'⟩ := hw'.findByEmail_plain hplain (of_decide_eq_true hc)
    refine ⟨?_, f, hw.of_reads rfl rfl, hw'.of_reads rfl rfl, hplain⟩
    show (answer _ w).1 = (answer _ w').1
    rw [hr, hr', hpicks.unique hpicks']
  | findAll =>
    obtain ⟨us, hus, hl⟩ := hw.findAll
    obtain ⟨us', hus', hl'⟩ := hw'.findAll
    refine ⟨?_, f, hw.of_reads rfl rfl, hw'.of_reads rfl rfl, hplain⟩
    rw [hus, hus']
    exact hl.perm hl'
  | save u =>
    simp only [Call.common, Bool.and_eq_true, decide_eq_true_eq] at hc
    obtain ⟨⟨hid, hrole⟩, hemail⟩ := hc
    obtain ⟨hanswer, hkeeps⟩ := hw.save hid hrole
    obtain ⟨hanswer', hkeeps'⟩ := hw'.save hid hrole
    rw [hnow] at hanswer' hkeeps'
    exact ⟨hanswer.trans hanswer'.symm, _, hkeeps, hkeeps', hplain.put hemail⟩
  | delete id =>
    obtain ⟨hanswer, hkeeps⟩ := hw.delete id
    obtain ⟨hanswer', hkeeps'⟩ := hw'.delete id
    exact ⟨hanswer.trans hanswer'.symm, _, hkeeps, hkeeps', hplain.drop id⟩
  | _ => cases hc

/-- The world as a visit finds it. -/
def visited (w : World) (v : Visit) : World :=
  { w with clock := v.clock, canceled := false, deadline := v.deadline }

/-- Two worlds answer a run of visits alike. -/
def AnswerAlike (w w' : World) : List Visit → Prop
  | [] => True
  | v :: rest =>
    v.call.Alike (answer v.call (w.visited v)).1 (answer v.call (w'.visited v)).1 ∧
      AnswerAlike (answer v.call (w.visited v)).2 (answer v.call (w'.visited v)).2 rest

/-- A visit in time finds its caller waiting. -/
theorem Stocks.visited {w : World} {f : Register} (h : w.Stocks f) {v : Visit} (hv : v.inTime = true) :
    (w.visited v).Keeps f := by
  refine ⟨⟨h.holds, h.failing⟩, ?_⟩
  obtain ⟨clock, deadline, call⟩ := v
  cases deadline with
  | none => rfl
  | some t =>
    have hlt : ¬t ≤ clock := Int.not_le.mpr (of_decide_eq_true hv)
    exact if_neg hlt

/-- A run of visits: stores that hold the same register answer it alike. -/
theorem Stocks.answerAlike {w w' : World} {f : Register} (hw : w.Stocks f) (hw' : w'.Stocks f) (hplain : f.Plain)
    {visits : List Visit} (hvisits : ∀ v ∈ visits, v.inTime = true ∧ v.call.common = true) : w.AnswerAlike w' visits := by
  induction visits generalizing w w' f with
  | nil => trivial
  | cons v rest ih =>
    obtain ⟨⟨htime, hcommon⟩, hrest⟩ := List.forall_mem_cons.mp hvisits
    obtain ⟨halike, g, hg, hg', hplain'⟩ := (hw.visited htime).alike (hw'.visited htime) rfl hplain hcommon
    exact ⟨halike, ih hg.toStocks hg'.toStocks hplain' hrest⟩

/-- A store in memory and a table that has just been set up, both empty, answer every run of calls alike. -/
theorem memory_and_table_answer_alike {w w' : World} (hmemory : w.storage = .memory {}) (hfailing : w.failing = [])
    (htable : w'.storage = .database {}) (hfailing' : w'.failing = []) (hpatience' : w'.patience = .ok ())
    {visits : List Visit} (hvisits : ∀ v ∈ visits, v.inTime = true ∧ v.call.common = true) :
    w'.migrate.1 = .ok () ∧ w.AnswerAlike w'.migrate.2 visits := by
  obtain ⟨hmigrate, hkeeps'⟩ := migrate_fresh htable hfailing' hpatience'
  have hstocks : w.Stocks fun _ => none := ⟨hmemory ▸ Lists.nil, hfailing⟩
  exact ⟨hmigrate, hstocks.answerAlike hkeeps'.toStocks nofun hvisits⟩

/-- Two users share an email up to case: the one stored later has the lesser id and is found; once it is gone, the other. -/
theorem lesser_of_two_found_in_both :
    let visits : List Visit :=
      [{ clock := 1, call := .save { id := 7, name := "Ann", email := "ann@example.com", role := Role.admin.name } },
       { clock := 2, deadline := some 3,
         call := .save { id := 5, name := "Bob", email := "Ann@Example.com", role := Role.viewer.name } },
       { clock := 3, call := .findByEmail "ANN@example.com" },
       { clock := 3, call := .delete 5 },
       { clock := 4, call := .findByEmail "ANN@example.com" },
       { clock := 5, call := .delete 5 },
       { clock := 6, call := .findAll }]
    let memory : World := { clock := 0 }
    let table : World := { clock := 0, storage := .database {} }
    (∀ v ∈ visits, v.inTime = true ∧ v.call.common = true) ∧
      table.migrate.1 = .ok () ∧ memory.AnswerAlike table.migrate.2 visits := by
  intro visits memory table
  have hvisits : ∀ v ∈ visits, v.inTime = true ∧ v.call.common = true := by decide +kernel
  exact ⟨hvisits, memory_and_table_answer_alike rfl rfl rfl rfl rfl hvisits⟩

end World

end Roster
