import Mathlib.Data.List.Induction
import Roster.Proofs.Contract
import Roster.Proofs.Services

/-!
# Listing and grouping

A store answers with its users in any order. A listing sorts them by id, and as no two of them have the same id, there is only
one way to do so. Groups are filled one user at a time: the group of a role is made of the users who hold it, in the order in
which they come, so the groups of a listing are sorted as well.
-/

namespace Roster

open Program

/-! ## Groups -/

namespace Groups

theorem get?_cons (role : Text) (us : List User) (g : Groups) (role' : Text) :
    get? ((role, us) :: g) role' = if role' = role then some us else get? g role' := by
  rw [get?, List.lookup_cons]
  by_cases h : role' = role
  · rw [if_pos h, beq_iff_eq.2 h]
  · rw [if_neg h, beq_eq_false_iff_ne.2 h]
    rfl

/-- Only the group of the user's role changes. -/
theorem get?_add (g : Groups) (u : User) (role : Text) :
    (g.add u).get? role = if role = u.role then some ((g.get? role).getD [] ++ [u]) else g.get? role := by
  induction g with
  | nil =>
    rw [add, get?_cons]
    rfl
  | cons e g ih =>
    obtain ⟨key, us⟩ := e
    rw [add]
    by_cases hkey : key = u.role
    · rw [if_pos (beq_iff_eq.2 hkey), get?_cons, get?_cons, hkey]
      by_cases hrole : role = u.role
      · rw [if_pos hrole, if_pos hrole, if_pos hrole]
        rfl
      · rw [if_neg hrole, if_neg hrole, if_neg hrole]
    · rw [if_neg (fun h => hkey (beq_iff_eq.1 h)), get?_cons, get?_cons, ih]
      by_cases hrole : role = key
      · rw [if_pos hrole, if_pos hrole, if_neg (fun h => hkey (hrole.symm.trans h))]
      · rw [if_neg hrole, if_neg hrole]

/-- Adding a user adds its role, unless the role is there already. -/
theorem keys_add (g : Groups) (u : User) :
    (g.add u).map Prod.fst = if u.role ∈ g.map Prod.fst then g.map Prod.fst else g.map Prod.fst ++ [u.role] := by
  induction g with
  | nil => rfl
  | cons e g ih =>
    obtain ⟨key, us⟩ := e
    rw [add]
    by_cases hkey : key = u.role
    · rw [if_pos (beq_iff_eq.2 hkey), if_pos (by simp [hkey])]
      rfl
    · rw [if_neg (fun h => hkey (beq_iff_eq.1 h)), List.map_cons, ih, List.map_cons]
      by_cases hmem : u.role ∈ g.map Prod.fst
      · rw [if_pos hmem, if_pos (List.mem_cons_of_mem key hmem)]
      · rw [if_neg hmem, if_neg (List.not_mem_cons_of_ne_of_not_mem (Ne.symm hkey) hmem)]
        rfl

/-- Adding a user leaves every role there once. -/
theorem nodup_keys_add {g : Groups} (h : (g.map Prod.fst).Nodup) (u : User) : ((g.add u).map Prod.fst).Nodup := by
  rw [keys_add]
  split
  next => exact h
  next hnew => exact List.nodup_append'.2 ⟨h, List.nodup_singleton _, List.disjoint_singleton.2 hnew⟩

/-- The users of a list who hold a role. -/
def holders (role : Text) (us : List User) : List User := us.filter fun u => u.role == role

/-- The groups of a list have the holders of each role, in the order of the list. -/
theorem get?_foldl_add (us : List User) (role : Text) :
    (us.foldl add []).get? role = if holders role us = [] then none else some (holders role us) := by
  induction us using List.reverseRecOn with
  | nil => rfl
  | append_singleton us u ih =>
    rw [List.foldl_append]
    show (add (us.foldl add []) u).get? role = _
    rw [get?_add, ih]
    have hsplit : holders role (us ++ [u]) = holders role us ++ holders role [u] := List.filter_append ..
    by_cases hrole : role = u.role
    · have hone : holders role [u] = [u] := by simp [holders, hrole]
      rw [if_pos hrole, hsplit, hone, if_neg (List.append_ne_nil_of_right_ne_nil _ (List.cons_ne_nil u []))]
      split
      next h => rw [h]; rfl
      next => rfl
    · have hnone : holders role [u] = [] := by simp [holders, Ne.symm hrole]
      rw [if_neg hrole, hsplit, hnone, List.append_nil]

/-- Every role is there once in the groups of a list. -/
theorem nodup_keys_foldl_add (us : List User) : ((us.foldl add []).map Prod.fst).Nodup := by
  induction us using List.reverseRecOn with
  | nil => exact List.nodup_nil
  | append_singleton us u ih =>
    rw [List.foldl_append]
    exact nodup_keys_add ih u

end Groups

/-! ## Users in order -/

/-- Users by id. -/
def User.sorted (us : List User) : List User := us.mergeSort fun u v => u.id ≤ v.id

namespace Lists

variable {us vs : List User} {f : Register}

/-- The order of a list does not matter for what it lists. -/
theorem of_perm (h : Lists us f) (hp : vs.Perm us) : Lists vs f := by
  refine ⟨(hp.map User.id).nodup_iff.2 h.nodup, fun id u => ?_⟩
  rw [h.mem, hp.mem_iff]

/-- A sorted list lists the same users. -/
theorem sorted (h : Lists us f) : Lists (User.sorted us) f := h.of_perm (List.mergeSort_perm us _)

/-- Sorted users have increasing ids, as no two ids are the same. -/
theorem pairwise_sorted (h : Lists us f) : (User.sorted us).Pairwise fun u v => u.id < v.id := by
  have hle : (User.sorted us).Pairwise fun u v => decide (u.id ≤ v.id) = true := by
    refine List.pairwise_mergeSort (fun u v x huv hvx => ?_) (fun u v => ?_) us
    · simp only [decide_eq_true_eq] at huv hvx ⊢
      exact UInt64.le_trans huv hvx
    · simp only [Bool.or_eq_true, decide_eq_true_eq]
      exact UInt64.le_total u.id v.id
  have hne : (User.sorted us).Pairwise fun u v => u.id ≠ v.id := List.pairwise_map.1 h.sorted.nodup
  exact (hle.and hne).imp fun h => UInt64.lt_of_le_of_ne (of_decide_eq_true h.1) h.2

/-- The order in which users are stored does not show when they are sorted. -/
theorem sorted_eq (h : Lists us f) (h' : Lists vs f) : User.sorted us = User.sorted vs := by
  refine List.Perm.eq_of_pairwise (fun u v _ _ huv hvu => ?_) h.pairwise_sorted h'.pairwise_sorted (h.sorted.perm h'.sorted)
  exact absurd (UInt64.lt_trans huv hvu) (UInt64.lt_irrefl _)

end Lists

/-! ## Groups of a register -/

namespace Register

/-- The records that belong in the group of a role. -/
def InGroup (f : Register) (activeOnly : Bool) (role : Text) (u : User) : Prop :=
  f u.id = some u ∧ u.role = role ∧ (activeOnly = true → u.active = true)

/-- The group of a role has the records that belong in it, by id, and is there only if there are any. -/
def Grouped (f : Register) (activeOnly : Bool) (role : Text) : Option (List User) → Prop
  | none => ∀ u, ¬f.InGroup activeOnly role u
  | some us => us ≠ [] ∧ (us.Pairwise fun u v => u.id < v.id) ∧ ∀ u, u ∈ us ↔ f.InGroup activeOnly role u

end Register

/-- The holders of a role among those who count are those whom the register has in the group. -/
theorem Lists.mem_holders {us : List User} {f : Register} (h : Lists us f) (activeOnly : Bool) (role : Text) (u : User) :
    u ∈ Groups.holders role (us.filter fun u => u.active || !activeOnly) ↔ f.InGroup activeOnly role u := by
  rw [Groups.holders, List.mem_filter, List.mem_filter, h.mem_iff, Register.InGroup]
  cases activeOnly <;> cases u.active <;> simp

/-- Grouping users who are listed by id gives the groups of the register. -/
theorem Lists.grouped {us : List User} {f : Register} (h : Lists us f) (ho : us.Pairwise fun u v => u.id < v.id)
    (hne : ∃ id u, f id = some u) (activeOnly : Bool) :
    ∃ g, groupUsers us activeOnly = .ok g ∧ (g.map Prod.fst).Nodup ∧ ∀ role, f.Grouped activeOnly role (g.get? role) := by
  refine ⟨(us.filter fun u => u.active || !activeOnly).foldl Groups.add [], ?_, Groups.nodup_keys_foldl_add _, fun role => ?_⟩
  · rw [groupUsers, if_neg]
    intro hempty
    obtain ⟨id, u, hu⟩ := hne
    rw [h.isEmpty_iff.1 hempty] at hu
    cases hu
  · rw [Groups.get?_foldl_add]
    split
    next hnone =>
      intro u hu
      rw [← h.mem_holders, hnone] at hu
      cases hu
    next hsome => exact ⟨hsome, (ho.filter _).filter _, h.mem_holders activeOnly role⟩

/-! ## What listing and grouping come to -/

namespace Users

section Surroundings

variable {σ : Type} {answer : (c : Call) → σ → c.Answer × σ} {s : σ} {us : List User}

/-- A listing sorts what the store answers with. -/
theorem run_list_of_findAll (h : (answer .findAll s).1 = .ok us) :
    (Program.run answer list.run s).1 = .ok (User.sorted us) := by
  rw [run_list, run_call, h]
  rfl

/-- If the store lists users, grouping answers with the groups of these, sorted by id. -/
theorem run_groupByRole_of_findAll (h : (answer .findAll s).1 = .ok us) (activeOnly : Bool) :
    (Program.run answer (groupByRole activeOnly).run s).1 = groupUsers (User.sorted us) activeOnly := by
  rw [run_groupByRole, run_call, h]
  rfl

end Surroundings

/-- Listing and grouping lose nobody and do not depend on the order in which a store has its users, in three parts.
1. If the surroundings answer with the users of a register in any order, a listing has all of them by id; grouping them is
   refused exactly if there are none, as invalid input, and otherwise the group of each role has those of them that belong in
   it by id, and there are no other groups.
2. Surroundings that answer with the same users in different orders cannot be told apart.
3. Stores in memory and in tables answer with the users of the register that they hold. -/
theorem everyone_listed_and_grouped :
    (∀ {σ : Type} (answer : (c : Call) → σ → c.Answer × σ) (s : σ) (us : List User) (f : Register),
      (answer .findAll s).1 = .ok us → Lists us f →
      (∃ all, (Program.run answer list.run s).1 = .ok all ∧ Lists all f ∧ all.Pairwise fun u v => u.id < v.id) ∧
      ∀ activeOnly,
        ((∃ e : Fault, (Program.run answer (groupByRole activeOnly).run s).1 = .error e ∧ e.has .invalidInput = true) ↔
          ∀ id, f id = none) ∧
        ((∃ id u, f id = some u) → ∃ g, (Program.run answer (groupByRole activeOnly).run s).1 = .ok g ∧
          (g.map Prod.fst).Nodup ∧ ∀ role, f.Grouped activeOnly role (g.get? role))) ∧
    (∀ {σ τ : Type} (answer : (c : Call) → σ → c.Answer × σ) (answer' : (c : Call) → τ → c.Answer × τ) (s : σ) (t : τ)
      (us vs : List User) (f : Register), (answer .findAll s).1 = .ok us → (answer' .findAll t).1 = .ok vs →
      Lists us f → Lists vs f →
      (Program.run answer list.run s).1 = (Program.run answer' list.run t).1 ∧
      ∀ activeOnly, (Program.run answer (groupByRole activeOnly).run s).1 =
        (Program.run answer' (groupByRole activeOnly).run t).1) ∧
    (∀ (w : World) (f : Register), w.Keeps f → ∃ us, (World.answer .findAll w).1 = .ok us ∧ Lists us f) ∧
    ∀ (w : World) (m : Store.Memory), w.storage = .memory m → w.failure? .findAll = none →
      (World.answer .findAll w).1 = .ok m.users := by
  refine ⟨?_, ?_, fun w f h => h.findAll, fun w m hm hworks => ?_⟩
  · intro σ answer s us f hanswer hus
    refine ⟨⟨_, run_list_of_findAll hanswer, hus.sorted, hus.pairwise_sorted⟩, fun activeOnly => ?_⟩
    rw [run_groupByRole_of_findAll hanswer]
    have hgrouped := fun hne => hus.sorted.grouped hus.pairwise_sorted hne activeOnly
    refine ⟨⟨?_, fun hnone => ?_⟩, hgrouped⟩
    · rintro ⟨e, he, _⟩ id
      by_contra hsome
      obtain ⟨g, hg, _⟩ := hgrouped ⟨id, Option.ne_none_iff_exists'.1 hsome⟩
      rw [hg] at he
      cases he
    · rw [groupUsers, if_pos (hus.sorted.isEmpty_iff.2 hnone)]
      exact ⟨.usersEmpty, rfl, rfl⟩
  · intro σ τ answer answer' s t us vs f hanswer hanswer' hus hvs
    rw [run_list_of_findAll hanswer, run_list_of_findAll hanswer', hus.sorted_eq hvs]
    refine ⟨rfl, fun activeOnly => ?_⟩
    rw [run_groupByRole_of_findAll hanswer, run_groupByRole_of_findAll hanswer', hus.sorted_eq hvs]
  · simp only [World.answer, World.onStore, hworks, hm]

/-- Two inactive users, stored in the wrong order. They are listed by id; asking for active users only leaves no group, which
is not refused. -/
theorem inactive_users_have_no_group :
    let ann : User := { id := 9, name := "Ann", email := "ann@example.com", role := Role.admin.name, active := false }
    let bob : User := { id := 4, name := "Bob", email := "bob@example.com", role := Role.viewer.name, active := false }
    let w : World := { clock := 0, storage := .memory ⟨[ann, bob]⟩ }
    (∃ all, (w.attempt list).1 = .ok all ∧ (∀ u, u ∈ all ↔ u = bob ∨ u = ann) ∧ all.Pairwise fun u v => u.id < v.id) ∧
      ∃ g, (w.attempt (groupByRole true)).1 = .ok g ∧ ∀ role, g.get? role = none := by
  intro ann bob w
  have hlists : Lists [ann, bob] _ := Lists.of_nodup (by decide)
  obtain ⟨hall, _, _, hmemory⟩ := everyone_listed_and_grouped
  obtain ⟨⟨all, hlist, hall, hordered⟩, hgroups⟩ := hall World.answer w _ _ (hmemory w ⟨[ann, bob]⟩ rfl rfl) hlists
  constructor
  · refine ⟨all, hlist, fun u => ?_, hordered⟩
    rw [hall.mem_iff, ← hlists.mem_iff]
    simp [or_comm]
  · obtain ⟨g, hg, _, hrole⟩ := (hgroups true).2 ⟨9, ann, by decide⟩
    refine ⟨g, hg, fun role => ?_⟩
    have hgrouped := hrole role
    cases hget : g.get? role with
    | none => rfl
    | some us =>
      rw [hget] at hgrouped
      obtain ⟨hne, _, hmem⟩ := hgrouped
      obtain ⟨u, hu⟩ := List.exists_mem_of_ne_nil us hne
      obtain ⟨hstored, _, hactive⟩ := (hmem u).1 hu
      have hboth : u ∈ [ann, bob] := (hlists.mem_iff u).2 hstored
      have hinactive : ∀ v ∈ [ann, bob], v.active = false := by decide
      exact absurd (hactive rfl) (by rw [hinactive u hboth]; decide)

end Users

end Roster
