import Roster.Proofs.Listings

/-!
# Grouping is a partition

Users are grouped one at a time, whatever their roles and however often one of them occurs in a list. Nobody is lost, nobody
comes twice, and the order of the list is kept.

Users that occur more than once cannot be told apart in the groups. So the groups are compared with groups of positions: every
position whose user survives the filter is in one group and in one place of it, and nothing else is.
-/

namespace Roster

/-- Elements apart by their keys, for keys that are all different, are the elements again in another order. -/
theorem perm_flatMap_filter {α κ : Type} [BEq κ] [LawfulBEq κ] (key : α → κ) {keys : List κ} (hkeys : keys.Nodup)
    {as : List α} (has : ∀ a ∈ as, key a ∈ keys) : (keys.flatMap fun k => as.filter fun a => key a == k).Perm as := by
  -- Each key takes its own elements away from those that are left.
  induction keys generalizing as with
  | nil =>
    obtain rfl : as = [] := List.eq_nil_iff_forall_not_mem.mpr fun a ha => List.not_mem_nil (has a ha)
    exact .nil
  | cons k keys ih =>
    obtain ⟨hk, hkeys⟩ := List.nodup_cons.mp hkeys
    have hrest : ∀ a ∈ as.filter (fun a => !(key a == k)), key a ∈ keys := by
      intro a ha
      obtain ⟨ha, hne⟩ := List.mem_filter.mp ha
      exact (List.mem_cons.mp (has a ha)).resolve_left (by simpa using hne)
    have hother : (keys.flatMap fun k' => as.filter fun a => key a == k') =
        keys.flatMap fun k' => (as.filter fun a => !(key a == k)).filter fun a => key a == k' := by
      refine List.flatMap_congr fun k' hk' => ?_
      rw [List.filter_filter]
      refine List.filter_congr fun a _ => ?_
      by_cases ha : key a = k'
      · have hne : key a ≠ k := fun h => hk (h ▸ ha ▸ hk')
        simp [ha, ha ▸ hne]
      · simp [ha]
    rw [List.flatMap_cons, hother]
    exact ((ih hkeys hrest).append_left _).trans (List.filter_append_perm _ as)

namespace Groups

/-- The users of a list that survive a filter, with their positions in the list. -/
def survivors (keep : User → Bool) (us : List User) : List (User × Nat) := us.zipIdx.filter fun e => keep e.1

/-- Groups that are a partition of the users of a list that survive a filter. -/
structure Partitions (g : Groups) (keep : User → Bool) (us : List User) : Prop where
  /-- No role has two groups. -/
  keys : (g.map Prod.fst).Nodup
  /-- The group of a role has the users who hold it, in the order of the list. -/
  group : ∀ role, (g.get? role).getD [] = us.filter fun u => keep u && u.role == role
  /-- There are no empty groups. -/
  present : ∀ role, (g.get? role).isSome = true ↔ (us.filter fun u => keep u && u.role == role) ≠ []
  /-- The groups are groups of positions, in each of which the positions increase. All groups together have each position
  whose user survives exactly once, and nothing else. -/
  places : ∃ placed : List (Text × List (User × Nat)), placed.map (fun e => (e.1, e.2.map Prod.fst)) = g ∧
    (∀ e ∈ placed, e.2.Pairwise fun a b => a.2 < b.2) ∧ (placed.flatMap Prod.snd).Perm (survivors keep us)

theorem get?_of_mem {g : Groups} (hkeys : (g.map Prod.fst).Nodup) {e : Text × List User} (he : e ∈ g) :
    g.get? e.1 = some e.2 := by
  induction g with
  | nil => cases he
  | cons e' g ih =>
    obtain ⟨hnew, hrest⟩ := List.nodup_cons.mp hkeys
    rw [get?_cons]
    rcases List.mem_cons.mp he with rfl | he
    · exact if_pos rfl
    · have hne : e.1 ≠ e'.1 := fun h => hnew (h ▸ List.mem_map_of_mem he)
      rw [if_neg hne, ih hrest he]

theorem mem_keys_of_isSome {g : Groups} {role : Text} (h : (g.get? role).isSome = true) : role ∈ g.map Prod.fst := by
  obtain ⟨us, hus⟩ := Option.isSome_iff_exists.mp h
  obtain ⟨before, after, hg, -⟩ := List.lookup_eq_some_iff.mp hus
  rw [hg]
  simp

section Places

variable (keep : User → Bool) (us : List User)

/-- The survivors that hold a role, without their positions. -/
theorem map_survivors (role : Text) :
    ((survivors keep us).filter fun e => e.1.role == role).map Prod.fst = us.filter fun u => keep u && u.role == role := by
  have hboth : ((survivors keep us).filter fun e => e.1.role == role) =
      us.zipIdx.filter ((fun u => keep u && u.role == role) ∘ Prod.fst) := by
    rw [survivors, List.filter_filter]
    exact List.filter_congr fun e _ => Bool.and_comm _ _
  rw [hboth, ← List.filter_map, List.zipIdx_map_fst]

theorem pairwise_survivors : (survivors keep us).Pairwise fun a b => a.2 < b.2 := by
  have hall : us.zipIdx.Pairwise fun a b => a.2 < b.2 := by
    rw [← List.pairwise_map (f := Prod.snd) (R := (· < ·)), List.zipIdx_map_snd]
    exact List.pairwise_lt_range'
  exact hall.filter _

/-- Users that are added one after the other are partitioned. -/
theorem partitions_foldl_add : ((us.filter keep).foldl add []).Partitions keep us := by
  have hheld : ∀ role, holders role (us.filter keep) = us.filter fun u => keep u && u.role == role := by
    intro role
    rw [holders, List.filter_filter]
    exact List.filter_congr fun u _ => Bool.and_comm _ _
  have hget : ∀ role, ((us.filter keep).foldl add []).get? role =
      if (us.filter fun u => keep u && u.role == role) = [] then none
      else some (us.filter fun u => keep u && u.role == role) := by
    intro role
    rw [get?_foldl_add, hheld]
  have hkeys := nodup_keys_foldl_add (us.filter keep)
  generalize (us.filter keep).foldl add [] = g at hget hkeys
  have hgroup : ∀ role, (g.get? role).getD [] = us.filter fun u => keep u && u.role == role := by
    intro role
    rw [hget]
    split
    next hnone => exact hnone.symm
    next => rfl
  have hpresent : ∀ role, (g.get? role).isSome = true ↔ (us.filter fun u => keep u && u.role == role) ≠ [] := by
    intro role
    rw [hget]
    split
    next hnone => simp [hnone]
    next hsome => simp [hsome]
  refine ⟨hkeys, hgroup, hpresent, ?_⟩
  refine ⟨g.map fun e => (e.1, (survivors keep us).filter fun a => a.1.role == e.1), ?_, ?_, ?_⟩
  · rw [List.map_map]
    refine (List.map_congr_left fun e he => ?_).trans (List.map_id g)
    have hmembers := hgroup e.1
    rw [get?_of_mem hkeys he] at hmembers
    exact Prod.ext rfl ((map_survivors keep us e.1).trans hmembers.symm)
  · intro e he
    obtain ⟨e, -, rfl⟩ := List.mem_map.mp he
    exact (pairwise_survivors keep us).filter _
  · have hcovered : ∀ a ∈ survivors keep us, a.1.role ∈ g.map Prod.fst := by
      intro a ha
      obtain ⟨hmem, hkeep⟩ := List.mem_filter.mp ha
      have hstays : a.1 ∈ us.filter fun u => keep u && u.role == a.1.role :=
        List.mem_filter.mpr ⟨List.fst_mem_of_mem_zipIdx hmem, by simp [hkeep]⟩
      exact mem_keys_of_isSome ((hpresent a.1.role).mpr (List.ne_nil_of_mem hstays))
    have hperm := perm_flatMap_filter (fun a : User × Nat => a.1.role) hkeys hcovered
    rw [List.flatMap_map] at hperm ⊢
    exact hperm

end Places

end Groups

/-- Grouping users is refused exactly for an empty list, as invalid input. Otherwise it partitions the users that survive the
filter, whatever their roles. -/
theorem grouping_partitions_users (us : List User) (activeOnly : Bool) :
    ((∃ f, groupUsers us activeOnly = .error f) ↔ us = []) ∧
    (∀ f, groupUsers us activeOnly = .error f → f.has .invalidInput = true) ∧
    (us ≠ [] → ∃ g, groupUsers us activeOnly = .ok g ∧ g.Partitions (fun u => u.active || !activeOnly) us) := by
  cases us with
  | nil =>
    refine ⟨⟨fun _ => rfl, fun _ => ⟨_, rfl⟩⟩, ?_, fun hne => absurd rfl hne⟩
    rintro _ ⟨⟩
    rfl
  | cons u us =>
    refine ⟨⟨?_, nofun⟩, nofun, fun _ => ⟨_, rfl, Groups.partitions_foldl_add _ _⟩⟩
    rintro ⟨f, hf⟩
    cases hf

/-- A user comes three times in a list, among others, with a role that is not known. The group has it three times, and the only
viewer, who is not active, has none. -/
theorem repeated_users_stay_apart :
    let ann : User := { id := 9, name := "Ann", email := "ann@example.com", role := "owner" }
    let bob : User := { id := 4, name := "Bob", email := "bob@example.com", role := Role.viewer.name, active := false }
    let cy : User := { id := 9, name := "Cy", email := "cy@example.com", role := [255] }
    let us := [ann, cy, ann, bob, ann]
    us ≠ [] ∧ ∃ g, groupUsers us true = .ok g ∧ g.Partitions (fun u => u.active || !true) us ∧
      g.get? "owner" = some [ann, ann, ann] ∧ g.get? [255] = some [cy] ∧ g.get? Role.viewer.name = none := by
  intro ann bob cy us
  have hne : us ≠ [] := List.cons_ne_nil _ _
  obtain ⟨g, hg, hparts⟩ := (grouping_partitions_users us true).2.2 hne
  have hall : groupUsers us true = .ok [(utf8 "owner", [ann, ann, ann]), ([255], [cy])] := rfl
  obtain rfl := Except.ok.inj (hall.symm.trans hg)
  exact ⟨hne, _, hg, hparts, rfl, rfl, rfl⟩

end Roster
