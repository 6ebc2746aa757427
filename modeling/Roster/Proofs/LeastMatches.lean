import Roster.Proofs.EmailLookups

/-!
# The search for an email, in any order

Users in memory are visited in an order that nobody fixes, and the search for an email keeps the best match so far: a match
takes its place if there is none yet or if its id is less (`consider`). After every turn the best match is the one of least id
among the users visited so far (`Best`), so at the end it is the one of least id among all, and the order does not show.
-/

namespace Roster

namespace Text

/-- Two texts have the same characters, one by one, up to simple case folding. -/
def SameUpToCase (s t : Text) : Prop := List.Forall₂ (fun c d => foldCode c.toNat = foldCode d.toNat) s.chars t.chars

/-- Texts match in memory exactly if they are the same up to case. -/
theorem equalFold_iff_sameUpToCase {s t : Text} : equalFold s t = true ↔ s.SameUpToCase t := by
  rw [equalFold_iff, ← List.forall₂_eq_eq_eq, List.forall₂_map_left_iff, List.forall₂_map_right_iff, SameUpToCase]

end Text

namespace Store.Memory

/-- One turn of the search for an email, given the best match so far. -/
def consider (email : Text) (best : Option User) (u : User) : Option User :=
  if Text.equalFold u.email email && best.all (fun b => u.id < b.id) then some u else best

theorem consider_eq (email : Text) (best : Option User) (u : User) :
    consider email best u = if Text.equalFold u.email email then lesser best u else best := by
  cases hmatch : Text.equalFold u.email email with
  | false => simp [consider, hmatch]
  | true =>
    cases best with
    | none => simp [consider, hmatch, lesser]
    | some b => simp [consider, hmatch, lesser]

/-- The users whose email matches. -/
def matching (email : Text) (us : List User) : List User := us.filter fun u => Text.equalFold u.email email

theorem mem_matching {email : Text} {us : List User} {u : User} :
    u ∈ matching email us ↔ u ∈ us ∧ u.email.SameUpToCase email := by
  rw [matching, List.mem_filter, Text.equalFold_iff_sameUpToCase]

/-- A turn keeps the best match of the users visited so far. -/
theorem Best.consider {email : Text} {visited : List User} {best : Option User} (h : Best (matching email visited) best)
    (u : User) : Best (matching email (visited ++ [u])) (consider email best u) := by
  rw [consider_eq, matching, List.filter_append, List.filter_singleton]
  split
  · rename_i hmatch
    rw [hmatch, cond_true]
    exact h.step u
  · rename_i hmatch
    rw [Bool.eq_false_iff.mpr hmatch, cond_false, List.append_nil]
    exact h

/-- So does the whole search, from wherever it has come to. -/
theorem Best.search {email : Text} {visited : List User} {best : Option User} (h : Best (matching email visited) best)
    (us : List User) : Best (matching email (visited ++ us)) (us.foldl (Memory.consider email) best) := by
  induction us generalizing visited best with
  | nil => rwa [List.append_nil]
  | cons u us ih =>
    have hrest := ih (h.consider u)
    rwa [List.append_assoc, List.singleton_append] at hrest

/-- The look-up by email is the search through all users. -/
theorem findEmail?_eq_search (m : Memory) (email : Text) : m.findEmail? email = m.users.foldl (consider email) none := by
  rw [findEmail?, List.foldl_filter]
  congr 1
  funext best u
  exact (consider_eq email best u).symm

/-- A stored user that matches an email, of least id among those that do. -/
structure LeastMatch (m : Memory) (email : Text) (u : User) : Prop where
  stored : u ∈ m.users
  sameEmail : u.email.SameUpToCase email
  least : ∀ v ∈ m.users, v.email.SameUpToCase email → u.id ≤ v.id

/-- There is a least match unless nobody matches, and at most one if ids are distinct. -/
theorem best_eq_some_iff {m : Memory} (hids : (m.users.map User.id).Nodup) {email : Text} {best : Option User}
    (h : Best (matching email m.users) best) (u : User) : best = some u ↔ m.LeastMatch email u := by
  constructor
  · rintro rfl
    obtain ⟨hu, hleast⟩ := h
    obtain ⟨hstored, hsame⟩ := mem_matching.mp hu
    exact ⟨hstored, hsame, fun v hv hv' => hleast v (mem_matching.mpr ⟨hv, hv'⟩)⟩
  · intro hu
    have hmem : u ∈ matching email m.users := mem_matching.mpr ⟨hu.stored, hu.sameEmail⟩
    cases best with
    | none =>
      rw [show matching email m.users = [] from h] at hmem
      cases hmem
    | some b =>
      obtain ⟨hb, hleast⟩ := h
      obtain ⟨hstored, hsame⟩ := mem_matching.mp hb
      have hid : b.id = u.id := UInt64.le_antisymm (hleast u hmem) (hu.least b hstored hsame)
      rw [List.inj_on_of_nodup_map hids hstored hu.stored hid]

/-- Who the least match is does not depend on the order of the users. -/
theorem leastMatch_of_perm {m m' : Memory} (h : m'.users.Perm m.users) {email : Text} {u : User} :
    m'.LeastMatch email u ↔ m.LeastMatch email u := by
  constructor
  · rintro ⟨hstored, hsame, hleast⟩
    exact ⟨h.mem_iff.mp hstored, hsame, fun v hv => hleast v (h.mem_iff.mpr hv)⟩
  · rintro ⟨hstored, hsame, hleast⟩
    exact ⟨h.mem_iff.mpr hstored, hsame, fun v hv => hleast v (h.mem_iff.mp hv)⟩

/-- Users under ids of their own are looked up by email. There is one answer that the search comes to in whatever order the
users are visited, and that the store gives in whatever order it lists them, without changing anything.
1. It is a user exactly if that user is stored, has the email up to simple case folding, and has the least id of all who do.
2. It is nobody exactly if no stored user has the email.
3. On the way the best match so far is the one of least id among the users visited. -/
theorem least_match_found_in_any_order {m : Memory} (hids : (m.users.map User.id).Nodup) (email : Text) :
    ∃ found : Option User,
      (∀ order : List User, order.Perm m.users →
        order.foldl (consider email) none = found ∧
        (∀ w : World, w.storage = .memory ⟨order⟩ → w.failure? .findByEmail = none →
          World.answer (.findByEmail email) w = (.ok found, w)) ∧
        ∀ visited rest, order = visited ++ rest → ∀ u, visited.foldl (consider email) none = some u ↔
          LeastMatch ⟨visited⟩ email u) ∧
      (∀ u, found = some u ↔ m.LeastMatch email u) ∧
      (found = none ↔ ∀ u ∈ m.users, ¬u.email.SameUpToCase email) := by
  have hbest : ∀ us, Best (matching email us) (us.foldl (consider email) none) := fun us =>
    Best.search (show Best (matching email []) none from rfl) us
  have hleast : ∀ us : List User, (us.map User.id).Nodup → ∀ u,
      us.foldl (consider email) none = some u ↔ LeastMatch ⟨us⟩ email u := fun us hus =>
    best_eq_some_iff (m := ⟨us⟩) hus (hbest us)
  refine ⟨m.users.foldl (consider email) none, fun order horder => ?_, hleast m.users hids, ?_⟩
  · have hids' : (order.map User.id).Nodup := (horder.map User.id).nodup_iff.mpr hids
    have hsame : order.foldl (consider email) none = m.users.foldl (consider email) none := by
      refine Option.ext fun u => ?_
      rw [hleast order hids', hleast m.users hids]
      exact leastMatch_of_perm (m := m) horder
    refine ⟨hsame, fun w hw hf => ?_, fun visited rest hsplit => ?_⟩
    · have hfound : Memory.findEmail? ⟨order⟩ email = m.users.foldl (consider email) none :=
        (findEmail?_eq_search _ _).trans hsame
      simp only [World.answer, World.onStore, hf, hw, hfound]
    · rw [hsplit, List.map_append] at hids'
      exact hleast visited (List.nodup_append.mp hids').1
  · have hnone := hbest m.users
    constructor
    · intro h u hu hsame
      rw [h] at hnone
      have hmem := mem_matching.mpr ⟨hu, hsame⟩
      rw [show matching email m.users = [] from hnone] at hmem
      cases hmem
    · intro h
      cases hfound : m.users.foldl (consider email) none with
      | none => rfl
      | some u =>
        obtain ⟨hstored, hsame, -⟩ := (hleast m.users hids u).mp hfound
        exact absurd hsame (h u hstored)

/-- Four users have been saved, of whom three have an email that is one up to case: in capital letters, in small letters, and
with a long s. -/
def namesakes : Memory :=
  let save := fun (m : Memory) (u : User) => (m.save { instant := 0 } u).2
  [{ id := 9, name := "Sam", email := "SAM@example.com", role := Role.viewer.name },
   { id := 4, name := "Sam", email := "ſam@example.com", role := Role.admin.name },
   { id := 2, name := "Ann", email := "ann@example.com", role := Role.editor.name },
   { id := 7, name := "Sam", email := "sam@example.com", role := Role.viewer.name }].foldl save {}

/-- The one with the long s has the least id, and is found in the order of saving and in the order of ids. -/
theorem least_namesake_found :
    (namesakes.users.map User.id).Nodup ∧
      ∃ u, u.id = 4 ∧ namesakes.LeastMatch "Sam@Example.com" u ∧
        namesakes.users.reverse.foldl (consider "Sam@Example.com") none = some u ∧
        (namesakes.users.mergeSort fun a b => a.id ≤ b.id).foldl (consider "Sam@Example.com") none = some u ∧
        World.answer (.findByEmail "Sam@Example.com") { clock := 0, storage := .memory namesakes } =
          (.ok (some u), { clock := 0, storage := .memory namesakes }) := by
  have hids : (namesakes.users.map User.id).Nodup := by decide +kernel
  obtain ⟨found, horders, hleast, -⟩ := least_match_found_in_any_order hids "Sam@Example.com"
  obtain ⟨u, hid, hu⟩ : ∃ u : User, u.id = 4 ∧ namesakes.users.reverse.foldl (consider "Sam@Example.com") none = some u := by
    cases h : namesakes.users.reverse.foldl (consider "Sam@Example.com") none with
    | none => exact absurd h (by decide +kernel)
    | some u =>
      have hids : (namesakes.users.reverse.foldl (consider "Sam@Example.com") none).map User.id = some 4 := by decide +kernel
      rw [h] at hids
      exact ⟨u, Option.some.inj hids, rfl⟩
  have hfound : found = some u := (horders _ (List.reverse_perm _)).1.symm.trans hu
  subst hfound
  refine ⟨hids, u, hid, (hleast u).mp rfl, hu, (horders _ (List.mergeSort_perm _ _)).1, ?_⟩
  exact (horders _ (List.Perm.refl _)).2.1 _ rfl rfl

end Store.Memory

end Roster
