import Roster.Proofs.Interleaving

/-!
# Lost updates

Saving without a hash, deactivating and setting a password read the user and then write it back, in two calls, so what is
written may rest on a record that has been replaced in between. Of two changes of one user that run side by side and both
succeed, the one that writes last wins. It has either seen what the other wrote, and then the outcome is that of running
them one after the other, or it has not, and then the outcome is as if the other had never run. Which changes can undo which
others in this way is a table (`Change.overwrites`), and none of its entries is there in vain.
-/

namespace Roster

open Program

/-- Signing in as it is for a call that draws this salt. -/
def SignIn.withSalt (s : SignIn) (salt : Text) : SignIn :=
  { s with passwords := { s.passwords with hash := fun _ => s.passwords.hash salt } }

/-- In a world where it runs on its own, that is the next salt. -/
theorem SignIn.attempt_setPassword (s : SignIn) {w : World} {m : Store.Memory} (hw : w.Works m) (id : UInt64)
    (password : Text) :
    w.attempt (s.setPassword id password) = w.attempt ((s.withSalt (World.salt w.salts)).setPassword id password) := by
  rw [World.attempt, World.attempt, run_setPassword, run_setPassword]
  split
  · rfl
  · rw [World.run, World.run, run_call, run_call, World.answer_findById hw.storage hw.findById id]
    cases m.find? id with
    | none => rfl
    | some u => rfl

/-- The hash of a new password, if it is long enough and can be hashed. -/
def SignIn.newHash? (s : SignIn) (salt password : Text) : Option Text :=
  if password.length < Fault.minPasswordLength then none else (s.passwords.hash salt password).toOption

/-- A change of one user: it is saved with the hash it has, deactivated or deleted, or gets a new password, which is hashed
with the salt drawn for this call. -/
inductive Change where
  | save (user : User)
  | deactivate
  | delete
  | setPassword (password salt : Text)

namespace Change

variable (s : SignIn) (cached : Bool) (id : UInt64)

/-- The user as it comes to be saved under an id, without a hash. -/
def incoming (u : User) : User := { u with id, passwordHash := [] }

/-- The task of a change of the user with an id. -/
def task : Change → Task Unit
  | .save u => (fun _ => ()) <$> Users.save cached (incoming id u)
  | .deactivate => (fun _ => ()) <$> Users.deactivate cached id
  | .delete => Users.delete cached id
  | .setPassword password salt => (s.withSalt salt).setPassword id password

/-- What a change makes of the record; `none` where it is refused. -/
def effect : Change → Effect
  | .save u => fun x =>
    if (Users.check (incoming id u)).isOk then some (some (Users.withHashOf (incoming id u) x).timeless) else none
  | .deactivate => Option.map fun u => some u.deactivate
  | .delete => fun _ => some none
  | .setPassword password salt =>
    match s.newHash? salt password with
    | some hash => Option.map fun u => some { u with passwordHash := hash }
    | none => fun _ => none

/-- Whether a change that has read the record undoes the other by writing it: whatever it does not set itself it writes back
as it was. -/
def overwrites : Change → Change → Bool
  | .save _, .delete | .save _, .setPassword .. => true
  | .save _, .save _ | .save _, .deactivate => false
  | .deactivate, .deactivate => false
  | .deactivate, _ => true
  | .setPassword .., .setPassword .. => false
  | .setPassword .., _ => true
  | .delete, _ => false

variable {s cached id}

/-- Storing what the effect makes of the record that was seen carries the effect out. -/
theorem store_follows {e : Effect} {x : Option User} {u : User} (hid : u.id = id) (he : e x = some (some u.timeless)) :
    Follows e id (.seen x) (Users.store cached u) := by
  refine ⟨⟨hid, he⟩, fun r _ => ?_⟩
  cases r with
  | error f => exact ⟨_, rfl⟩
  | ok v => exact Follows.aside (Users.remember_idle cached v) fun _ => trivial

/-- Saving carries out its effect: it reads the record for the hash, if it has none, and writes the user. -/
theorem save_follows (u : User) : Follows ((save u).effect s id) id .fresh (Users.save cached (incoming id u)).run := by
  rw [Users.run_save]
  cases hu : Users.check (incoming id u) with
  | error f => exact ⟨⟨f, rfl⟩, fun x => if_neg (by rw [hu]; exact Bool.false_ne_true)⟩
  | ok _ =>
    rw [Users.run_keepHash]
    refine ⟨rfl, fun r _ => ?_⟩
    cases r with
    | error f => exact ⟨_, rfl⟩
    | ok old =>
      refine store_follows (Users.id_withHashOf (incoming id u) old) ((if_pos (by rw [hu]; rfl)).trans ?_)
      cases old <;> rfl

/-- Deactivating carries out its effect: it reads the record and writes it with the flag cleared. -/
theorem deactivate_follows : Follows (deactivate.effect s id) id .fresh (Users.deactivate cached id).run := by
  rw [Users.run_deactivate]
  refine ⟨rfl, fun r hr => ?_⟩
  rcases r with f | _ | u
  · exact ⟨_, rfl⟩
  · exact ⟨⟨_, rfl⟩, rfl⟩
  · exact store_follows (u := u.deactivate) (hr u rfl) rfl

/-- Deleting carries out its effect without reading the record. -/
theorem delete_follows : Follows (delete.effect s id) id .fresh (Users.delete cached id).run := by
  rw [Users.run_delete]
  refine ⟨⟨rfl, fun _ => rfl⟩, fun r _ => ?_⟩
  cases r with
  | error f => exact ⟨f, rfl⟩
  | ok _ => exact Follows.aside (Users.forget_idle cached id) fun _ => trivial

/-- Setting a password carries out its effect: it reads the record and writes it with the new hash. -/
theorem setPassword_follows (password salt : Text) :
    Follows ((setPassword password salt).effect s id) id .fresh ((s.withSalt salt).setPassword id password).run := by
  rw [SignIn.run_setPassword, effect]
  by_cases hshort : password.length < Fault.minPasswordLength
  · rw [SignIn.newHash?, if_pos hshort, if_pos hshort]
    exact ⟨⟨_, rfl⟩, fun x => rfl⟩
  · rw [SignIn.newHash?, if_neg hshort, if_neg hshort]
    refine ⟨rfl, fun r hr => ?_⟩
    rcases r with f | _ | u
    · exact ⟨_, rfl⟩
    · refine ⟨⟨_, rfl⟩, ?_⟩
      cases (s.passwords.hash salt password).toOption <;> rfl
    · refine ⟨rfl, fun drawn _ => ?_⟩
      have hdrawn : (s.withSalt salt).passwords.hash drawn password = s.passwords.hash salt password := rfl
      dsimp only
      rw [hdrawn]
      cases s.passwords.hash salt password with
      | error f => exact ⟨⟨_, rfl⟩, rfl⟩
      | ok hash =>
        refine ⟨⟨hr u rfl, rfl⟩, fun r _ => ?_⟩
        cases r with
        | error f => exact ⟨_, rfl⟩
        | ok _ => exact Follows.aside (Users.forget_idle _ id) fun _ => trivial

/-- Each change carries out its effect. -/
theorem task_follows (a : Change) : Follows (a.effect s id) id .fresh (a.task s cached id).run := by
  cases a with
  | save u => exact (save_follows u).map _
  | deactivate => exact deactivate_follows.map _
  | delete => exact delete_follows
  | setPassword password salt => exact setPassword_follows password salt

/-- Saving makes the given user of any record, with the hash that was there if it has none. -/
theorem effect_save {u : User} {x y : Option User} :
    (save u).effect s id x = some y ↔
      (Users.check (incoming id u)).isOk ∧ some (Users.withHashOf (incoming id u) x).timeless = y := by
  rw [effect, Option.ite_none_right_eq_some, Option.some.injEq]

/-- Deactivating clears the flag of a record that is there. -/
theorem effect_deactivate {x y : Option User} :
    deactivate.effect s id x = some y ↔ ∃ u, x = some u ∧ some u.deactivate = y :=
  Option.map_eq_some_iff

/-- Setting a password replaces the hash of a record that is there, if the password can be hashed. -/
theorem effect_setPassword {password salt : Text} {x y : Option User} :
    (setPassword password salt).effect s id x = some y ↔
      ∃ hash, s.newHash? salt password = some hash ∧ ∃ u, x = some u ∧ some { u with passwordHash := hash } = y := by
  rw [effect]
  cases s.newHash? salt password with
  | none => simp
  | some hash => simp

/-- A change that does not overwrite another writes the same whether it has seen it or not. -/
theorem effect_of_not_overwrites {a b : Change} (h : a.overwrites b = false) {x x₁ x₂ : Option User}
    (hb : b.effect s id x = some x₁) (ha : a.effect s id x = some x₂) : a.effect s id x₁ = some x₂ := by
  cases a with
  | save u =>
    obtain ⟨hu, rfl⟩ := effect_save.1 ha
    refine effect_save.2 ⟨hu, ?_⟩
    cases b with
    | save v =>
      obtain ⟨-, rfl⟩ := effect_save.1 hb
      cases x <;> rfl
    | deactivate =>
      obtain ⟨v, rfl, rfl⟩ := effect_deactivate.1 hb
      rfl
    | delete => cases h
    | setPassword _ _ => cases h
  | deactivate =>
    cases b with
    | deactivate =>
      obtain ⟨u, rfl, rfl⟩ := effect_deactivate.1 hb
      exact ha
    | _ => cases h
  | delete => exact ha
  | setPassword password salt =>
    cases b with
    | setPassword password' salt' =>
      obtain ⟨_, -, u, rfl, rfl⟩ := effect_setPassword.1 hb
      obtain ⟨hash, hhash, _, ⟨⟩, rfl⟩ := effect_setPassword.1 ha
      exact effect_setPassword.2 ⟨hash, hhash, _, rfl, rfl⟩
    | _ => cases h

/-! ## Two changes side by side -/

variable (s cached id)

/-- Two changes of one user about to run side by side. -/
def beside (a b : Change) (w : World) : System (Except Fault Unit) :=
  { threads := [(a.task s cached id).run, (b.task s cached id).run], world := w }

/-- The world after one change and then another. -/
def inTurn (a b : Change) (w : World) : World := ((w.attempt (a.task s cached id)).2.attempt (b.task s cached id)).2

variable {s cached id}

/-- Two changes side by side have made of the record what their history says, at every point of every schedule. -/
theorem joint_run (a b : Change) {w : World} {m : Store.Memory} (hw : w.Works m) (turns : List Turn) :
    ((beside s cached id a b w).run turns).Joint (a.effect s id) (b.effect s id) id (m.record id) :=
  System.run_keeps System.Joint.turn turns
    ⟨_, _, m, .fresh, .fresh, rfl, hw, a.task_follows, b.task_follows, .start trivial trivial⟩

/-- Two changes one after the other make of the record what their effects do. -/
theorem record_inTurn (a b : Change) {w : World} {m : Store.Memory} (hw : w.Works m) :
    (inTurn s cached id a b w).record id = (b.effect s id).apply ((a.effect s id).apply (m.record id)) := by
  obtain ⟨m₁, hw₁, h₁⟩ := a.task_follows.record_run hw rfl
  obtain ⟨m₂, hw₂, h₂⟩ := b.task_follows.record_run hw₁ rfl
  exact (hw₂.record id).trans (h₁ ▸ h₂)

/-- What a change writes that has not seen another is what it writes alone, and differs from what it writes after the other
only if it overwrites it. -/
theorem record_of_lost {a b : Change} {w : World} {m : Store.Memory} (hw : w.Works m) {x₁ x₂ : Option User}
    (hb : b.effect s id (m.record id) = some x₁) (ha : a.effect s id (m.record id) = some x₂) :
    x₂ = (w.attempt (a.task s cached id)).2.record id ∧
      (a.overwrites b = true ∨ x₂ = (inTurn s cached id b a w).record id) := by
  obtain ⟨m₁, hw₁, h₁⟩ := a.task_follows.record_run hw rfl
  refine ⟨(((hw₁.record id).trans h₁).trans (Effect.apply_of_some ha)).symm, ?_⟩
  cases h : a.overwrites b with
  | true => exact Or.inl rfl
  | false =>
    rw [record_inTurn b a hw, Effect.apply_of_some hb, Effect.apply_of_some (effect_of_not_overwrites h hb ha)]
    exact Or.inr rfl

/-- Two changes of one user that run side by side and both succeed leave the record that they leave one after the other, in
one of the two orders; or else one of them has read the record, then the other has written it and then the first one, which
overwrites such a change, and the record is as if the other had never run. -/
theorem serial_or_overtaken (s : SignIn) (cached : Bool) (id : UInt64) (a b : Change) {w : World} {m : Store.Memory}
    (hw : w.Works m) (turns : List Turn) {S : System (Except Fault Unit)} (hS : (beside s cached id a b w).run turns = S)
    (hend : S.succeeded = true) :
    S.world.record id = (inTurn s cached id a b w).record id ∨
    S.world.record id = (inTurn s cached id b a w).record id ∨
    (a.overwrites b = true ∧ Overtaken id 0 1 S.trace ∧
      S.world.record id = (w.attempt (a.task s cached id)).2.record id) ∨
    (b.overwrites a = true ∧ Overtaken id 1 0 S.trace ∧
      S.world.record id = (w.attempt (b.task s cached id)).2.record id) := by
  obtain ⟨p, q, m', φ, φ', hthreads, hw', hp, hq, hh⟩ := hS ▸ joint_run a b hw turns
  obtain ⟨_, rfl⟩ : ∃ r, p = .done (.ok r) := S.ended_of_succeeded hend (hthreads ▸ List.mem_cons_self)
  obtain ⟨_, rfl⟩ : ∃ r, q = .done (.ok r) :=
    S.ended_of_succeeded hend (hthreads ▸ List.mem_cons_of_mem _ List.mem_cons_self)
  obtain rfl := Phase.eq_wrote_of_ends hp
  obtain rfl := Phase.eq_wrote_of_ends hq
  rw [hw'.record]
  generalize m'.record id = x at hh ⊢
  cases hh with
  | start h _ => exact h.elim
  | first _ h => exact h.elim
  | second _ h => exact h.elim
  | inOrder h₁ h₂ => exact Or.inl (by rw [record_inTurn a b hw, Effect.apply_of_some h₁, Effect.apply_of_some h₂])
  | inReverse h₁ h₂ =>
    exact Or.inr (Or.inl (by rw [record_inTurn b a hw, Effect.apply_of_some h₁, Effect.apply_of_some h₂]))
  | lostSecond hb ha h =>
    obtain ⟨halone, hover | hserial⟩ := record_of_lost hw hb ha
    · exact Or.inr (Or.inr (Or.inl ⟨hover, h, halone⟩))
    · exact Or.inr (Or.inl hserial)
  | lostFirst ha hb h =>
    obtain ⟨halone, hover | hserial⟩ := record_of_lost hw ha hb
    · exact Or.inr (Or.inr (Or.inr ⟨hover, h, halone⟩))
    · exact Or.inl hserial

/-- Setting a password, overtaken by a deactivation, undoes it. -/
theorem password_set_over_deactivation :
    let ann : User := { id := 1, name := "Ann", email := "ann@example.com", role := "viewer", active := true }
    let w : World := { clock := 0, storage := .memory ⟨[ann]⟩ }
    let s : SignIn := { secret := "key", passwords := Password.salted 10, cached := true }
    let a := setPassword "password" "salt"
    let S := (beside s true 1 a deactivate w).run ([.move 0] ++ List.replicate 5 (.move 1) ++ List.replicate 5 (.move 0))
    w.Works ⟨[ann]⟩ ∧ S.succeeded = true ∧ Overtaken 1 0 1 S.trace ∧
      S.world.record 1 = (w.attempt (a.task s true 1)).2.record 1 ∧ (S.world.record 1).map User.active = some true := by
  intro ann w s a S
  have hw : w.Works ⟨[ann]⟩ := ⟨rfl, rfl, rfl, rfl⟩
  have hend : S.succeeded = true := by decide +kernel
  have hactive : (S.world.record 1).map User.active = some true := by decide +kernel
  have hinactive : ∀ x : Option User, x.map User.active = some false → S.world.record 1 ≠ x := fun x hx h => by
    rw [h, hx] at hactive
    cases hactive
  obtain h | h | ⟨-, htrace, halone⟩ | ⟨-, -, h⟩ := serial_or_overtaken s true 1 a deactivate hw _ rfl hend
  · exact absurd h (hinactive _ (by decide +kernel))
  · exact absurd h (hinactive _ (by decide +kernel))
  · exact ⟨hw, hend, htrace, halone, hactive⟩
  · exact absurd h (hinactive _ (by decide +kernel))

/-- Each change that overwrites another can undo it: the first one reads, the other runs, and the first one goes on. -/
theorem overwritten_change_lost :
    let ann : User :=
      { id := 1, name := "Ann", email := "ann@example.com", role := "viewer", active := true, passwordHash := "old" }
    let w : World := { clock := 0, storage := .memory ⟨[ann]⟩ }
    let s : SignIn := { secret := "key", passwords := Password.salted 10, cached := true }
    let changes := [save { ann with name := "Anne" }, deactivate, delete, setPassword "password" "salt"]
    let turns := [.move 0] ++ List.replicate 5 (.move 1) ++ List.replicate 5 (.move 0)
    w.Works ⟨[ann]⟩ ∧ ∀ a ∈ changes, ∀ b ∈ changes, a.overwrites b = true →
      ((beside s true 1 a b w).run turns).succeeded = true ∧
      ((beside s true 1 a b w).run turns).world.record 1 ≠ (inTurn s true 1 a b w).record 1 ∧
      ((beside s true 1 a b w).run turns).world.record 1 ≠ (inTurn s true 1 b a w).record 1 := by
  intro ann w s changes turns
  refine ⟨⟨rfl, rfl, rfl, rfl⟩, fun a ha b hb h => ?_⟩
  -- the first letter of a hash tells the old one from a new one, which need not be computed
  let view : Option User → Option (Text × Bool × Text) := Option.map fun u => (u.name, u.active, u.passwordHash.take 1)
  have hviews : ∀ a ∈ changes, ∀ b ∈ changes, a.overwrites b = true →
      ((beside s true 1 a b w).run turns).succeeded = true ∧
      view (((beside s true 1 a b w).run turns).world.record 1) ≠ view ((inTurn s true 1 a b w).record 1) ∧
      view (((beside s true 1 a b w).run turns).world.record 1) ≠ view ((inTurn s true 1 b a w).record 1) := by
    decide +kernel
  obtain ⟨hend, hab, hba⟩ := hviews a ha b hb h
  exact ⟨hend, ne_of_apply_ne view hab, ne_of_apply_ne view hba⟩

end Change

end Roster
