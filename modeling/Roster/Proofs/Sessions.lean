import Roster.Proofs.Access
import Roster.Proofs.IssuedTokens
import Roster.Proofs.Validity

/-!
# What a token is worth

A token is issued for the user that signs in, and says little: the id and the role of the user, and until when it is good.
Whether it is accepted later is decided by the clock and by the record that the store then has under the id. So a user that
is deactivated or removed is locked out at once, and one that gets another role or password is not.
-/

namespace Roster

open Program

/-! ## Effects of operations on a register -/

/-- Two registers have records under the same ids, and the same ones of them are active. -/
def Register.SameActive (f g : Register) : Prop := ∀ id, (g id).map User.active = (f id).map User.active

/-- A user that is as active as it was on record leaves everybody as active. -/
theorem Register.sameActive_put {f : Register} {u : User} (hu : (f u.id).map User.active = some u.active) (now : Timestamp) :
    f.SameActive (f.put (f.stamped now u)) := by
  intro id
  by_cases hid : id = u.id
  · rw [hid, hu]
    exact congrArg (Option.map User.active) (f.put_self (f.stamped now u))
  · exact congrArg (Option.map User.active) (f.put_of_ne hid)

namespace World

/-- The store of a world works and holds a register, its caller is waiting, and it is a certain time. -/
structure KeepsAt (w : World) (f : Register) (t : Instant) : Prop extends w.Keeps f where
  clock : w.clock = t

namespace KeepsAt

variable {w : World} {f : Register} {t : Instant}

/-- A call that only reads and takes no time leaves store and clock. -/
theorem of_reads (h : w.KeepsAt f t) {c : Call} (ht : c.timeless = true) (hc : c.Reads) : (answer c w).2.KeepsAt f t :=
  ⟨h.toKeeps.of_reads ht hc, (answer_clock ht w).trans h.clock⟩

/-- Calls of cache and log change nothing about the store, and take no time. -/
theorem run_idle {α : Type} (h : w.KeepsAt f t) {p : Act α} (hp : Only Call.Idle p) : (w.run p).2.KeepsAt f t := by
  refine hp.run_keeps (K := fun v => KeepsAt v f t) (fun c v hc hv => ?_) h
  have htime : c.timeless = true := by cases c <;> first | rfl | cases hc
  exact hv.of_reads htime (Call.Idle.reads hc)

/-- A valid user can be saved, and is then on record, stamped. -/
theorem save (h : w.KeepsAt f t) {u : User} (hu : u.Valid) :
    (answer (.save u) w).1 = .ok (f.stamped w.now u) ∧
      (answer (.save u) w).2.KeepsAt (f.put (f.stamped w.now u)) t := by
  obtain ⟨-, hid, -, -, hrole⟩ := User.valid_iff.mp hu
  obtain ⟨hanswer, hkeeps⟩ := h.toKeeps.save hid hrole
  exact ⟨hanswer, hkeeps, (answer_clock rfl w).trans h.clock⟩

/-- A valid user that is stored is then on record, stamped, and no time has passed. -/
theorem run_store (h : w.KeepsAt f t) (cached : Bool) {u : User} (hu : u.Valid) :
    (w.run (Users.store cached u)).2.KeepsAt (f.put (f.stamped w.now u)) t := by
  obtain ⟨hanswer, hkeeps⟩ := h.save hu
  rw [run, Users.store, run_call, hanswer]
  dsimp only
  rw [run_bind]
  exact hkeeps.run_idle (Users.remember_idle cached _)

/-- A removed user is gone. -/
theorem attempt_delete (h : w.KeepsAt f t) (cached : Bool) (id : UInt64) :
    (w.attempt (Users.delete cached id)).2.KeepsAt (f.drop id) t := by
  have hkeeps : (answer (.delete id) w).2.KeepsAt (f.drop id) t :=
    ⟨(h.toKeeps.delete id).2, (answer_clock rfl w).trans h.clock⟩
  rw [attempt, run, Users.run_delete, run_call]
  cases (answer (.delete id) w).1 with
  | error e => exact hkeeps
  | ok _ =>
    dsimp only
    rw [run_bind]
    exact hkeeps.run_idle (Users.forget_idle cached id)

/-- A deactivated user, if there is one, is no longer active. -/
theorem attempt_deactivate (h : w.KeepsAt f t) (hvalid : f.All User.Valid) (cached : Bool) (id : UInt64) :
    ∃ g, (w.attempt (Users.deactivate cached id)).2.KeepsAt g t ∧ ∀ v, g id = some v → v.active = false := by
  have hkeeps : (answer (.findById id) w).2.KeepsAt f t := h.of_reads rfl rfl
  rw [attempt, run, Users.run_deactivate, run_call, h.findById]
  cases hu : f id with
  | none =>
    refine ⟨f, hkeeps, fun v hv => ?_⟩
    rw [hu] at hv
    cases hv
  | some u =>
    have hinactive : u.deactivate.Valid := (hvalid id u hu).congr rfl rfl rfl rfl
    obtain rfl : u.id = id := h.id_eq hu
    refine ⟨_, hkeeps.run_store cached hinactive, fun v hv => ?_⟩
    obtain rfl := Option.some.inj ((f.put_self (f.stamped _ u.deactivate)).symm.trans hv)
    rfl

/-- A new password leaves every user active or not as before. -/
theorem attempt_setPassword (h : w.KeepsAt f t) (hvalid : f.All User.Valid) (s : SignIn) (id : UInt64) (password : Text) :
    ∃ g, (w.attempt (s.setPassword id password)).2.KeepsAt g t ∧ f.SameActive g := by
  have hkeeps : (answer (.findById id) w).2.KeepsAt f t := h.of_reads rfl rfl
  rw [attempt, run, SignIn.run_setPassword]
  split
  · exact ⟨f, h, fun _ => rfl⟩
  · rw [run_call, h.findById]
    cases hu : f id with
    | none => exact ⟨f, hkeeps, fun _ => rfl⟩
    | some u =>
      dsimp only
      rw [run_call]
      generalize hv : (answer .salt (answer (.findById id) w).2).2 = v
      have hkeeps' : v.KeepsAt f t := hv ▸ hkeeps.of_reads rfl rfl
      cases s.passwords.hash _ password with
      | error e => exact ⟨f, hkeeps', fun _ => rfl⟩
      | ok hash =>
        obtain rfl : u.id = id := h.id_eq hu
        have hchanged : ({ u with passwordHash := hash } : User).Valid := (hvalid _ u hu).congr rfl rfl rfl rfl
        have hactive : f.SameActive (f.put (f.stamped v.now { u with passwordHash := hash })) :=
          Register.sameActive_put (u := { u with passwordHash := hash }) (congrArg (Option.map User.active) hu) v.now
        obtain ⟨hanswer, hsaved⟩ := hkeeps'.save hchanged
        dsimp only
        rw [run_call, hanswer]
        dsimp only
        rw [run_bind]
        exact ⟨_, hsaved.run_idle (Users.forget_idle s.cached u.id), hactive⟩

/-- A user that is saved as active as it was stays so; so does one that is not saved because it does not pass the check. -/
theorem attempt_save (h : w.KeepsAt f t) (cached : Bool) {u : User} (hu : (f u.id).map User.active = some u.active) :
    ∃ g, (w.attempt (Users.save cached u)).2.KeepsAt g t ∧ f.SameActive g := by
  rw [attempt, run, Users.run_save]
  cases hcheck : Users.check u with
  | error e => exact ⟨f, h, fun _ => rfl⟩
  | ok _ =>
    have hvalid : u.Valid := hcheck
    dsimp only
    rw [Users.run_keepHash]
    split
    · have hkeeps : (answer (.findById u.id) w).2.KeepsAt f t := h.of_reads rfl rfl
      have hactive : (f (Users.withHashOf u (f u.id)).id).map User.active = some (Users.withHashOf u (f u.id)).active := by
        rw [Users.id_withHashOf, hu]
        cases f u.id <;> rfl
      rw [call_bind, run_call, h.findById]
      exact ⟨_, hkeeps.run_store cached (hvalid.withHashOf (f u.id)), Register.sameActive_put hactive _⟩
    · exact ⟨_, h.run_store cached hvalid, Register.sameActive_put hu _⟩

end KeepsAt

end World

/-! ## Acceptance -/

/-- The user that a token issued at a moment for an id stands for at a time: the one in the register, if it is active and
the token has not expired. -/
def Register.holder? (f : Register) (issued : Timestamp) (id : UInt64) (t : Instant) : Option User :=
  if t < Token.expiry issued then (f id).filter User.active else none

/-- The holder of a token is the active user on record, until the token expires. -/
theorem Register.holder?_eq_some {f : Register} {issued : Timestamp} {id : UInt64} {t : Instant} {u : User} :
    f.holder? issued id t = some u ↔ t < Token.expiry issued ∧ f id = some u ∧ u.active = true := by
  unfold holder?
  split
  · rename_i h
    simp only [Option.filter_eq_some_iff, h, true_and]
  · rename_i h
    simp only [reduceCtorEq, h, false_and]

/-- A token has a holder until it expires, if the user on record is active. -/
theorem Register.isSome_holder? {f : Register} {issued : Timestamp} {id : UInt64} {t : Instant} :
    (f.holder? issued id t).isSome = true ↔ t < Token.expiry issued ∧ (f id).map User.active = some true := by
  rw [Option.isSome_iff_exists]
  simp only [holder?_eq_some, Option.map_eq_some_iff]
  exact ⟨fun ⟨u, ht, hu⟩ => ⟨ht, u, hu⟩, fun ⟨ht, u, hu⟩ => ⟨u, ht, hu⟩⟩

namespace World

/-- An issued token is accepted for the user it stands for, and is otherwise refused without a reason. -/
theorem KeepsAt.attempt_authenticate {w : World} {f : Register} {t : Instant} (h : w.KeepsAt f t) (s : SignIn)
    {issued : Timestamp} (hissued : Token.Datable issued) (id : UInt64) (role : Role) :
    (w.attempt (s.authenticate (Token.issue s.secret issued role.name (User.key id)))).1 =
      match f.holder? issued id t with
      | some u => .ok u
      | none => .error .unauthorized := by
  have hclock : w.now.instant = t := h.clock
  rw [World.attempt_authenticate, attempt_validate, s.identity?_issue hissued id role, hclock, Register.holder?]
  by_cases ht : t < Token.expiry issued
  · have hstored : w.stored id = .ok (f id) := h.findById id
    rw [if_pos ht, if_pos ht]
    dsimp only
    rw [hstored]
    cases f id with
    | none => rfl
    | some u =>
      rw [Option.filter_some]
      dsimp only
      split <;> rfl
  · rw [if_neg ht, if_neg ht]

/-- Without an active user to stand for, an issued token is refused. -/
theorem KeepsAt.refuses {w : World} {f : Register} {t : Instant} (h : w.KeepsAt f t) (s : SignIn) {issued : Timestamp}
    (hissued : Token.Datable issued) {id : UInt64} (role : Role) (hf : ∀ u, f id = some u → u.active = false) :
    (w.attempt (s.authenticate (Token.issue s.secret issued role.name (User.key id)))).1 = .error .unauthorized := by
  rw [h.attempt_authenticate s hissued id role]
  cases hholder : f.holder? issued id t with
  | none => rfl
  | some u =>
    obtain ⟨-, hu, hactive⟩ := Register.holder?_eq_some.mp hholder
    rw [hf u hu] at hactive
    cases hactive

/-- Whether a token is accepted. -/
def Accepts (w : World) (s : SignIn) (token : Text) : Prop := ∃ u, (w.attempt (s.authenticate token)).1 = .ok u

/-- A token is accepted until it expires, if the user on record is active. -/
theorem KeepsAt.accepts_iff {w : World} {f : Register} {t : Instant} (h : w.KeepsAt f t) (s : SignIn) {issued : Timestamp}
    (hissued : Token.Datable issued) (id : UInt64) (role : Role) :
    w.Accepts s (Token.issue s.secret issued role.name (User.key id)) ↔
      t < Token.expiry issued ∧ (f id).map User.active = some true := by
  rw [← Register.isSome_holder?, Accepts, h.attempt_authenticate s hissued id role]
  cases f.holder? issued id t <;> simp

/-! ## Runs -/

/-- How a world may go on: operations are carried out one after the other, and in between anything may change but the store.
Time passes, entries vanish from the cache, callers give up, operations begin or cease to fail. -/
inductive Leads (s : SignIn) (cached : Bool) (w : World) : World → Prop where
  | refl : Leads s cached w w
  | drift {v v' : World} : Leads s cached w v → v'.storage = v.storage → Leads s cached w v'
  | operation {v : World} (o : Operation) : Leads s cached w v → Leads s cached w (v.attempt (o.task s cached)).2

/-- Whatever operations are carried out, valid users stay the only ones. -/
theorem Leads.sound {s : SignIn} {cached : Bool} {w v : World} (h : Leads s cached w v) (hw : w.storage.Sound) :
    v.storage.Sound := by
  induction h with
  | refl => exact hw
  | drift _ hsame ih => exact hsame ▸ ih
  | operation o _ ih => exact run_sound (o.task_valid s cached) ih

/-- A user that is found by email is a stored one. -/
theorem found_stored {w : World} {f : Register} (h : w.storage.Holds f) {email : Text} {u : User}
    (hu : (answer (.findByEmail email) w).1 = .ok (some u)) : f u.id = some u := by
  obtain ⟨hsame, -⟩ | ⟨⟨e, he⟩, -⟩ := w.findByEmail_settles email
  · obtain ⟨r, hr, hpicks⟩ := (keeps_calm h).findByEmail email
    rw [hsame, hr] at hu
    obtain rfl := Except.ok.inj hu
    exact hpicks.1
  · rw [he] at hu
    cases hu

/-- A sign-in that succeeds is that of the user with the email, and is answered with a token for it. -/
theorem of_login {s : SignIn} {w : World} {email password token : Text}
    (h : (w.attempt (s.login email password)).1 = .ok token) :
    ∃ u, (answer (.findByEmail email) w).1 = .ok (some u) ∧ s.admits u password = true ∧
      token = Token.issue s.secret w.now u.role (User.key u.id) := by
  have hclock : (answer (.findByEmail email) w).2.clock = w.clock := answer_clock rfl w
  have hnow : (answer (.findByEmail email) w).2.now = w.now := by rw [now, hclock, now]
  rw [attempt, run, SignIn.run_login, run_call] at h
  rcases hr : (answer (.findByEmail email) w).1 with e | _ | u
  · rw [hr] at h
    cases h
  · rw [hr] at h
    cases h
  · rw [hr] at h
    dsimp only at h
    split at h
    · rename_i hadmits
      rw [run_call] at h
      refine ⟨u, rfl, hadmits, ?_⟩
      rw [← hnow]
      exact (Except.ok.inj h).symm
    · cases h

/-- What a token is worth in a world, if it was issued at a moment for the user with an id. -/
structure Standing (s : SignIn) (cached : Bool) (token : Text) (issued : Timestamp) (id : UInt64) (w : World) : Prop where
  /-- The token is accepted before it expires, for the stored user, if that is active. -/
  accepted : ∀ u, (w.attempt (s.authenticate token)).1 = .ok u ↔
    w.clock < Token.expiry issued ∧ w.stored id = .ok (some u) ∧ u.active = true
  /-- Otherwise it is refused without a reason. -/
  refused : ∀ f, (w.attempt (s.authenticate token)).1 = .error f → f = .unauthorized
  /-- A user that is deactivated is locked out by that. -/
  deactivated : ((w.attempt (Users.deactivate cached id)).2.attempt (s.authenticate token)).1 = .error .unauthorized
  /-- So is one that is removed. -/
  removed : ((w.attempt (Users.delete cached id)).2.attempt (s.authenticate token)).1 = .error .unauthorized
  /-- A new password, of this or another user, makes no difference. -/
  newPassword : ∀ i password, (w.attempt (s.setPassword i password)).2.Accepts s token ↔ w.Accepts s token
  /-- Neither does a new role. -/
  newRole : ∀ u role, w.stored id = .ok (some u) →
    ((w.attempt (Users.save cached { u with role := role })).2.Accepts s token ↔ w.Accepts s token)

/-- A working store of valid users gives every issued token its standing. -/
theorem KeepsAt.standing {w : World} {f : Register} (h : w.KeepsAt f w.clock) (hvalid : f.All User.Valid) (s : SignIn)
    (cached : Bool) {issued : Timestamp} (hissued : Token.Datable issued) (id : UInt64) (role : Role) :
    Standing s cached (Token.issue s.secret issued role.name (User.key id)) issued id w := by
  have hstored : w.stored id = .ok (f id) := h.findById id
  have hsame : ∀ {v : World} {g : Register}, v.KeepsAt g w.clock → f.SameActive g →
      (v.Accepts s (Token.issue s.secret issued role.name (User.key id)) ↔
        w.Accepts s (Token.issue s.secret issued role.name (User.key id))) := by
    intro v g hv hactive
    rw [hv.accepts_iff s hissued id role, h.accepts_iff s hissued id role, hactive id]
  refine ⟨fun u => ?_, fun e he => ?_, ?_, ?_, fun i password => ?_, fun u role' hu => ?_⟩
  · rw [h.attempt_authenticate s hissued id role, hstored, Except.ok.injEq, ← Register.holder?_eq_some]
    cases f.holder? issued id w.clock <;> simp
  · rw [h.attempt_authenticate s hissued id role] at he
    cases hholder : f.holder? issued id w.clock with
    | none =>
      rw [hholder] at he
      exact (Except.error.inj he).symm
    | some u =>
      rw [hholder] at he
      cases he
  · obtain ⟨g, hg, hinactive⟩ := h.attempt_deactivate hvalid cached id
    exact hg.refuses s hissued role hinactive
  · refine (h.attempt_delete cached id).refuses s hissued role fun u hu => ?_
    rw [f.drop_self] at hu
    cases hu
  · obtain ⟨g, hg, hactive⟩ := h.attempt_setPassword hvalid s i password
    exact hsame hg hactive
  · rw [hstored] at hu
    have hfid : f id = some u := Except.ok.inj hu
    obtain rfl : u.id = id := h.id_eq hfid
    have hactive : (f u.id).map User.active = some u.active := congrArg (Option.map User.active) hfid
    obtain ⟨g, hg, hactive⟩ := h.attempt_save cached (u := { u with role := role' }) hactive
    exact hsame hg hactive

/-- A token that somebody has signed in for, in whatever has become of a store that was empty once, stands for the stored
user with the id from then on: until a day after the full second in which it was issued, and while that user is active. -/
theorem token_stands_for_stored_user {s : SignIn} {cached : Bool} {w₀ w₁ : World} {email password token : Text}
    (hempty : w₀.storage.Holds fun _ => none) (hbefore : Leads s cached w₀ w₁) (hissued : Token.Datable w₁.now)
    (hlogin : (w₁.attempt (s.login email password)).1 = .ok token) :
    ∃ u, (answer (.findByEmail email) w₁).1 = .ok (some u) ∧ s.admits u password = true ∧
      ∀ w₂, Leads s cached (w₁.attempt (s.login email password)).2 w₂ → w₂.failing = [] → w₂.patience = .ok () →
        Standing s cached token w₁.now u.id w₂ := by
  obtain ⟨u, hfound, hadmits, rfl⟩ := of_login hlogin
  obtain ⟨f, hf, hvalid⟩ := hbefore.sound (Storage.sound_of_empty hempty)
  refine ⟨u, hfound, hadmits, fun w₂ hafter hfailing hpatience => ?_⟩
  have hu : u.Valid := hvalid u.id u (found_stored hf hfound)
  obtain ⟨role, hrole⟩ := Option.isSome_iff_exists.mp (User.valid_iff.mp hu).2.2.2.2
  have hquiet : Only Call.Quiet (s.login email password).run := s.login_quiet email password
  have hsound : (w₁.attempt (s.login email password)).2.storage.Sound :=
    run_sound (storesValid_of_reads (hquiet.mono fun _ hc => hc.1)).given ⟨f, hf, hvalid⟩
  obtain ⟨g, hg, hvalid'⟩ := hafter.sound hsound
  have hkeeps : w₂.KeepsAt g w₂.clock := ⟨⟨⟨hg, hfailing⟩, hpatience⟩, rfl⟩
  rw [Role.name_of_parse? hrole]
  exact hkeeps.standing hvalid' s cached hissued u.id role

/-- An editor signs in and is made a viewer with another password: within the day, the token stands for the viewer, and no
longer once the user has been deactivated. -/
theorem token_outlives_role_and_password :
    let s : SignIn :=
      { secret := "secret", passwords := { hash := fun _ password => .ok password, accepts := fun h p => h == p }, cached := true }
    let ann : User := { id := 5, name := "Ann", email := "ann@example.com", role := Role.editor.name }
    let w₀ : World := { clock := 1500000000 }
    let w₁ := ((w₀.attempt ((Operation.save ann).task s true)).2.attempt
      ((Operation.setPassword 5 "open sesame").task s true)).2
    let token := Token.issue s.secret w₁.now Role.editor.name (User.key 5)
    let w := (w₁.attempt (s.login "Ann@Example.com" "open sesame")).2
    let w' : World := { w with clock := Span.second + 24 * Span.hour - 1 }
    let w₂ := ((w'.attempt ((Operation.save { ann with role := Role.viewer.name }).task s true)).2.attempt
      ((Operation.setPassword 5 "another one").task s true)).2
    let ann' : User :=
      { ann with role := Role.viewer.name, passwordHash := "another one", createdAt := w₀.now, updatedAt := w'.now }
    (w₁.attempt (s.login "Ann@Example.com" "open sesame")).1 = .ok token ∧ Token.Datable w₁.now ∧
      (w₂.attempt (s.authenticate token)).1 = .ok ann' ∧
      ((w₂.attempt (Users.deactivate true 5)).2.attempt (s.authenticate token)).1 = .error .unauthorized := by
  intro s ann w₀ w₁ token w w' w₂ ann'
  have hempty : w₀.storage.Holds fun _ => none := Lists.nil
  have hbefore : Leads s true w₀ w₁ := .operation _ (.operation _ .refl)
  have hlogin : (w₁.attempt (s.login "Ann@Example.com" "open sesame")).1 = .ok token := rfl
  have hissued : Token.Datable w₁.now := by decide +kernel
  have hafter : Leads s true w w₂ := .operation _ (.operation _ (.drift .refl rfl))
  obtain ⟨u, hfound, -, hstanding⟩ := token_stands_for_stored_user hempty hbefore hissued hlogin
  have hid : u.id = 5 := by
    have hann : (answer (.findByEmail "Ann@Example.com") w₁).1 =
        .ok (some { ann with passwordHash := "open sesame", createdAt := w₀.now, updatedAt := w₀.now }) := by decide +kernel
    rw [hfound] at hann
    rw [Option.some.inj (Except.ok.inj hann)]
  rw [hid] at hstanding
  have h := hstanding w₂ hafter (by decide +kernel) (by decide +kernel)
  have hstored : w₂.stored 5 = .ok (some ann') := by decide +kernel
  exact ⟨hlogin, hissued, (h.accepted ann').mpr ⟨by decide +kernel, hstored, rfl⟩, h.deactivated⟩

end World

end Roster
