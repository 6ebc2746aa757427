import Roster.Proofs.Program
import Roster.SignIn

/-!
# The services, call by call

Each operation of the services written out as the tree of its calls. What an operation does to a store or a cache can then
be read off its calls, and no later proof looks at how the operation is written down.
-/

namespace Roster

open Program

/-! ## Tasks -/

namespace Task

variable {α β : Type}

/-- A task that only returns a value makes no call. -/
theorem run_pure (a : α) : (pure a : Task α).run = .done (.ok a) := rfl

/-- A task that is a result already makes no call, and a fault among the results ends it. -/
theorem run_ofExcept (r : Except Fault α) : (ofExcept r).run = .done r := rfl

/-- A program taken as a task succeeds with what the program ends with. -/
theorem run_lift (p : Act α) : (liftM p : Task α).run = p.bind fun a => .done (.ok a) := rfl

/-- The second of two tasks runs on the value of the first, and not at all if the first fails. -/
theorem run_bind (t : Task α) (f : α → Task β) :
    (t >>= f).run = t.run.bind fun
      | .ok a => (f a).run
      | .error e => .done (.error e) := by
  show t.run.bind _ = _
  congr
  funext r
  cases r <;> rfl

/-- A computation that cannot fail at the start of a task. -/
theorem run_lift_bind (p : Act α) (f : α → Task β) : ((liftM p : Task α) >>= f).run = p.bind fun a => (f a).run := by
  rw [run_bind, run_lift, bind_assoc]
  rfl

/-- A fault of an attempted task says what was being done; a value is passed on as it is. -/
theorem run_attempt (activity : Text) (t : Task α) :
    (attempt activity t).run = t.run.bind fun
      | .ok a => .done (.ok a)
      | .error f => .done (.error (.during activity f)) := by
  show t.run.bind _ = _
  congr
  funext r
  cases r <;> rfl

theorem run_findById (id : UInt64) : (findById id).run = .call (.findById id) .done := rfl

theorem run_findByEmail (email : Text) : (findByEmail email).run = .call (.findByEmail email) .done := rfl

theorem run_save (u : User) : (save u).run = .call (.save u) .done := rfl

theorem run_delete (id : UInt64) : (delete id).run = .call (.delete id) .done := rfl

theorem run_findAll : findAll.run = .call .findAll .done := rfl

end Task

/-! ## Users -/

namespace Users

variable (cached : Bool)

/-- A user is looked up in the cache first. A cache that fails is complained about, and counts as a miss. -/
theorem lookUp_true (id : UInt64) :
    lookUp true id = .call (.cacheGet (User.key id)) fun
      | .ok o => .done o
      | .error f => (complain "get" id f).bind fun _ => .done none := by
  simp only [lookUp, if_true]
  rfl

/-- A user is taken from the cache if it is there. Otherwise the store is asked, and the user it has is remembered before
it is answered with. -/
theorem run_get (id : UInt64) :
    (get cached id).run = (lookUp cached id).bind fun
      | some u => .done (.ok u)
      | none => .call (.findById id) fun
        | .error f => .done (.error (.during "find user" f))
        | .ok none => .done (.error (.userAbsent id))
        | .ok (some u) => (remember cached u).bind fun _ => .done (.ok u) := by
  simp only [get, Task.run_lift_bind]
  congr
  funext o
  cases o with
  | some u => rfl
  | none =>
    simp only [Task.run_bind, Task.run_attempt, Task.run_findById, call_bind, done_bind]
    congr
    funext r
    rcases r with f | _ | u
    · rfl
    · rfl
    · simp only [Task.require, done_bind, Task.run_pure, Task.run_lift, bind_assoc]

/-- Listing asks the store once, and sorts what it has by id. -/
theorem run_list :
    list.run = .call .findAll fun
      | .error f => .done (.error (.during "list users" f))
      | .ok users => .done (.ok (users.mergeSort fun a b => a.id ≤ b.id)) := by
  simp only [list, Task.run_bind, Task.run_attempt, Task.run_findAll, call_bind, done_bind]
  congr
  funext r
  cases r <;> rfl

/-- Grouping asks the store once, and groups what it has in the order of the ids. -/
theorem run_groupByRole (activeOnly : Bool) :
    (groupByRole activeOnly).run = .call .findAll fun
      | .error f => .done (.error (.during "list users" f))
      | .ok users => .done (groupUsers (users.mergeSort fun a b => a.id ≤ b.id) activeOnly) := by
  simp only [groupByRole, Task.run_bind, run_list, Task.run_ofExcept, call_bind]
  congr
  funext r
  cases r <;> rfl

/-- The user to be stored, given the stored one: it keeps the hash unless it brings its own. -/
def withHashOf (u : User) (old : Option User) : User :=
  match old with
  | some old => { u with passwordHash := old.passwordHash }
  | none => u

/-- Taking the hash over leaves the id as it is. -/
theorem id_withHashOf (u : User) (old : Option User) : (withHashOf u old).id = u.id := by
  cases old <;> rfl

/-- A user that comes without a hash keeps the one stored under its id; one that comes with a hash is not looked up. -/
theorem run_keepHash (u : User) :
    (keepHash u).run =
      if u.passwordHash.isEmpty then .call (.findById u.id) fun
        | .error f => .done (.error (.during "find user" f))
        | .ok old => .done (.ok (withHashOf u old))
      else .done (.ok u) := by
  unfold keepHash
  split
  · simp only [Task.run_bind, Task.run_attempt, Task.run_findById, call_bind, done_bind]
    congr
    funext r
    rcases r with f | _ | old <;> rfl
  · rfl

/-- Stores a user and caches what has been stored: the last part of saving and of deactivating. -/
def store (u : User) : Act (Except Fault User) :=
  .call (.save u) fun
    | .error f => .done (.error (.during "save user" f))
    | .ok v => (remember cached v).bind fun _ => .done (.ok v)

/-- Saving a checked user is one call of the store, after which the user that it answers with is remembered. -/
theorem run_store (u : User) :
    (do
      let v ← Task.attempt "save user" (Task.save u)
      remember cached v
      pure v : Task User).run = store cached u := by
  simp only [store, Task.run_bind, Task.run_attempt, Task.run_save, Task.run_lift, Task.run_pure, call_bind, done_bind]
  congr
  funext r
  cases r with
  | error f => rfl
  | ok v => simp only [done_bind, bind_assoc]

/-- A user is checked, then given its hash, then stored; the first of these that fails ends the operation. -/
theorem run_save (u : User) :
    (save cached u).run = match check u with
      | .error f => .done (.error f)
      | .ok _ => (keepHash u).run.bind fun
        | .error f => .done (.error f)
        | .ok v => store cached v := by
  rw [save, Task.run_bind, Task.run_ofExcept, done_bind]
  cases check u with
  | error f => rfl
  | ok _ =>
    dsimp only
    rw [Task.run_bind]
    congr
    funext r
    cases r with
    | error f => rfl
    | ok v => exact run_store cached v

/-- A user is deleted from the store first, and from the cache only if that succeeded. -/
theorem run_delete (id : UInt64) :
    (delete cached id).run = .call (.delete id) fun
      | .error f => .done (.error f)
      | .ok _ => (forget cached id).bind fun _ => .done (.ok ()) := by
  simp only [delete, Task.run_bind, Task.run_delete, Task.run_lift, call_bind, done_bind]
  congr
  funext r
  cases r <;> rfl

/-- Deactivating looks the user up in the store, never in the cache, and stores it with the flag cleared. -/
theorem run_deactivate (id : UInt64) :
    (deactivate cached id).run = .call (.findById id) fun
      | .error f => .done (.error (.during "find user" f))
      | .ok none => .done (.error (.userAbsent id))
      | .ok (some u) => store cached u.deactivate := by
  rw [deactivate, Task.run_bind, Task.run_attempt, Task.run_findById]
  simp only [call_bind, done_bind]
  congr
  funext r
  rcases r with f | _ | u
  · rfl
  · rfl
  · exact run_store cached u.deactivate

/-- Saving several users saves the first one; the others follow if that succeeded, and a fault names the user it is
about. -/
theorem run_saveAll_cons (u : User) (rest : List User) :
    (saveAll cached (u :: rest)).run = (save cached u).run.bind fun
      | .error f => .done (.error (.during (utf8 "seed user " ++ User.key u.id) f))
      | .ok _ => (saveAll cached rest).run := by
  simp only [saveAll, Task.run_bind, Task.run_attempt, bind_assoc]
  congr
  funext r
  cases r <;> rfl

/-- Seeding saves the users into an empty store, and does nothing where somebody is stored. -/
theorem run_seed (users : List User) :
    (seed cached users).run = .call .findAll fun
      | .error f => .done (.error (.during "list users" f))
      | .ok stored =>
        if stored.isEmpty then (saveAll cached users).run.bind fun
          | .error f => .done (.error f)
          | .ok _ => .done (.ok true)
        else .done (.ok false) := by
  simp only [seed, Task.run_bind, Task.run_attempt, Task.run_findAll, call_bind, done_bind]
  congr
  funext r
  cases r with
  | error f => rfl
  | ok stored =>
    simp only [done_bind]
    split
    · simp only [Task.run_bind, Task.run_pure]
      congr
      funext r
      cases r <;> rfl
    · rfl

end Users

/-! ## Signing in -/

namespace SignIn

variable (s : SignIn)

/-- A password that is too short is refused before any call. Otherwise the user is looked up and saved with the hash of
the password under a fresh salt. -/
theorem run_setPassword (id : UInt64) (password : Text) :
    (s.setPassword id password).run =
      if password.length < Fault.minPasswordLength then .done (.error .passwordShort)
      else .call (.findById id) fun
        | .error f => .done (.error (.during "find user" f))
        | .ok none => .done (.error (.userAbsent id))
        | .ok (some u) => .call .salt fun salt =>
          match s.passwords.hash salt password with
          | .error f => .done (.error (.during "hash password" f))
          | .ok hash => .call (.save { u with passwordHash := hash }) fun
            | .error f => .done (.error (.during "save user" f))
            | .ok _ => (Users.forget s.cached id).bind fun _ => .done (.ok ()) := by
  unfold setPassword
  split
  · rfl
  · simp only [Task.run_bind, Task.run_attempt, Task.run_findById, call_bind, done_bind]
    congr
    funext r
    rcases r with f | _ | u
    · rfl
    · rfl
    · simp only [Task.require, Task.run_pure, done_bind, Task.run_lift, Task.run_ofExcept]
      show Program.call _ _ = _
      congr
      funext salt
      simp only [done_bind]
      cases s.passwords.hash salt password with
      | error f => rfl
      | ok hash =>
        simp only [done_bind, Task.run_save, call_bind]
        congr
        funext r
        cases r <;> rfl

/-- Signing in looks the user up by email. Nobody there and the wrong password get the same answer, and the clock is read
only for a token that is issued. -/
theorem run_login (email password : Text) :
    (s.login email password).run = .call (.findByEmail email) fun
      | .error f => .done (.error (.during "get user" f))
      | .ok none => .done (.error .unauthorized)
      | .ok (some u) =>
        if s.admits u password then .call .now fun now => .done (.ok (Token.issue s.secret now u.role (User.key u.id)))
        else .done (.error .unauthorized) := by
  simp only [login, Task.run_bind, Task.run_attempt, Task.run_findByEmail, call_bind, done_bind]
  congr
  funext r
  rcases r with f | _ | u
  · rfl
  · rfl
  · simp only [done_bind]
    split <;> rfl

/-- Validating a token reads the clock and nothing else. -/
theorem run_validate (token : Text) :
    (s.validate token).run = .call .now fun now =>
      match s.identity? now token with
      | some i => .done (.ok i)
      | none => .done (.error .unauthorized) := by
  simp only [validate, Task.run_lift_bind]
  show Program.call _ _ = _
  refine congrArg _ (funext fun now => ?_)
  simp only [done_bind]
  cases s.identity? now token <;> rfl

/-- Authenticating reads the user of a valid token from the store, and lets active users in only. -/
theorem run_authenticate (token : Text) :
    (s.authenticate token).run = .call .now fun now =>
      match s.identity? now token with
      | none => .done (.error .unauthorized)
      | some i => .call (.findById i.id) fun
        | .error f => .done (.error (.during "find user" f))
        | .ok none => .done (.error .unauthorized)
        | .ok (some u) => if u.active then .done (.ok u) else .done (.error .unauthorized) := by
  simp only [authenticate, Task.run_bind, run_validate, call_bind]
  congr
  funext now
  cases s.identity? now token with
  | none => rfl
  | some i =>
    simp only [done_bind, Task.run_attempt, Task.run_findById, call_bind]
    congr
    funext r
    rcases r with f | _ | u
    · rfl
    · rfl
    · simp only [done_bind]
      split <;> rfl

end SignIn

end Roster
