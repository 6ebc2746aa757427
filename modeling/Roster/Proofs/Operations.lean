import Roster.Proofs.Services
import Roster.Proofs.Worlds

/-!
# Operations and the states they reach

The operations of the two services as one type, each with its task, and the states that a world goes through while
operations are carried out one after the other. The world may be unreliable: a call may fail without effect, and between
two calls time passes and entries may vanish from the cache.
-/

namespace Roster

open Program

/-- An operation of the services, with its arguments. -/
inductive Operation where
  | get (id : UInt64)
  | list
  | save (user : User)
  | delete (id : UInt64)
  | deactivate (id : UInt64)
  | groupByRole (activeOnly : Bool)
  | seed (users : List User)
  | setPassword (id : UInt64) (password : Text)
  | login (email password : Text)
  | validate (token : Text)
  | authenticate (token : Text)

/-- What an operation answers with when it succeeds. -/
inductive Outcome where
  | user (u : User)
  | users (us : List User)
  | groups (g : Groups)
  | flag (b : Bool)
  | token (t : Text)
  | identity (i : SignIn.Identity)
  | done

namespace Operation

/-- The task of an operation; the flag says whether look-ups of single users go through the cache. -/
def task (s : SignIn) (cached : Bool) : Operation → Task Outcome
  | .get id => Outcome.user <$> Users.get cached id
  | .list => Outcome.users <$> Users.list
  | .save u => Outcome.user <$> Users.save cached u
  | .delete id => (fun _ => Outcome.done) <$> Users.delete cached id
  | .deactivate id => Outcome.user <$> Users.deactivate cached id
  | .groupByRole activeOnly => Outcome.groups <$> Users.groupByRole activeOnly
  | .seed users => Outcome.flag <$> Users.seed cached users
  | .setPassword id password => (fun _ => Outcome.done) <$> s.setPassword id password
  | .login email password => Outcome.token <$> s.login email password
  | .validate token => Outcome.identity <$> s.validate token
  | .authenticate token => Outcome.user <$> s.authenticate token

end Operation

/-- Naming the value of a task changes neither its calls nor its faults. -/
theorem Task.run_map {α β : Type} (g : α → β) (t : Task α) : (g <$> t).run = t.run.bind fun r => .done (r.map g) := by
  show t.run.bind _ = _
  congr
  funext r
  cases r <;> rfl

/-! ## Operations that only read -/

/-- Listing changes neither store nor cache nor log. -/
theorem Users.list_quiet : Only Call.Quiet list.run := by
  rw [run_list]
  refine ⟨⟨rfl, rfl⟩, fun r => ?_⟩
  cases r <;> trivial

/-- Grouping changes neither store nor cache nor log. -/
theorem Users.groupByRole_quiet (activeOnly : Bool) : Only Call.Quiet (groupByRole activeOnly).run := by
  rw [run_groupByRole]
  refine ⟨⟨rfl, rfl⟩, fun r => ?_⟩
  cases r <;> trivial

/-- Looking for the hash to keep changes neither store nor cache nor log. -/
theorem Users.keepHash_quiet (u : User) : Only Call.Quiet (keepHash u).run := by
  rw [run_keepHash]
  split
  · refine ⟨⟨rfl, rfl⟩, fun r => ?_⟩
    cases r <;> trivial
  · trivial

/-- Signing in changes neither store nor cache nor log. -/
theorem SignIn.login_quiet (s : SignIn) (email password : Text) : Only Call.Quiet (s.login email password).run := by
  rw [run_login]
  refine ⟨⟨rfl, rfl⟩, fun r => ?_⟩
  rcases r with f | _ | u
  · trivial
  · trivial
  · dsimp only
    split
    · exact ⟨⟨rfl, rfl⟩, fun _ => trivial⟩
    · trivial

/-- Validating a token changes neither store nor cache nor log. -/
theorem SignIn.validate_quiet (s : SignIn) (token : Text) : Only Call.Quiet (s.validate token).run := by
  rw [run_validate]
  refine ⟨⟨rfl, rfl⟩, fun now => ?_⟩
  dsimp only
  split <;> trivial

/-- Authenticating changes neither store nor cache nor log. -/
theorem SignIn.authenticate_quiet (s : SignIn) (token : Text) : Only Call.Quiet (s.authenticate token).run := by
  rw [run_authenticate]
  refine ⟨⟨rfl, rfl⟩, fun now => ?_⟩
  dsimp only
  split
  · trivial
  · refine ⟨⟨rfl, rfl⟩, fun r => ?_⟩
    rcases r with f | _ | u
    · trivial
    · trivial
    · dsimp only
      split <;> trivial

/-- A look-up calls the cache, the log, and the store for the one user. -/
def Call.LooksUp (c : Call) : Prop := c.Idle ∨ ∃ id, c = .findById id

/-- Looking a user up in the cache leaves the store alone. -/
theorem Users.lookUp_idle (cached : Bool) (id : UInt64) : Only Call.Idle (lookUp cached id) := by
  cases cached with
  | false => trivial
  | true =>
    refine ⟨rfl, fun r => ?_⟩
    cases r with
    | ok _ => trivial
    | error f => exact ⟨rfl, fun _ => trivial⟩

/-- Remembering a user leaves the store alone. -/
theorem Users.remember_idle (cached : Bool) (u : User) : Only Call.Idle (remember cached u) := by
  cases cached with
  | false => trivial
  | true =>
    refine ⟨rfl, fun r => ?_⟩
    cases r with
    | ok _ => trivial
    | error f => exact ⟨rfl, fun _ => trivial⟩

/-- Forgetting a user leaves the store alone. -/
theorem Users.forget_idle (cached : Bool) (id : UInt64) : Only Call.Idle (forget cached id) := by
  cases cached with
  | false => trivial
  | true =>
    refine ⟨rfl, fun r => ?_⟩
    cases r with
    | ok _ => trivial
    | error f => exact ⟨rfl, fun _ => trivial⟩

/-- Getting a user asks the store for users by id at most. -/
theorem Users.get_looksUp (cached : Bool) (id : UInt64) : Only Call.LooksUp (get cached id).run := by
  rw [run_get]
  refine ((lookUp_idle cached id).mono fun _ => Or.inl).bind fun o => ?_
  cases o with
  | some u => trivial
  | none =>
    refine ⟨Or.inr ⟨id, rfl⟩, fun r => ?_⟩
    rcases r with f | _ | u
    · trivial
    · trivial
    · exact ((remember_idle cached u).mono fun _ => Or.inl).bind fun _ => trivial

/-! ## An unreliable world -/

/-- The answer to a call that fails with a fault, for the calls of stores and caches. -/
def Call.failed (f : Fault) : (c : Call) → Option c.Answer
  | .findById _ | .findByEmail _ | .save _ | .delete _ | .findAll => some (.error f)
  | .cacheGet _ | .cacheSet _ _ | .cacheRemove _ => some (.error f)
  | .log _ | .now | .salt | .requestId | .wait _ | .pause _ | .patience | .mayTry _ | .write _ => none

/-- What is left of a cache after entries may have vanished. -/
def Caching.Within : Caching → Caching → Prop
  | .inProcess c', .inProcess c => ∀ key u, c'.get? key = some u → c.get? key = some u
  | k', k => k' = k

namespace World

/-- What may happen to a world between two calls: entries vanish from the cache, and everything may change but the store and
what has been made to fail. -/
structure Drifts (w v : World) : Prop where
  storage : v.storage = w.storage
  failing : v.failing = w.failing
  caching : v.caching.Within w.caching

/-- A call may be answered, after a drift, as the world answers it, or may fail without effect if it is one of the weak. -/
def May (weak : Call → Prop) (c : Call) (w : World) (x : c.Answer) (t : World) : Prop :=
  ∃ v, w.Drifts v ∧ (answer c v = (x, t) ∨ weak c ∧ t = v ∧ ∃ f, c.failed f = some x)

/-- The states that operations can lead to, one after the other, from an empty store in memory and an empty cache that both
services use. -/
inductive Reachable (weak : Call → Prop) (s : SignIn) : World → Prop where
  | start {w : World} : w.storage = .memory {} → w.caching = .inProcess {} → w.failing = [] → Reachable weak s w
  | drift {w v : World} : Reachable weak s w → w.Drifts v → Reachable weak s v
  | operation {w v : World} {r : Except Fault Outcome} (o : Operation) : Reachable weak s w →
      Runs (May weak) (o.task { s with cached := true } true).run w r v → Reachable weak s v

/-- Time may also stand still, with no entry lost. -/
theorem Drifts.refl (w : World) : w.Drifts w := by
  refine ⟨rfl, rfl, ?_⟩
  cases w.caching with
  | inProcess c => exact fun _ _ h => h
  | _ => rfl

/-- Without any failure and any drift, an operation is carried out as the world runs it. -/
theorem Reachable.run {weak : Call → Prop} {s : SignIn} {w : World} (h : Reachable weak s w) (o : Operation) :
    Reachable weak s (w.attempt (o.task { s with cached := true } true)).2 :=
  .operation o h (runs_run (fun _ v => ⟨v, .refl v, .inl rfl⟩) _ w)

end World

end Roster
