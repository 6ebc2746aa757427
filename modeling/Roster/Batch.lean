import Roster.Call

/-!
# Fetching many users at once

The users of a batch are fetched side by side. Each fetch fills the slot of its place in the list when
it completes, in whatever order they do; failures leave their slots empty. The batch as a whole fails
when it names no user, when the caller's patience ends before all fetches are done, or when no fetch
succeeded.
-/

namespace Roster.Batch

/-- Where the users of a batch come from. -/
inductive Fetcher where
  /-- The store. -/
  | stored
  /-- A stand-in that knows all even ids, each after a delay. -/
  | simulated (delay : Span)

/-- The user that the stand-in makes up for an id. -/
def simulate (id : UInt64) : Except Fault User :=
  if id % 2 != 0 then .error (.fetchAbsent id)
  else
    .ok { id
          name := utf8 "User " ++ User.key id
          email := utf8 "user" ++ User.key id ++ utf8 "@example.com"
          role := Role.viewer.name }

/-- The stored user with an id. -/
def fetchStored (id : UInt64) : Task User := do
  match ← Task.findById id with
  | some u => pure u
  | none => throw (.fetchAbsent id)

/-- Fetches one user. -/
def fetch (f : Fetcher) (id : UInt64) : Task User :=
  match f with
  | .stored => fetchStored id
  | .simulated delay => do
    ExceptT.mk (Act.ask (.wait delay))
    Task.ofExcept (simulate id)

/-- Notes that a fetch failed. -/
def skipped (id : UInt64) (f : Fault) : Act Unit :=
  Act.log .debug "batch fetch skipped" [("id", .number id.toNat), ("error", .fault f)]

/-- The outcome of one fetch, failures noted. -/
def outcome (id : UInt64) (t : Task User) : Act (Except Fault User) := do
  match ← t.run with
  | .ok u => pure (.ok u)
  | .error f => do
    skipped id f
    pure (.error f)

/-- The outcomes of fetching users, by their places in the list. Simulated fetches all wait at the
same time. -/
def outcomes (f : Fetcher) (ids : List UInt64) : Act (List (Except Fault User)) :=
  match f with
  | .stored => ids.mapM fun id => outcome id (fetchStored id)
  | .simulated delay => do
    let waited ← Act.ask (.wait delay)
    ids.mapM fun id => outcome id (Task.ofExcept (waited.bind fun _ => simulate id))

/-- A slot filled by the outcome of a fetch. -/
def fill (slots : List (Option User)) (completion : Nat × Except Fault User) : List (Option User) :=
  match completion.2 with
  | .ok u => slots.set completion.1 (some u)
  | .error _ => slots

/-- The slots after the fetches have completed in the given order. -/
def settle (n : Nat) (completions : List (Nat × Except Fault User)) : List (Option User) :=
  completions.foldl fill (List.replicate n none)

/-- The users of the filled slots, in order. -/
def gather (slots : List (Option User)) : Except Fault (List User) :=
  match slots.filterMap id with
  | [] => .error .nobodyFound
  | users => .ok users

/-- Each outcome with its place. -/
def placed (outcomes : List (Except Fault User)) : List (Nat × Except Fault User) :=
  outcomes.zipIdx.map fun (o, i) => (i, o)

/-- Fetches all the users of a batch. -/
def run (f : Fetcher) (ids : List UInt64) : Task (List User) := do
  if ids.isEmpty then throw .idsEmpty
  let os ← outcomes f ids
  ExceptT.mk (Act.ask .patience)
  Task.ofExcept (gather (settle ids.length (placed os)))

end Roster.Batch
