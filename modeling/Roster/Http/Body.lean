import Roster.Fault
import Roster.Json.Decode
import Roster.Email

/-!
# Request bodies

The records that requests carry as JSON, and the rules for their fields. Of each field the first broken
rule is reported, and all fields that break one are.
-/

namespace Roster.Http

/-- A kind of body: how it is read and which rules its fields have to meet. -/
structure Body (σ : Type) where
  blank : σ
  fields : List (Json.Field σ)
  /-- Names of fields with their rules: the name of a rule and whether it is met. -/
  rules : σ → List (Text × List (Text × Bool))

/-- The first broken rule of each field. -/
def brokenRules (rules : List (Text × List (Text × Bool))) : List (Text × Text) :=
  rules.filterMap fun (field, checks) =>
    (checks.find? fun (_, met) => !met).map fun (rule, _) => (field, rule)

/-- Reads a body. Only its first JSON value counts. -/
def Body.read {σ : Type} (b : Body σ) (t : Text) : Except Fault σ :=
  match Json.decodeFirst (Json.readRecord "object" "object" b.fields) b.blank t with
  | .error _ => .error .bodyMalformed
  | .ok s =>
    match brokenRules (b.rules s) with
    | [] => .ok s
    | broken => .error (.fieldsInvalid broken)

/-- A rule that a text is not empty. -/
def required (t : Text) : Text × Bool := ("required", !t.isEmpty)

/-- A rule that a text has at most `n` characters. -/
def atMost (n : Nat) (t : Text) : Text × Bool := ("max", t.count ≤ n)

/-- The body that saves a user. -/
structure SaveUser where
  name : Text := []
  email : Text := []
  role : Text := []
  active : Option Bool := none

def SaveUser.body : Body SaveUser where
  blank := {}
  fields :=
    [.of "name" SaveUser.name (fun s x => { s with name := x }) Json.readText,
     .of "email" SaveUser.email (fun s x => { s with email := x }) Json.readText,
     .of "role" SaveUser.role (fun s x => { s with role := x }) Json.readText,
     .of "active" SaveUser.active (fun s x => { s with active := x }) Json.readBool?]
  rules s :=
    [("name", [required s.name, atMost 100 s.name]),
     ("email", [required s.email, ("email", Email.isAddress s.email), atMost 254 s.email]),
     ("role", [required s.role, ("oneof", (Role.parse? s.role).isSome)])]

/-- The body that sets a password. -/
structure NewPassword where
  password : Text := []

def NewPassword.body : Body NewPassword where
  blank := {}
  fields := [.of "password" NewPassword.password (fun s x => { s with password := x }) Json.readText]
  rules s := [("password", [required s.password, atMost 72 s.password])]

/-- The body of a sign-in. -/
structure Credentials where
  email : Text := []
  password : Text := []

def Credentials.body : Body Credentials where
  blank := {}
  fields :=
    [.of "email" Credentials.email (fun s x => { s with email := x }) Json.readText,
     .of "password" Credentials.password (fun s x => { s with password := x }) Json.readText]
  rules s := [("email", [required s.email]), ("password", [required s.password])]

/-- The body that names the users of a batch. -/
structure BatchIds where
  ids : Option (List UInt64) := none

def BatchIds.body : Body BatchIds where
  blank := {}
  fields :=
    [.of "ids" BatchIds.ids (fun s x => { s with ids := x }) (Json.readList? "list" 0 Json.readUInt64)]
  rules s := [("ids", [("max", (s.ids.getD []).length ≤ 100)])]

/-- The body that starts a count. -/
structure CountJob where
  workers : Int := 0
  iterations : Int := 0

/-- The rules that a number lies between bounds. -/
def between (low high n : Int) : List (Text × Bool) := [("min", low ≤ n), ("max", n ≤ high)]

/-- The greatest number of workers of one count. -/
def maxWorkers : Nat := 16

/-- The greatest number of iterations of one worker. -/
def maxIterations : Nat := 1000

/-- The greatest number of increments of one count. -/
def maxIncrements : Nat := 4000

def CountJob.body : Body CountJob where
  blank := {}
  fields :=
    [.of "workers" CountJob.workers (fun s x => { s with workers := x }) Json.readInt64,
     .of "iterations" CountJob.iterations (fun s x => { s with iterations := x }) Json.readInt64]
  rules s :=
    [("workers", between 1 maxWorkers s.workers), ("iterations", between 1 maxIterations s.iterations)]

end Roster.Http
