import Roster.Http.Server
import Roster.Proofs.Operations

/-!
# What endpoints can change

Which stored records a request can touch can be read off the calls its endpoint makes. Twelve endpoints only read. The four
that are for admins change the record of one id, the one in the path: they look the user up under that id, and a look-up
answers with a user of the id it was asked for.
-/

namespace Roster

open Program

/-- A call that changes no stored record but that of one id. -/
def Call.WritesOnly (id : UInt64) (c : Call) : Prop := ∀ i, c.writes? = some i → i = id

/-- A call that only reads changes no record at all. -/
theorem Call.Reads.writesOnly {c : Call} (h : c.Reads) (id : UInt64) : c.WritesOnly id := by
  intro i hi
  rw [Call.Reads] at h
  rw [h] at hi
  cases hi

/-- A call that leaves the store alone only reads. -/
theorem Call.Idle.reads {c : Call} (h : c.Idle) : c.Reads := by
  cases c <;> first | rfl | cases h

/-- A look-up by id only reads. -/
theorem Call.LooksUp.reads {c : Call} (h : c.LooksUp) : c.Reads := by
  obtain h | ⟨id, rfl⟩ := h
  · exact Idle.reads h
  · rfl

/-! ## The services -/

/-- A program that makes idle calls changes no record. -/
theorem only_writes_of_idle {α : Type} {p : Act α} (h : Only Call.Idle p) (id : UInt64) : Only (Call.WritesOnly id) p :=
  h.mono fun _ hc => (Call.Idle.reads hc).writesOnly id

/-- Storing a user changes the record of its id only. -/
theorem Users.store_writes (cached : Bool) (u : User) : Only (Call.WritesOnly u.id) (store cached u) := by
  refine ⟨fun i hi => (Option.some.inj hi).symm, fun r => ?_⟩
  cases r with
  | error f => trivial
  | ok v => exact (only_writes_of_idle (remember_idle cached v) u.id).bind fun _ => trivial

/-- Saving a user changes the record of its id only. -/
theorem Users.save_writes (cached : Bool) (u : User) : Only (Call.WritesOnly u.id) (save cached u).run := by
  rw [run_save]
  split
  · trivial
  · rw [run_keepHash]
    split
    · refine ⟨nofun, fun r => ?_⟩
      cases r with
      | error f => trivial
      | ok old => exact id_withHashOf u old ▸ store_writes cached (withHashOf u old)
    · exact store_writes cached u

/-- Deleting an id changes its record only. -/
theorem Users.delete_writes (cached : Bool) (id : UInt64) : Only (Call.WritesOnly id) (delete cached id).run := by
  rw [run_delete]
  refine ⟨fun i hi => (Option.some.inj hi).symm, fun r => ?_⟩
  cases r with
  | error f => trivial
  | ok _ => exact (only_writes_of_idle (forget_idle cached id) id).bind fun _ => trivial

/-- Deactivating an id changes its record only, if the store answers a look-up with a user of the id asked for. -/
theorem Users.deactivate_writes (cached : Bool) (id : UInt64) :
    OnlyGiven Call.Truthful (Call.WritesOnly id) (deactivate cached id).run := by
  rw [run_deactivate]
  refine ⟨nofun, fun r hr => ?_⟩
  rcases r with f | _ | u
  · trivial
  · trivial
  · obtain rfl : u.id = id := hr u rfl
    exact (store_writes cached u.deactivate).given

/-- Setting the password of an id changes its record only, if the store answers a look-up with a user of the id asked
for. -/
theorem SignIn.setPassword_writes (s : SignIn) (id : UInt64) (password : Text) :
    OnlyGiven Call.Truthful (Call.WritesOnly id) (s.setPassword id password).run := by
  rw [run_setPassword]
  split
  · trivial
  · refine ⟨nofun, fun r hr => ?_⟩
    rcases r with f | _ | u
    · trivial
    · trivial
    · obtain rfl : u.id = id := hr u rfl
      refine ⟨nofun, fun salt _ => ?_⟩
      dsimp only
      split
      · trivial
      · refine ⟨fun i hi => (Option.some.inj hi).symm, fun r _ => ?_⟩
        cases r with
        | error f => trivial
        | ok _ => exact (only_writes_of_idle (Users.forget_idle s.cached u.id) u.id).given.bind fun _ => trivial

/-- A program whose calls go neither to the store nor to the cache changes no record. -/
theorem reads_of_plain {α : Type} {p : Act α} (h : Only Call.Plain p) : Only Call.Reads p := h.mono fun _ hc => hc.reads

/-- A program run for each item of a list makes the calls it makes for one item. -/
theorem mapM_only {α β : Type} {P : Call → Prop} {f : α → Act β} (h : ∀ a, Only P (f a)) (as : List α) :
    Only P (as.mapM f) := by
  induction as with
  | nil => trivial
  | cons a as ih =>
    rw [List.mapM_cons]
    exact (h a).bind fun _ => ih.bind fun _ => trivial

/-- Two runs over a list go side by side if those for each element do. -/
theorem mapM_parallel {like : (c c' : Call) → (c.Answer → c'.Answer → Prop) → Prop} {α β γ : Type} {f : α → Act β} (φ : β → γ)
    (h : ∀ a, Parallel like (fun b b' => φ b = φ b') (f a) (f a)) (as : List α) :
    Parallel like (fun bs bs' => bs.map φ = bs'.map φ) (as.mapM f) (as.mapM f) := by
  induction as with
  | nil => exact .done rfl
  | cons a as ih =>
    rw [List.mapM_cons]
    refine (h a).bind fun b b' hb => ih.bind fun bs bs' hbs => .done ?_
    rw [List.map_cons, List.map_cons, hb, hbs]

/-- The outcome of an item makes the calls of the task for it, and plain ones. -/
theorem Batch.outcome_only {P : Call → Prop} (hplain : ∀ c, c.Plain → P c) (id : UInt64) {t : Task User}
    (h : Only P t.run) : Only P (outcome id t) := by
  refine h.bind fun r => ?_
  cases r with
  | ok u => trivial
  | error f => exact ⟨hplain _ ⟨rfl, rfl⟩, fun _ => trivial⟩

/-- The outcomes of a batch make plain calls and look users up by id. -/
theorem Batch.outcomes_only {P : Call → Prop} (hplain : ∀ c, c.Plain → P c) (hfind : ∀ id, P (.findById id)) (f : Fetcher)
    (ids : List UInt64) : Only P (outcomes f ids) := by
  cases f with
  | stored =>
    refine mapM_only (fun id => outcome_only hplain id ?_) ids
    refine ⟨hfind id, fun r => ?_⟩
    rcases r with f | _ | u <;> trivial
  | simulated delay =>
    refine ⟨hplain _ ⟨rfl, rfl⟩, fun waited => mapM_only (fun id => ?_) ids⟩
    exact outcome_only hplain id trivial

/-- A batch refuses an empty list. Otherwise it fetches every user, asks whether the caller is still there, and gathers
what it has. -/
theorem Batch.run_run (f : Fetcher) (ids : List UInt64) :
    (run f ids).run =
      if ids.isEmpty then .done (.error .idsEmpty)
      else (outcomes f ids).bind fun os => .call .patience fun
        | .error e => .done (.error e)
        | .ok _ => .done (gather (settle ids.length (placed os))) := by
  unfold run
  split
  · rfl
  · dsimp only
    rw [Task.run_lift_bind]
    congr
    funext os
    show Program.call _ _ = _
    congr
    funext r
    cases r <;> rfl

/-- A batch makes plain calls and looks users up by id. -/
theorem Batch.run_only {P : Call → Prop} (hplain : ∀ c, c.Plain → P c) (hfind : ∀ id, P (.findById id)) (f : Fetcher)
    (ids : List UInt64) : Only P (run f ids).run := by
  rw [run_run]
  split
  · trivial
  · refine (outcomes_only hplain hfind f ids).bind fun os => ⟨hplain _ ⟨rfl, rfl⟩, fun r => ?_⟩
    cases r <;> trivial

/-- Counting makes no calls but pauses and those of the reports. -/
theorem Counter.perform_only {P : Call → Prop} (hpause : ∀ d, P (.pause d)) (delay : Span) {onReport : Report → Act Unit}
    (h : ∀ r, Only P (onReport r)) (schedule : List Nat) (s : State) : Only P (perform delay onReport schedule s) := by
  induction schedule generalizing s with
  | nil => trivial
  | cons w schedule ih =>
    rw [perform]
    dsimp only
    split
    · split
      · exact ⟨hpause delay, fun _ => ih _⟩
      · exact ih _
    · exact (h _).bind fun _ => ih _
    · exact ih _
    · exact ih _

/-- Counting pauses, and makes the calls that its reports make. -/
theorem Counter.count_only {P : Call → Prop} (hpause : ∀ d, P (.pause d)) (workers iterations : Int) (delay : Span)
    {onReport : Report → Act Unit} (h : ∀ r, Only P (onReport r)) : Only P (count workers iterations delay onReport) := by
  refine Only.bind ?_ fun _ => trivial
  unfold finish
  split
  · trivial
  · exact perform_only hpause delay h _ _

/-- Counting with plain reports makes plain calls only. -/
theorem Counter.count_plain (workers iterations : Int) (delay : Span) {onReport : Report → Act Unit}
    (h : ∀ r, Only Call.Plain (onReport r)) : Only Call.Plain (count workers iterations delay onReport) :=
  count_only (fun _ => ⟨rfl, rfl⟩) workers iterations delay h

/-! ## Replies -/

namespace Http

/-- An answer in JSON makes plain calls only. -/
theorem json_plain (status : Nat) (v : Json) : Only Call.Plain (json status v) := by
  refine ⟨⟨rfl, rfl⟩, fun r => ?_⟩
  cases r with
  | ok _ => trivial
  | error f => exact ⟨⟨rfl, rfl⟩, fun _ => trivial⟩

/-- An error in plain text makes plain calls only. -/
theorem plainError_plain (status : Nat) (message : Text) : Only Call.Plain (plainError status message) :=
  ⟨⟨rfl, rfl⟩, fun _ => trivial⟩

/-- A redirection makes plain calls only. -/
theorem redirect_plain (method location : Text) : Only Call.Plain (redirect method location) := by
  unfold redirect
  dsimp only
  split
  · exact ⟨⟨rfl, rfl⟩, fun _ => trivial⟩
  · split <;> trivial

/-- The answer to a path that no route takes makes plain calls only. -/
theorem unrouted_plain (segments : List Text) : Only Call.Plain (unrouted segments) := by
  unfold unrouted
  split
  · exact plainError_plain _ _
  · exact (plainError_plain _ _).bind fun _ => trivial

/-- The answer to a fault makes plain calls only. -/
theorem faultReply_plain (requestId activity : Text) (f : Fault) : Only Call.Plain (faultReply requestId activity f) := by
  unfold faultReply
  split
  · exact json_plain _ _
  · split
    · exact json_plain _ _
    · split
      · exact json_plain _ _
      · split
        · exact json_plain _ _
        · exact ⟨⟨rfl, rfl⟩, fun _ => json_plain _ _⟩

theorem json_reads (status : Nat) (v : Json) : Only Call.Reads (json status v) := reads_of_plain (json_plain status v)

theorem faultReply_reads (requestId activity : Text) (f : Fault) : Only Call.Reads (faultReply requestId activity f) :=
  reads_of_plain (faultReply_plain requestId activity f)

/-- Answering with a fault takes plain calls only. -/
theorem orFault_only {α : Type} {P : Call → Prop} (hplain : ∀ c, c.Plain → P c) (v : Visit) (activity : Text) {t : Task α}
    {next : α → Act Reply} (ht : Only P t.run) (hn : ∀ a, Only P (next a)) : Only P (orFault v activity t next) := by
  refine ht.bind fun r => ?_
  cases r with
  | ok a => exact hn a
  | error f => exact (faultReply_plain _ _ f).mono hplain

/-- A task whose fault is answered with an error only reads, if the task does and what follows it does. -/
theorem orFault_reads {α : Type} (v : Visit) (activity : Text) {t : Task α} {next : α → Act Reply}
    (ht : Only Call.Reads t.run) (hn : ∀ a, Only Call.Reads (next a)) : Only Call.Reads (orFault v activity t next) :=
  orFault_only (fun _ hc => hc.reads) v activity ht hn

/-! ## Endpoints that only read -/

/-- A quiet program only reads. -/
theorem reads_of_quiet {α : Type} {p : Act α} (h : Only Call.Quiet p) : Only Call.Reads p := h.mono fun _ hc => hc.1

section Only

variable {P : Call → Prop} (hplain : ∀ c, c.Plain → P c) (hquiet : ∀ c, c.Quiet → P c)

include hplain hquiet

/-- Signing in over the network makes plain and quiet calls only. -/
theorem login_only (s : Site) (v : Visit) : Only P (login s v) := by
  have hjson : ∀ status x, Only P (json status x) := fun status x => (json_plain status x).mono hplain
  refine ⟨hplain _ ⟨rfl, rfl⟩, fun admitted => ?_⟩
  cases admitted with
  | false => exact hjson _ _
  | true =>
    refine orFault_only hplain v _ trivial fun c => ?_
    refine orFault_only hplain v _ ((s.signIn.login_quiet c.email c.password).mono hquiet) fun token => ?_
    refine orFault_only hplain v _ ((s.signIn.authenticate_quiet token).mono hquiet) fun u => ?_
    exact (hjson _ _).bind fun _ => trivial

/-- The endpoint for users by role makes plain and quiet calls only. -/
theorem usersByRole_only (v : Visit) : Only P (usersByRole v) := by
  unfold usersByRole
  dsimp only
  split
  · exact (json_plain _ _).mono hplain
  · exact orFault_only hplain v _ ((Users.groupByRole_quiet _).mono hquiet) fun _ => (json_plain _ _).mono hplain

omit hquiet in
/-- The endpoint for batches makes plain calls, and looks users up by id. -/
theorem batch_only (hfind : ∀ id, P (.findById id)) (s : Site) (v : Visit) : Only P (batch s v) := by
  refine orFault_only hplain v _ trivial fun b => ?_
  exact orFault_only hplain v _ (Batch.run_only hplain hfind s.fetcher _) fun users => (json_plain _ _).mono hplain

omit hplain in
/-- The groups of the roster are read by quiet calls only. -/
theorem rosterGroups_only : Only P rosterGroups.run := by
  refine ((Users.groupByRole_quiet false).mono hquiet).bind fun r => ?_
  cases r <;> trivial

end Only

/-- The endpoint for one user only reads. -/
theorem getUser_reads (s : Site) (v : Visit) : Only Call.Reads (getUser s v) := by
  refine orFault_reads v _ trivial fun id => ?_
  refine orFault_reads v _ ?_ fun u => json_reads _ _
  exact (Users.get_looksUp s.cached id).mono fun _ hc => hc.reads

/-- The endpoint for the description of a role makes plain calls only. -/
theorem describeRole_plain (v : Visit) : Only Call.Plain (describeRole v) := by
  unfold describeRole
  split <;> exact json_plain _ _

/-- Sending a body piece by piece makes plain calls only. -/
theorem writeAll_plain (pieces : List Text) : Only Call.Plain (writeAll pieces) := by
  induction pieces with
  | nil => trivial
  | cons piece rest ih =>
    refine ⟨⟨rfl, rfl⟩, fun r => ?_⟩
    cases r with
    | ok _ => exact ih
    | error f => trivial

/-- What the page's endpoint does once the users are grouped or could not be. -/
def showPage (viewer : Text) : Except Fault Groups → Act Reply
  | .error f => rosterFailure "group users for roster" f
  | .ok g => do
    match ← writeAll (Page.pieces viewer g) with
    | .ok _ => pure ()
    | .error f => Act.log .error "render roster" [("error", .fault f)]
    pure { status := 200, headers := [⟨"Content-Type", "text/html; charset=utf-8"⟩] }

/-- The page of the roster reads the groups, and shows them to the viewer by name. -/
theorem rosterPage_eq (v : Visit) : rosterPage v = rosterGroups.run.bind (showPage ((v.user.map User.name).getD [])) := rfl

/-- Showing the page makes plain calls only. -/
theorem showPage_plain (viewer : Text) (r : Except Fault Groups) : Only Call.Plain (showPage viewer r) := by
  cases r with
  | error f => exact ⟨⟨rfl, rfl⟩, fun _ => plainError_plain _ _⟩
  | ok g =>
    refine (writeAll_plain _).bind fun r => ?_
    cases r with
    | ok _ => trivial
    | error f => exact ⟨⟨rfl, rfl⟩, fun _ => trivial⟩

/-- Sending an event makes plain calls only. -/
theorem event_plain (name : Text) (lines : List Text) : Only Call.Plain (event name lines) := by
  refine ⟨⟨rfl, rfl⟩, fun r => ?_⟩
  cases r with
  | error f => trivial
  | ok _ =>
    refine ⟨⟨rfl, rfl⟩, fun r => ?_⟩
    cases r <;> trivial

theorem patchElements_plain (html : Text) : Only Call.Plain (patchElements html) :=
  (event_plain _ _).bind fun _ => trivial

theorem patchCount_plain (count workers : Nat) : Only Call.Plain (patchCount count workers) :=
  (event_plain _ _).bind fun _ => trivial

/-- Noting that something could not be sent makes plain calls only. -/
theorem noteUnsent_plain (activity : Text) (r : Except Fault Unit) : Only Call.Plain (noteUnsent activity r) := by
  cases r with
  | ok _ => trivial
  | error f => exact ⟨⟨rfl, rfl⟩, fun _ => trivial⟩

/-- What the stream's endpoint does once the users are grouped or could not be. -/
def showStream (job : Nat × Nat) (delay : Span) : Except Fault Groups → Act Reply
  | .error f => rosterFailure "group users for stream" f
  | .ok g => do
    match ← patchElements (Page.sections g) with
    | .error f => Act.log .error "patch roster" [("error", .fault f)]
    | .ok _ => do
      let count ← Counter.count job.1 job.2 delay fun r => do
        noteUnsent "patch counter progress" (← patchCount r.total r.finished)
      noteUnsent "patch counter result" (← patchCount count job.1)
    pure { status := 200
           headers := [⟨"Cache-Control", "no-cache"⟩, ⟨"Connection", "keep-alive"⟩,
             ⟨"Content-Type", "text/event-stream"⟩] }

/-- The stream of the roster reads the groups, and shows them with the job that the query asks for. -/
theorem rosterStream_eq (s : Site) (v : Visit) :
    rosterStream s v = rosterGroups.run.bind (showStream (streamJob v.request.target) s.counterDelay) := rfl

/-- Showing the stream makes plain calls only: the groups have been read before. -/
theorem showStream_plain (job : Nat × Nat) (delay : Span) (r : Except Fault Groups) :
    Only Call.Plain (showStream job delay r) := by
  cases r with
  | error f => exact ⟨⟨rfl, rfl⟩, fun _ => plainError_plain _ _⟩
  | ok g =>
    refine (patchElements_plain _).bind fun r => ?_
    cases r with
    | error f => exact ⟨⟨rfl, rfl⟩, fun _ => trivial⟩
    | ok _ =>
      refine (Counter.count_plain _ _ _ fun r => ?_).bind fun count => ?_
      · exact (patchCount_plain _ _).bind fun sent => noteUnsent_plain _ sent
      · exact (patchCount_plain _ _).bind fun sent => (noteUnsent_plain _ sent).bind fun _ => trivial

/-- The endpoint for counting makes plain calls only. -/
theorem counter_plain (s : Site) (v : Visit) : Only Call.Plain (counter s v) := by
  refine orFault_only (fun _ hc => hc) v _ trivial fun b => ?_
  split
  · exact json_plain _ _
  · have hcount : Only Call.Plain (Counter.count b.workers b.iterations s.counterDelay fun _ => pure ()) :=
      Counter.count_plain _ _ _ fun _ => trivial
    exact ⟨⟨rfl, rfl⟩, fun start => hcount.bind fun count => ⟨⟨rfl, rfl⟩, fun _ => json_plain _ _⟩⟩

/-- An endpoint that is neither for admins nor for a single user asks the store for nothing but users, and the cache for
nothing. -/
theorem serve_only {P : Call → Prop} (hplain : ∀ c, c.Plain → P c) (hquiet : ∀ c, c.Quiet → P c) (s : Site) (v : Visit)
    {e : Endpoint} (he : e.audience ≠ .admins) (hget : e ≠ .getUser) : Only P (e.serve s v) := by
  cases e with
  | health => exact (json_plain _ _).mono hplain
  | login => exact login_only hplain hquiet s v
  | logout => trivial
  | me => exact (json_plain _ _).mono hplain
  | listUsers => exact orFault_only hplain v _ (Users.list_quiet.mono hquiet) fun _ => (json_plain _ _).mono hplain
  | usersByRole => exact usersByRole_only hplain hquiet v
  | batch => exact batch_only hplain (fun _ => hquiet _ ⟨rfl, rfl⟩) s v
  | getUser => exact absurd rfl hget
  | describeRole => exact (describeRole_plain v).mono hplain
  | counter => exact (counter_plain s v).mono hplain
  | rosterPage =>
    show Only P (rosterPage v)
    rw [rosterPage_eq]
    exact (rosterGroups_only hquiet).bind fun r => (showPage_plain _ r).mono hplain
  | rosterStream =>
    show Only P (rosterStream s v)
    rw [rosterStream_eq]
    exact (rosterGroups_only hquiet).bind fun r => (showStream_plain _ _ r).mono hplain
  | putUser | deleteUser | deactivateUser | setPassword => exact absurd rfl he

/-- An endpoint that is not for admins only reads. -/
theorem serve_reads (s : Site) (v : Visit) {e : Endpoint} (he : e.audience ≠ .admins) : Only Call.Reads (e.serve s v) := by
  by_cases hget : e = .getUser
  · rw [hget]
    exact getUser_reads s v
  · exact serve_only (fun _ hc => hc.reads) (fun _ hc => hc.1) s v he hget

/-! ## Endpoints that change a record -/

/-- A task whose fault is answered with an error changes the record of one id only, if the task and what follows it do. -/
theorem orFault_writes {α : Type} {id : UInt64} (v : Visit) (activity : Text) {t : Task α} {next : α → Act Reply}
    (ht : OnlyGiven Call.Truthful (Call.WritesOnly id) t.run)
    (hn : ∀ a, OnlyGiven Call.Truthful (Call.WritesOnly id) (next a)) :
    OnlyGiven Call.Truthful (Call.WritesOnly id) (orFault v activity t next) := by
  refine ht.bind fun r => ?_
  cases r with
  | ok a => exact hn a
  | error f => exact ((faultReply_reads _ _ f).mono fun _ hc => hc.writesOnly id).given

/-- An endpoint with an id in its path goes on with that id. -/
theorem withId_eq {v : Visit} {id : UInt64} (h : pathId v.segment = .ok id) (next : UInt64 → Act Reply) :
    withId v next = next id := by
  unfold withId orFault
  rw [h]
  rfl

/-- Where the path names an id, an endpoint changes no record but that of the id. -/
theorem serve_writes (s : Site) (v : Visit) (e : Endpoint) {id : UInt64} (hid : pathId v.segment = .ok id) :
    OnlyGiven Call.Truthful (Call.WritesOnly id) (e.serve s v) := by
  have hjson : ∀ status x, OnlyGiven Call.Truthful (Call.WritesOnly id) (json status x) := fun status x =>
    ((json_reads status x).mono fun _ hc => hc.writesOnly id).given
  cases e with
  | putUser =>
    show OnlyGiven _ _ (putUser s v)
    rw [putUser, withId_eq hid]
    refine orFault_writes v _ trivial fun b => ?_
    refine orFault_writes v _ trivial fun role => ?_
    refine orFault_writes v _ ?_ fun _ => hjson _ _
    exact (Users.save_writes s.cached { id, name := b.name, email := b.email, role := role.name, active := _ }).given
  | deleteUser =>
    show OnlyGiven _ _ (deleteUser s v)
    rw [deleteUser, withId_eq hid]
    exact orFault_writes v _ (Users.delete_writes s.cached id).given fun _ => trivial
  | deactivateUser =>
    show OnlyGiven _ _ (deactivateUser s v)
    rw [deactivateUser, withId_eq hid]
    exact orFault_writes v _ (Users.deactivate_writes s.cached id) fun _ => hjson _ _
  | setPassword =>
    show OnlyGiven _ _ (setPassword s v)
    rw [setPassword, withId_eq hid]
    refine orFault_writes v _ trivial fun b => ?_
    exact orFault_writes v _ (s.signIn.setPassword_writes id b.password) fun _ => trivial
  | _ => exact ((serve_reads s v (by decide)).mono fun _ hc => hc.writesOnly id).given

/-- Where the path names no id, an endpoint only reads. -/
theorem serve_reads_of_fault (s : Site) (v : Visit) (e : Endpoint) {f : Fault} (hid : pathId v.segment = .error f) :
    Only Call.Reads (e.serve s v) := by
  have hpath : ∀ next, Only Call.Reads (withId v next) := by
    intro next
    unfold withId orFault
    rw [hid]
    exact faultReply_reads _ _ f
  by_cases he : e.audience = .admins
  · cases e with
    | putUser | deleteUser | deactivateUser | setPassword => exact hpath _
    | _ => cases he
  · exact serve_reads s v he

end Http
end Roster
