import Roster.Proofs.CounterSchedules
import Roster.Proofs.RemoteCache
import Roster.Proofs.RosterPage

/-!
# The stream and the endpoint for counts run the same jobs

A count has a number of workers and of iterations. The endpoint for counts takes both from the body of a request and refuses
what is beyond the limits; the stream takes them from a query, in which anything may stand, and brings them within the limits.
So the stream runs allowed jobs only (`streamJob_allowed`), and it runs a job that is allowed as it is asked for
(`streamJob_of_params`).

Both tell the product of the two numbers in the end: the stream to a client that stays until the last event (`run_tellCount`),
the endpoint in its only answer (`run_counter`).
-/

namespace Roster

open Program

/-! ## Numbers in queries -/

namespace Text

/-- A number that is written has no sign. -/
theorem takeSign_decimal (n : Nat) : Numeral.takeSign (decimal n) = (false, decimal n) := by
  obtain ⟨b, t, hn, hb, -⟩ := decimal_cons n
  have hminus : b ≠ byte '-' := by
    rintro rfl
    exact absurd hb (by decide)
  have hplus : b ≠ byte '+' := by
    rintro rfl
    exact absurd hb (by decide)
  rw [hn, Numeral.takeSign, if_neg (by simpa using hminus), if_neg (by simpa using hplus)]

/-- A number that is below half of the machine words is read back from its decimal text, as an integer too. -/
theorem integer_decimal {n : Nat} (h : n < Word.half) : Numeral.integer (decimal n) = .ok (n : Int) := by
  have hcount : n < Word.count := Nat.lt_trans h (by decide)
  have hnatural : Numeral.naturalIn 10 (decimal n) = .ok n := natural_decimal hcount
  rw [Numeral.integer, Numeral.integerIn, Numeral.withSign, takeSign_decimal]
  dsimp only
  rw [hnatural]
  dsimp only
  rw [Numeral.signed, if_neg Bool.false_ne_true, if_pos h]

/-- A number that is written has digits only. -/
theorem notMem_decimal {b : UInt8} (h : isDigit b = false) (n : Nat) : b ∉ decimal n := by
  intro hmem
  rw [List.all_eq_true.mp (all_isDigit_decimal n) b hmem] at h
  cases h

end Text

namespace Http

/-- What is decoded in a query is bytes after a percent sign and plus signs. -/
theorem decodeQuery_of_plain {t : Text} (hpercent : Text.byte '%' ∉ t) (hplus : Text.byte '+' ∉ t) : decodeQuery t = some t := by
  unfold decodeQuery
  induction t with
  | nil => rfl
  | cons b t ih =>
    obtain ⟨hb, ht⟩ := not_or.mp (mt List.mem_cons.mpr hpercent)
    obtain ⟨hb', ht'⟩ := not_or.mp (mt List.mem_cons.mpr hplus)
    have hkept : (if b == Text.byte '+' then (32 : UInt8) else b) = b := if_neg (by simpa using Ne.symm hb')
    rw [percentDecode.eq_def]
    dsimp only
    rw [if_neg (by simpa using Ne.symm hb), ih ht ht', Option.map_some, hkept]

/-- The query that asks for a job. -/
def jobQuery (workers iterations : Nat) : Text :=
  utf8 "workers=" ++ Text.decimal workers ++ utf8 "&iterations=" ++ Text.decimal iterations

/-- A query that asks for a job has the two numbers as its pairs. -/
theorem pairs_jobQuery {t : Target} {workers iterations : Nat} (h : t.query = jobQuery workers iterations) :
    t.pairs = [(utf8 "workers", Text.decimal workers), (utf8 "iterations", Text.decimal iterations)] := by
  have hand : ∀ n, Text.byte '&' ∉ Text.decimal n := Text.notMem_decimal (by decide)
  have hsplit : Text.split (Text.byte '&') t.query =
      [utf8 "workers" ++ Text.byte '=' :: Text.decimal workers,
        utf8 "iterations" ++ Text.byte '=' :: Text.decimal iterations] := by
    have hquery : t.query = (utf8 "workers" ++ Text.byte '=' :: Text.decimal workers) ++
        Text.byte '&' :: (utf8 "iterations" ++ Text.byte '=' :: Text.decimal iterations) := by
      rw [h, jobQuery]
      simp only [List.append_assoc]
      rfl
    rw [hquery, Text.split_append, Text.split_of_notMem]
    · simp only [List.mem_append, List.mem_cons, hand]
      decide
    · simp only [List.mem_append, List.mem_cons, hand]
      decide
  have hpair : ∀ (key : Text) (n : Nat), Text.byte ';' ∉ key →
      ¬((key ++ Text.byte '=' :: Text.decimal n).isEmpty ||
        (key ++ Text.byte '=' :: Text.decimal n).contains (Text.byte ';')) = true := by
    intro key n hkey
    have hdecimal : Text.byte ';' ∉ Text.decimal n := Text.notMem_decimal (by decide) n
    have hother : Text.byte ';' ≠ Text.byte '=' := by decide
    simp [hkey, hdecimal, hother]
  have hnumber : ∀ n, decodeQuery (Text.decimal n) = some (Text.decimal n) := fun n =>
    decodeQuery_of_plain (Text.notMem_decimal (by decide) n) (Text.notMem_decimal (by decide) n)
  have hworkers : decodeQuery (utf8 "workers") = some (utf8 "workers") := decodeQuery_of_plain (by decide) (by decide)
  have hiterations : decodeQuery (utf8 "iterations") = some (utf8 "iterations") :=
    decodeQuery_of_plain (by decide) (by decide)
  have hfew : ¬(Text.split (Text.byte '&') t.query).length > maxPairs := by
    rw [hsplit]
    exact (by decide : ¬2 > maxPairs)
  rw [Target.pairs, if_neg hfew, hsplit]
  simp only [List.filterMap_cons, List.filterMap_nil]
  rw [if_neg (hpair _ workers (by decide)), if_neg (hpair _ iterations (by decide)),
    Text.cut?_append (by decide), Text.cut?_append (by decide)]
  simp only [Option.getD_some, hworkers, hiterations, hnumber]
  rfl

/-! ## Jobs -/

/-- The jobs within the limits. -/
structure Allowed (workers iterations : Nat) : Prop where
  someWorkers : 1 ≤ workers
  fewWorkers : workers ≤ 16
  someIterations : 1 ≤ iterations
  fewIterations : iterations ≤ 1000
  fewIncrements : workers * iterations ≤ 4000

/-- A number in a query is brought within its limits. -/
theorem queryCount_bounds {default limit : Nat} (hdefault : 1 ≤ default) (hlimit : default ≤ limit) (t : Target) (key : Text) :
    1 ≤ queryCount t key default limit ∧ queryCount t key default limit ≤ limit := by
  unfold queryCount
  split
  · split
    · exact ⟨hdefault, hlimit⟩
    · exact ⟨by omega, Nat.min_le_right _ _⟩
  · exact ⟨hdefault, hlimit⟩

/-- Whatever a query says, the job is within the limits. There is a worker at least, so the greatest number of increments can
be divided among them, and there are few enough of them that each gets one. -/
theorem streamJob_allowed (t : Target) : Allowed (streamJob t).1 (streamJob t).2 := by
  obtain ⟨hworkers, hworkers'⟩ := queryCount_bounds (by decide : 1 ≤ 4) (by decide : 4 ≤ maxWorkers) t "workers"
  obtain ⟨hiterations, hiterations'⟩ :=
    queryCount_bounds (by decide : 1 ≤ 100) (by decide : 100 ≤ maxIterations) t "iterations"
  rw [streamJob]
  generalize queryCount t "workers" 4 maxWorkers = workers at *
  generalize queryCount t "iterations" 100 maxIterations = iterations at *
  have hshare : 1 ≤ maxIncrements / workers :=
    (Nat.le_div_iff_mul_le hworkers).mpr (Nat.le_trans (Nat.mul_le_mul_left 1 hworkers') (by decide))
  refine ⟨hworkers, hworkers', Nat.le_min.mpr ⟨hiterations, hshare⟩, Nat.le_trans (Nat.min_le_left _ _) hiterations', ?_⟩
  calc workers * min iterations (maxIncrements / workers)
      ≤ workers * (maxIncrements / workers) := Nat.mul_le_mul_left workers (Nat.min_le_right _ _)
    _ ≤ maxIncrements := Nat.mul_div_le maxIncrements workers

/-- A number within its limits is taken as it is. -/
theorem queryCount_of_param {t : Target} {key : Text} {n limit : Nat} (h : t.param key = Text.decimal n) (hn : 1 ≤ n)
    (hlimit : n ≤ limit) (hword : n < Word.half) (default : Nat) : queryCount t key default limit = n := by
  rw [queryCount, h, Text.integer_decimal hword]
  dsimp only
  rw [if_neg (by omega), Int.toNat_natCast, Nat.min_eq_left hlimit]

/-- A job within the limits is run as it is asked for. -/
theorem streamJob_of_params {t : Target} {workers iterations : Nat} (h : Allowed workers iterations)
    (hworkers : t.param "workers" = Text.decimal workers) (hiterations : t.param "iterations" = Text.decimal iterations) :
    streamJob t = (workers, iterations) := by
  obtain ⟨hsome, hfew, hsome', hfew', hproduct⟩ := h
  have hshare : iterations ≤ maxIncrements / workers := by
    rw [Nat.le_div_iff_mul_le hsome, Nat.mul_comm]
    exact hproduct
  have hfew : workers ≤ maxWorkers := hfew
  have hfew' : iterations ≤ maxIterations := hfew'
  rw [streamJob, queryCount_of_param hworkers hsome hfew (Nat.lt_of_le_of_lt hfew (by decide)),
    queryCount_of_param hiterations hsome' hfew' (Nat.lt_of_le_of_lt hfew' (by decide)), Nat.min_eq_left hshare]

/-- A query that asks for an allowed job gets it. -/
theorem streamJob_of_jobQuery {t : Target} {workers iterations : Nat} (h : Allowed workers iterations)
    (hquery : t.query = jobQuery workers iterations) : streamJob t = (workers, iterations) := by
  have hpairs := pairs_jobQuery hquery
  refine streamJob_of_params h ?_ ?_
  · rw [Target.param, hpairs, List.lookup_cons_self, Option.getD_some]
  · have hother : (utf8 "iterations" == utf8 "workers") = false := by decide
    rw [Target.param, hpairs, List.lookup_cons, hother, List.lookup_cons_self]
    rfl

end Http

/-! ## What a count does -/

namespace Counter

variable {workers iterations : Nat} {schedule : List Nat}

/-- The progress of a job as it is told: the total and how many workers have finished. They finish one after the other, no
total is beyond the product, and in the end the product is told. -/
structure Progress (workers iterations : Nat) (told : List (Nat × Nat)) : Prop where
  finished : told.map Prod.snd = List.range' 1 workers ++ [workers]
  bounded : ∀ c ∈ told, c.1 ≤ workers * iterations
  last : told.getLast? = some (workers * iterations, workers)

/-- What is told about a schedule: its reports, and in the end the count. -/
def told (workers iterations : Nat) (schedule : List Nat) : List (Nat × Nat) :=
  (passedOn schedule (start workers iterations)).map (fun r => (r.total, r.finished)) ++
    [((run (start workers iterations) schedule).count, workers)]

/-- What is told about a finished schedule is progress to the product. -/
theorem progress_told (h : (run (start workers iterations) schedule).Finished) :
    Progress workers iterations (told workers iterations schedule) := by
  have hcount := (reached_run workers iterations schedule).count_of_finished h
  rw [told, hcount]
  refine ⟨?_, ?_, List.getLast?_concat⟩
  · have hnumbers := finished_passedOn schedule (start workers iterations)
    rw [length_passedOn h] at hnumbers
    rw [List.map_append, List.map_map]
    exact congrArg (· ++ [workers]) hnumbers
  · intro c hc
    rcases List.mem_append.1 hc with hc | hc
    · obtain ⟨r, hr, rfl⟩ := List.mem_map.1 hc
      exact total_le hr
    · obtain rfl := List.mem_singleton.1 hc
      exact Nat.le_refl _

end Counter

/-! ## Clients that wait for the whole answer -/

namespace World

/-- A silent program leaves the client as it was. -/
theorem run_client {α : Type} {p : Act α} (h : Only Call.Silent p) (w : World) : (w.run p).2.client = w.client :=
  h.run_keeps (K := fun v => v.client = w.client) (fun _ v hc hv => (answer_client hc v).trans hv) rfl

/-- The client waits for the whole answer and has been sent these pieces, the latest first. -/
def Attended (w : World) (pieces : List Text) : Prop := w.client = (false, none, none, pieces)

namespace Attended

variable {w : World} {pieces : List Text}

/-- A client that waits for the whole answer has patience. -/
theorem patience (h : w.Attended pieces) : w.patience = .ok () := by
  obtain ⟨hcanceled, hdeadline, -⟩ : w.canceled = false ∧ w.deadline = none ∧ _ := by simpa [Attended, client] using h
  rw [World.patience, hcanceled, hdeadline]
  rfl

/-- A client that waits for the whole answer takes all of it. -/
theorem writesLeft (h : w.Attended pieces) : w.writesLeft = none := congrArg (fun x => x.2.2.1) h

theorem pieces_eq (h : w.Attended pieces) : w.pieces = pieces := congrArg (fun x => x.2.2.2) h

/-- A silent program sends nothing. -/
theorem run (h : w.Attended pieces) {α : Type} {p : Act α} (hp : Only Call.Silent p) : (w.run p).2.Attended pieces :=
  (run_client hp w).trans h

/-- A piece that is sent is the latest one. -/
theorem push (h : w.Attended pieces) (piece : Text) :
    ({ w with pieces := piece :: w.pieces } : World).Attended (piece :: pieces) := by
  rw [Attended, client, h.pieces_eq]
  exact congrArg (fun x : Bool × Option Instant × Option Nat × List Text => (x.1, x.2.1, x.2.2.1, piece :: pieces)) h

end Attended

end World

/-! ## The stream -/

/-- Authenticating sends nothing. -/
theorem SignIn.authenticate_silent (s : SignIn) (token : Text) : Only Call.Silent (s.authenticate token).run := by
  rw [run_authenticate]
  refine ⟨nofun, fun now => ?_⟩
  dsimp only
  split
  · trivial
  · refine ⟨nofun, fun r => ?_⟩
    rcases r with f | _ | u
    · trivial
    · trivial
    · dsimp only
      split <;> trivial

namespace Http

/-- Reading the groups of the roster sends nothing. -/
theorem rosterGroups_silent : Only Call.Silent rosterGroups.run := by
  rw [run_rosterGroups, Users.run_groupByRole]
  refine ⟨nofun, fun r => ?_⟩
  cases r <;> trivial

section Telling

variable {w : World} {pieces : List Text}

/-- The state of a count is told to a client that waits for it. -/
theorem run_tell (h : w.Attended pieces) (activity : Text) (count workers : Nat) :
    (w.run (patchCount count workers >>= noteUnsent activity)).2.Attended
      ((StreamEvent.signals count workers).written :: pieces) := by
  have hevent := run_event h.patience h.writesLeft (StreamEvent.signals count workers)
  have hsent : w.run (patchCount count workers) =
      (.ok (), { w with pieces := (StreamEvent.signals count workers).written :: w.pieces }) := by
    unfold World.run patchCount at *
    rw [Program.bind_eq, run_bind]
    exact congrArg (fun x : Except Fault Unit × World => (x.1.mapError _, x.2)) hevent
  unfold World.run at *
  rw [Program.bind_eq, run_bind, hsent]
  exact h.push _

/-- So are the reports among the deeds of a count, in order. -/
theorem run_deeds (h : w.Attended pieces) (delay : Span) (activity : Text) (ds : List Counter.Deed) :
    (w.run (ds.forM (Counter.Deed.act delay fun r => patchCount r.total r.finished >>= noteUnsent activity))).2.Attended
      (((ds.filterMap Counter.Deed.report?).map fun r => (StreamEvent.signals r.total r.finished).written).reverse ++ pieces) := by
  -- a deed may let time pass or send a report, so both the world and what has been sent change on the way
  induction ds generalizing w pieces with
  | nil => exact h
  | cons d ds ih =>
    have hcons : ∀ f : Counter.Deed → Act Unit, (d :: ds).forM f = (f d).bind fun _ => ds.forM f := fun _ => rfl
    rw [hcons, World.run, run_bind]
    cases d with
    | pause =>
      refine ih (h.run (p := Counter.Deed.act delay _ .pause) ?_)
      unfold Counter.Deed.act
      dsimp only
      split
      · refine ⟨fun piece hpause => ?_, fun _ => trivial⟩
        cases hpause
      · trivial
    | report r =>
      have hreport := ih (run_tell h activity r.total r.finished)
      rw [List.filterMap_cons_some (show Counter.Deed.report? (.report r) = some r from rfl), List.map_cons, List.reverse_cons,
        List.append_assoc]
      exact hreport

/-- A job is told to the end. -/
theorem run_tellCount (h : w.Attended pieces) {workers iterations : Nat} (hw : 0 < workers) (hi : 0 < iterations)
    (delay : Span) :
    (w.run (tellCount (workers, iterations) delay)).2.Attended
      (((Counter.told workers iterations (Counter.inTurn workers iterations)).map fun c =>
        (StreamEvent.signals c.1 c.2).written).reverse ++ pieces) := by
  have hdeeds := run_deeds h delay "patch counter progress"
    (Counter.deeds (Counter.inTurn workers iterations) (Counter.start workers iterations))
  have hend := run_tell hdeeds "patch counter result" (workers * iterations) workers
  have hcount := (Counter.reached_run workers iterations _).count_of_finished (Counter.finished_inTurn workers iterations)
  rw [Counter.told, hcount, List.map_append, List.reverse_append, List.map_map]
  unfold World.run at *
  rw [tellCount, Counter.count_eq hw hi]
  simp only [Program.bind_eq, run_bind] at *
  exact hend

end Telling

/-- The stream that a job is told in. -/
theorem serve_told {s : Site} {w : World} {r : Request} {viewer : User} {g : Groups} (h : w.Attended [])
    (hr : r.Gets [utf8 "roster", utf8 "stream"])
    (hviewer : (w.attempt (s.signIn.authenticate (requestToken r))).1 = .ok viewer)
    (hgroups : ((w.attempt (s.signIn.authenticate (requestToken r))).2.attempt rosterGroups).1 = .ok g) :
    (w.run (serve s r)).1.status = 200 ∧
    (w.run (serve s r)).2.body = EventStream.patching (Page.sections g)
      (Counter.told (streamJob r.target).1 (streamJob r.target).2
        (Counter.inTurn (streamJob r.target).1 (streamJob r.target).2)) := by
  have hroute : r.route? = some (.rosterStream, []) := hr.route?_eq.trans (by decide +kernel)
  have hallowed := streamJob_allowed r.target
  obtain ⟨id, hid⟩ := run_requestId r w
  have hsignedIn := run_dispatch_guarded hroute rfl hviewer id
  -- the worlds after the user has been found and after the users have been listed
  have hfound : (w.attempt (s.signIn.authenticate (requestToken r))).2.Attended [] := h.run (s.signIn.authenticate_silent _)
  generalize (w.attempt (s.signIn.authenticate (requestToken r))).2 = found at *
  have hlisted : (found.attempt rosterGroups).2.Attended [] := hfound.run rosterGroups_silent
  have hstream : w.run (dispatch s r id) =
      (found.attempt rosterGroups).2.run (showStream (streamJob r.target) s.counterDelay (.ok g)) := by
    rw [hsignedIn, ← hgroups]
    exact run_bind World.answer rosterGroups.run _ found
  generalize (found.attempt rosterGroups).2 = listed at *
  obtain ⟨hstatus, hworld⟩ := run_showStream hlisted.patience hlisted.writesLeft (streamJob r.target) s.counterDelay g
  have htold := (run_tellCount (hlisted.push (StreamEvent.elements (Page.sections g)).written) hallowed.someWorkers
    hallowed.someIterations s.counterDelay).pieces_eq
  refine ⟨?_, ?_⟩
  · rw [(run_serve_of_id hid s).1, hstream]
    exact hstatus
  · rw [World.body, pieces_serve hid, hstream, hworld, htold, List.reverse_append, List.reverse_reverse, EventStream.patching,
      List.flatMap_cons, List.flatMap_map]
    rfl

/-! ## The endpoint for counts -/

/-- No rule is broken exactly if every rule of every field holds. -/
theorem brokenRules_eq_nil_iff {rules : List (Text × List (Text × Bool))} :
    brokenRules rules = [] ↔ ∀ field ∈ rules, ∀ rule ∈ field.2, rule.2 = true := by
  rw [brokenRules, List.filterMap_eq_nil_iff]
  refine forall₂_congr fun field _ => ?_
  rw [Option.map_eq_none_iff, List.find?_eq_none]
  refine forall₂_congr fun rule _ => ?_
  obtain ⟨name, met⟩ := rule
  cases met <;> simp

/-- A body is read exactly if it can be decoded and breaks no rule. -/
theorem Body.read_eq_ok_iff {σ : Type} {b : Body σ} {t : Text} {x : σ} :
    b.read t = .ok x ↔
      Json.decodeFirst (Json.readRecord "object" "object" b.fields) b.blank t = .ok x ∧ brokenRules (b.rules x) = [] := by
  unfold Body.read
  cases Json.decodeFirst (Json.readRecord "object" "object" b.fields) b.blank t with
  | error e => simp
  | ok y =>
    dsimp only
    cases hbroken : brokenRules (b.rules y) with
    | nil =>
      simp only [Except.ok.injEq]
      exact ⟨fun h => ⟨h, h ▸ hbroken⟩, fun h => h.1⟩
    | cons rule rules =>
      simp only [reduceCtorEq, Except.ok.injEq, false_iff, not_and]
      rintro rfl hnone
      rw [hbroken] at hnone
      cases hnone

/-- A body asks for a job. -/
def Asks (body : Text) (workers iterations : Int) : Prop :=
  Json.decodeFirst (Json.readRecord "object" "object" CountJob.body.fields) CountJob.body.blank body =
    .ok { workers, iterations }

/-- A body is read as a job exactly if it asks for it and both numbers are in range. -/
theorem CountJob.read_eq_ok_iff {t : Text} {workers iterations : Int} :
    CountJob.body.read t = .ok { workers, iterations } ↔
      Asks t workers iterations ∧ 1 ≤ workers ∧ workers ≤ 16 ∧ 1 ≤ iterations ∧ iterations ≤ 1000 := by
  rw [Body.read_eq_ok_iff, brokenRules_eq_nil_iff]
  refine and_congr_right fun _ => ?_
  simp only [CountJob.body, between, List.forall_mem_cons, List.not_mem_nil, false_imp_iff, implies_true, and_true,
    decide_eq_true_eq, and_assoc]
  exact Iff.rfl

/-- What the endpoint does about a job that the rules for its numbers allow. -/
def runJob (s : Site) (b : CountJob) : Act Reply := do
  if b.workers * b.iterations > maxIncrements then
    jsonError 400 (utf8 "workers*iterations must not exceed " ++ Text.decimal maxIncrements)
  else
    let start ← Act.ask .now
    let count ← Counter.count b.workers b.iterations s.counterDelay fun _ => pure ()
    let done ← Act.ask .now
    json 200 (.object [("count", .nat count),
      ("durationMs", .int ((done.instant - start.instant) / Span.millisecond))])

/-- The endpoint for counts reads a job and runs it. -/
theorem counter_eq (s : Site) (v : Visit) : counter s v = withBody v "decode counter" CountJob.body (runJob s) := rfl

/-- The jobs that are run are those within the limits. -/
theorem runnable_iff {t : Text} {job : CountJob} :
    CountJob.body.read t = .ok job ∧ ¬job.workers * job.iterations > maxIncrements ↔
      ∃ workers iterations : Nat, job = { workers, iterations } ∧ Asks t workers iterations ∧ Allowed workers iterations := by
  constructor
  · obtain ⟨workers, iterations⟩ := job
    rintro ⟨hread, hproduct⟩
    obtain ⟨hasks, hsome, hfew, hsome', hfew'⟩ := CountJob.read_eq_ok_iff.1 hread
    obtain ⟨workers, rfl⟩ := Int.eq_ofNat_of_zero_le (by omega : 0 ≤ workers)
    obtain ⟨iterations, rfl⟩ := Int.eq_ofNat_of_zero_le (by omega : 0 ≤ iterations)
    have hproduct : (workers : Int) * iterations ≤ 4000 := Int.not_lt.1 hproduct
    exact ⟨workers, iterations, rfl, hasks, by omega, by omega, by omega, by omega, by exact_mod_cast hproduct⟩
  · rintro ⟨workers, iterations, rfl, hasks, hsome, hfew, hsome', hfew', hproduct⟩
    have hproduct : (workers : Int) * iterations ≤ 4000 := by exact_mod_cast hproduct
    exact ⟨CountJob.read_eq_ok_iff.2 ⟨hasks, by omega, by omega, by omega, by omega⟩, Int.not_lt.2 hproduct⟩

/-- A job is answered with 200, unless its product is too large. -/
theorem runJob_ends (s : Site) (job : CountJob) :
    Ends (fun reply => reply.status = if job.workers * job.iterations > maxIncrements then 400 else 200) (runJob s job) := by
  unfold runJob
  split
  · exact json_ends 400 _
  · exact Ends.bind _ fun start => Ends.bind _ fun count => Ends.bind _ fun done => json_ends 200 _

/-- An endpoint goes on with the body it has read. -/
theorem run_withBody {σ : Type} {b : Body σ} {v : Visit} {x : σ} (h : b.read v.request.body = .ok x) (activity : Text)
    (next : σ → Act Reply) (w : World) : w.run (withBody v activity b next) = w.run (next x) := by
  rw [withBody, run_orFault, h]
  rfl

/-- A job is accepted exactly if it is within the limits, and else it is refused. -/
theorem status_counter (s : Site) (v : Visit) (w : World) :
    ((w.run (counter s v)).1.status = 200 ↔
      ∃ workers iterations : Nat, Asks v.request.body workers iterations ∧ Allowed workers iterations) ∧
    ((w.run (counter s v)).1.status = 200 ∨ (w.run (counter s v)).1.status = 400) := by
  rw [counter_eq]
  cases hread : CountJob.body.read v.request.body with
  | error f =>
    have hrefused : (w.run (withBody v "decode counter" CountJob.body (runJob s))).1.status = 400 := by
      rw [withBody, run_orFault, hread]
      show (w.run (faultReply v.requestId "decode counter" f)).1.status = 400
      rw [faultReply, if_pos (Body.read_invalid hread)]
      exact (json_ends 400 _).of_run World.answer w
    rw [hrefused]
    refine ⟨iff_of_false (by decide) ?_, .inr rfl⟩
    rintro ⟨workers, iterations, hasks⟩
    have hrunnable := (runnable_iff.2 ⟨workers, iterations, rfl, hasks⟩).1
    rw [hread] at hrunnable
    cases hrunnable
  | ok job =>
    have hstatus := (runJob_ends s job).of_run World.answer w
    rw [run_withBody hread]
    rw [World.run, hstatus]
    split
    next hproduct =>
      refine ⟨iff_of_false (by decide) ?_, .inr rfl⟩
      rintro ⟨workers, iterations, hasks⟩
      obtain ⟨hread', hproduct'⟩ := runnable_iff.2 ⟨workers, iterations, rfl, hasks⟩
      obtain rfl := Except.ok.inj (hread.symm.trans hread')
      exact hproduct' hproduct
    next hproduct =>
      obtain ⟨workers, iterations, -, hasks⟩ := runnable_iff.1 ⟨hread, hproduct⟩
      exact ⟨iff_of_true rfl ⟨workers, iterations, hasks⟩, .inl rfl⟩

/-- An answer in JSON is sent in one piece, with a line feed at its end. -/
theorem run_json {w : World} {pieces : List Text} (h : w.Attended pieces) (status : Nat) (v : Json) :
    (w.run (json status v)).2.Attended ((v.render ++ [10]) :: pieces) := by
  have hwrite := World.answer_write h.writesLeft (v.render ++ [10])
  unfold World.run
  simp only [json, write, Act.ask, Program.ask, Program.bind_eq, call_bind, done_bind, run_call, hwrite]
  exact h.push _

/-- A job that is accepted is answered with the product. -/
theorem run_counter {s : Site} {v : Visit} {w : World} (h : w.Attended []) {workers iterations : Nat}
    (hasks : Asks v.request.body workers iterations) (hallowed : Allowed workers iterations) :
    ∃ duration : Int, (w.run (counter s v)).2.Attended
      [(Json.object [("count", .nat (workers * iterations)), ("durationMs", .int duration)]).render ++ [10]] := by
  obtain ⟨hread, hproduct⟩ := runnable_iff.2 ⟨workers, iterations, rfl, hasks, hallowed⟩
  have hsilent : Only Call.Silent (Counter.count workers iterations s.counterDelay fun _ => pure ()) :=
    Counter.count_only (fun _ => nofun) _ _ _ fun _ => trivial
  have hcount := (Counter.ends_count hallowed.someWorkers hallowed.someIterations s.counterDelay fun _ => pure ()).of_run
    World.answer w
  have hnow : ∀ w : World, World.answer .now w = (w.now, w) := fun _ => rfl
  have hcounted := h.run hsilent
  rw [counter_eq, run_withBody hread, runJob, if_neg hproduct]
  unfold World.run at *
  simp only [Act.ask, Program.ask, Program.bind_eq, call_bind, done_bind, run_call, run_bind, hnow, hcount]
  exact ⟨_, run_json hcounted 200 _⟩

/-- The body that asks for a job. -/
def jobBody (workers iterations : Nat) : Text :=
  (Json.object [("workers", .nat workers), ("iterations", .nat iterations)]).render

/-- The body that is written for a job asks for it. -/
theorem asks_jobBody {workers iterations : Nat} (hworkers : workers < Word.half) (hiterations : iterations < Word.half) :
    Asks (jobBody workers iterations) workers iterations := by
  have hread : ∀ {n : Nat}, n < Word.half → ∀ old, Json.readInt64 old (.nat n) = .ok (n : Int) := by
    intro n hn old
    have hn : n < 2 ^ 63 := hn
    exact Cache.Codec.readInt64_int (n := n) ⟨by omega, by omega⟩ old
  have hclean : (Json.object [("workers", .nat workers), ("iterations", .nat iterations)]).Clean :=
    ⟨by decide +kernel, ⟨workers, rfl⟩, by decide +kernel, ⟨iterations, rfl⟩, trivial⟩
  have hparsed : Json.parseFirst (jobBody workers iterations) =
      .ok (.object [("workers", .nat workers), ("iterations", .nat iterations)], []) := by
    have hvalue := (Json.reads_back (2 * (jobBody workers iterations).length + 2)).1 _ 0 [] hclean
      (by rw [jobBody]; omega) (show 0 + 1 ≤ Json.Parse.maxDepth by decide) Json.ends_nil
    rwa [List.append_nil] at hvalue
  rw [Asks, Json.decodeFirst, hparsed]
  dsimp only [Json.readRecord]
  rw [Json.readMembers_found rfl (congrArg (Except.map _) (hread hworkers _)),
    Json.readMembers_found rfl (congrArg (Except.map _) (hread hiterations _))]
  rfl

/-! ## The same jobs -/

/-- A request that posts to a path. -/
structure Request.Posts (r : Request) (path : List Text) : Prop where
  target : r.rawTarget ≠ utf8 "*"
  clean : cleanPath r.target.escapedPath = r.target.escapedPath
  method : r.method = utf8 "POST"
  path : pathSegments r.target.escapedPath = path

/-- A request that is posted to a path takes the route of that path. -/
theorem Request.Posts.route?_eq {r : Request} {path : List Text} (h : r.Posts path) :
    r.route? = findRoute? (utf8 "POST") path := by
  rw [route?_of_clean h.target h.clean (by rw [h.method]; decide), h.method, h.path]

/-- What is posted by somebody who is signed in reaches the endpoint for counts. -/
theorem serve_posted {s : Site} {w : World} {r : Request} {viewer : User}
    (hr : r.Posts [utf8 "api", utf8 "demo", utf8 "counter"])
    (hviewer : (w.attempt (s.signIn.authenticate (requestToken r))).1 = .ok viewer) :
    ∃ (v : Visit) (found : World), v.request = r ∧ (∀ pieces, w.Attended pieces → found.Attended pieces) ∧
      (w.run (serve s r)).1.status = (found.run (counter s v)).1.status ∧
      (w.run (serve s r)).2.pieces = (found.run (counter s v)).2.pieces := by
  have hroute : r.route? = some (.counter, []) := hr.route?_eq.trans (by decide +kernel)
  obtain ⟨id, hid⟩ := run_requestId r w
  have hdispatch := run_dispatch_guarded hroute rfl hviewer id
  have hsilent := s.signIn.authenticate_silent (requestToken r)
  refine ⟨{ request := r, segment := [], requestId := id, user := some viewer }, _, rfl, fun _ h => h.run hsilent, ?_, ?_⟩
  · rw [(run_serve_of_id hid s).1, hdispatch]
    rfl
  · rw [pieces_serve hid, hdispatch]
    rfl

/-- The client waits for the whole answer. -/
structure Arrival.Stays (a : Arrival) : Prop where
  canceled : a.canceled = false
  deadline : a.deadline = none
  writesLeft : a.writesLeft = none

/-- A client that stays is there for the whole answer. -/
theorem Arrival.Stays.attended {a : Arrival} (h : a.Stays) (w : World) : (a.enter w).Attended [] := by
  show (a.canceled, a.deadline, a.writesLeft, ([] : List Text)) = _
  rw [h.canceled, h.deadline, h.writesLeft]

/-- The stream and the endpoint for counts run the same jobs, in five parts.
1. Whatever is in a query, the job of the stream is within the limits.
2. A job within the limits is asked for by a body, and a query with the two numbers in decimals makes the stream run it.
3. Whoever is signed in, when the users can be listed, and waits for it, gets a stream that is written with the sections of the
   page and then with the progress of the job, up to the product of the two numbers. The progress is read as it was written,
   whatever is read of the sections, and these are read as they were written if they have no carriage returns.
4. For whoever is signed in, the endpoint accepts exactly the bodies that ask for a job within the limits, refuses the others,
   and answers with the product of the two numbers.
5. It makes no difference in which order the workers take their steps. -/
theorem stream_and_counter_run_same_jobs (s : Site) (w : World) :
    (∀ t : Target, Allowed (streamJob t).1 (streamJob t).2) ∧
    (∀ workers iterations, Allowed workers iterations →
      Asks (jobBody workers iterations) workers iterations ∧
      ∀ t : Target, t.query = jobQuery workers iterations ∨
        t.param "workers" = Text.decimal workers ∧ t.param "iterations" = Text.decimal iterations →
          streamJob t = (workers, iterations)) ∧
    (∀ (a : Arrival) (viewer : User) (g : Groups), a.request.Gets [utf8 "roster", utf8 "stream"] → a.Stays →
      ((a.enter w).attempt (s.signIn.authenticate (requestToken a.request))).1 = .ok viewer →
      (((a.enter w).attempt (s.signIn.authenticate (requestToken a.request))).2.attempt rosterGroups).1 = .ok g →
      let answer := (a.enter w).run (serve s a.request)
      let job := streamJob a.request.target
      answer.1.status = 200 ∧ ∃ told before, Counter.Progress job.1 job.2 told ∧
        answer.2.body = EventStream.patching (Page.sections g) told ∧
        EventStream.events answer.2.body = before ++ told.map (fun c => StreamEvent.signals c.1 c.2) ∧
        (13 ∉ Page.sections g → before = [StreamEvent.elements (Page.sections g)])) ∧
    (∀ (a : Arrival) (viewer : User), a.request.Posts [utf8 "api", utf8 "demo", utf8 "counter"] →
      ((a.enter w).attempt (s.signIn.authenticate (requestToken a.request))).1 = .ok viewer →
      let answer := (a.enter w).run (serve s a.request)
      (answer.1.status = 200 ↔
        ∃ workers iterations : Nat, Asks a.request.body workers iterations ∧ Allowed workers iterations) ∧
      (answer.1.status = 200 ∨ answer.1.status = 400) ∧
      ∀ workers iterations : Nat, Asks a.request.body workers iterations → Allowed workers iterations → a.Stays →
        ∃ duration : Int, answer.2.body =
          (Json.object [("count", .nat (workers * iterations)), ("durationMs", .int duration)]).render ++ [10]) ∧
    ∀ workers iterations schedule, (Counter.run (Counter.start workers iterations) schedule).Finished →
      (Counter.run (Counter.start workers iterations) schedule).count = workers * iterations ∧
      Counter.Progress workers iterations (Counter.told workers iterations schedule) := by
  refine ⟨streamJob_allowed, fun workers iterations h => ⟨?_, ?_⟩, ?_, ?_, fun workers iterations schedule h => ⟨?_, ?_⟩⟩
  · have hsmall : ∀ {n : Nat}, n ≤ 1000 → n < Word.half := fun hn => Nat.lt_of_le_of_lt hn (by decide)
    exact asks_jobBody (hsmall (Nat.le_trans h.fewWorkers (by decide))) (hsmall h.fewIterations)
  · rintro t (hquery | ⟨hworkers, hiterations⟩)
    · exact streamJob_of_jobQuery h hquery
    · exact streamJob_of_params h hworkers hiterations
  · intro a viewer g hgets hstays hviewer hgroups answer job
    obtain ⟨hstatus, hbody⟩ := serve_told (hstays.attended w) hgets hviewer hgroups
    refine ⟨hstatus, _, EventStream.events (StreamEvent.elements (Page.sections g)).written,
      Counter.progress_told (Counter.finished_inTurn job.1 job.2), hbody, ?_, ?_⟩
    · rw [show answer.2.body = _ from hbody]
      exact EventStream.events_patching _ _
    · exact fun hreturn => EventStream.events_written (StreamEvent.lined_elements hreturn)
  · intro a viewer hposts hviewer answer
    obtain ⟨v, found, hrequest, hattended, hstatus, hpieces⟩ := serve_posted hposts hviewer
    obtain ⟨haccepted, hknown⟩ := status_counter s v found
    rw [show answer.1.status = _ from hstatus, ← hrequest]
    refine ⟨haccepted, hknown, fun workers iterations hasks hallowed hstays => ?_⟩
    obtain ⟨duration, hsent⟩ := run_counter (s := s) (hattended [] (hstays.attended w)) hasks hallowed
    refine ⟨duration, ?_⟩
    rw [World.body, show answer.2.pieces = _ from hpieces, hsent.pieces_eq, List.reverse_singleton, List.flatten_singleton]
  · exact (Counter.reached_run workers iterations schedule).count_of_finished h
  · exact Counter.progress_told h

/-- A request for the stream with a query, by one of three users. -/
def streamWith (query : Text) : Arrival :=
  { request :=
      { method := "GET", rawTarget := utf8 "/roster/stream?" ++ query
        target := { path := "/roster/stream", escapedPath := "/roster/stream", query }
        headers := [⟨"Authorization", utf8 "Bearer " ++ trioToken⟩] } }

/-- A request for a count, by the same user. -/
def counterWith (body : Text) : Arrival :=
  { request :=
      { method := "POST", rawTarget := "/api/demo/counter"
        target := { path := "/api/demo/counter", escapedPath := "/api/demo/counter", query := [] }
        headers := [⟨"Authorization", utf8 "Bearer " ++ trioToken⟩], body } }

/-- Too much is asked of the stream, which does what it may: the job that the endpoint accepts. -/
theorem greedy_query_runs_allowed_job :
    streamJob (streamWith "workers=64&iterations=100000").request.target = (16, 250) ∧
    (let stream := ((streamWith "workers=64&iterations=100000").enter trioWorld).run
      (serve plainSite (streamWith "workers=64&iterations=100000").request)
     stream.1.status = 200 ∧ ∃ g told, Counter.Progress 16 250 told ∧ EventStream.events stream.2.body =
      StreamEvent.elements (Page.sections g) :: told.map fun c => StreamEvent.signals c.1 c.2) ∧
    let counted := ((counterWith (jobBody 16 250)).enter trioWorld).run (serve plainSite (counterWith (jobBody 16 250)).request)
    counted.1.status = 200 ∧ ∃ duration : Int, counted.2.body =
      (Json.object [("count", .nat 4000), ("durationMs", .int duration)]).render ++ [10] := by
  have htoken : ∀ r : Request, r.headers = (arrivalWith trioToken []).request.headers → requestToken r = trioToken := by
    intro r hr
    rw [← requestToken_arrivalWith trioToken [], requestToken, hr]
    rfl
  obtain ⟨-, hsame, hstream, hcounter, -⟩ := stream_and_counter_run_same_jobs plainSite trioWorld
  have hjob : streamJob (streamWith "workers=64&iterations=100000").request.target = (16, 250) := by decide +kernel
  refine ⟨hjob, ?_, ?_⟩
  · have hgets : (streamWith "workers=64&iterations=100000").request.Gets [utf8 "roster", utf8 "stream"] := by
      refine ⟨by decide, ?_, rfl, ?_⟩
      · show cleanPath (utf8 "/roster/stream") = utf8 "/roster/stream"
        decide +kernel
      · show pathSegments (utf8 "/roster/stream") = [utf8 "roster", utf8 "stream"]
        decide +kernel
    have hviewer := attempt_authenticate_trio (a := streamWith "workers=64&iterations=100000") rfl (htoken _ rfl)
    have hreturn : 13 ∉ Page.sections (⟨trio.reverse⟩ : Store.Memory).roster := by
      rw [Page.return_mem_sections_iff]
      rintro ⟨u, hu, hreturn⟩
      have hnone : ∀ u ∈ trio, ¬(13 ∈ u.name ∨ 13 ∈ u.email) := by decide +kernel
      exact hnone u (List.mem_reverse.1 (Store.Memory.mem_of_mem_shown _ hu)) hreturn
    obtain ⟨hstatus, told, before, hprogress, -, hevents, hbefore⟩ := hstream _ trio[1] _ hgets ⟨rfl, rfl, rfl⟩
      (congrArg Prod.fst hviewer)
      (by rw [hviewer]; exact congrArg Prod.fst (World.attempt_rosterGroups trioWorld_storage rfl))
    rw [hjob] at hprogress
    rw [hbefore hreturn] at hevents
    exact ⟨hstatus, _, told, hprogress, hevents⟩
  · have hposts : (counterWith (jobBody 16 250)).request.Posts [utf8 "api", utf8 "demo", utf8 "counter"] := by
      refine ⟨?_, ?_, rfl, ?_⟩
      · show utf8 "/api/demo/counter" ≠ utf8 "*"
        decide
      · show cleanPath (utf8 "/api/demo/counter") = utf8 "/api/demo/counter"
        decide +kernel
      · show pathSegments (utf8 "/api/demo/counter") = [utf8 "api", utf8 "demo", utf8 "counter"]
        decide +kernel
    have hallowed : Allowed 16 250 := ⟨by decide, by decide, by decide, by decide, by decide⟩
    have hasks := (hsame 16 250 hallowed).1
    have hviewer := attempt_authenticate_trio (a := counterWith (jobBody 16 250)) rfl (htoken _ rfl)
    obtain ⟨haccepted, -, hbody⟩ := hcounter _ trio[1] hposts (congrArg Prod.fst hviewer)
    exact ⟨haccepted.2 ⟨16, 250, hasks, hallowed⟩, hbody 16 250 hasks hallowed ⟨rfl, rfl, rfl⟩⟩

end Http

end Roster
