import Roster.Store.Scripted
import Roster.Proofs.Statuses
import Roster.Proofs.TableSaves

/-!
# Failures of a driver

A driver may refuse any call, break off in the middle of a result, give rows that cannot be read, or not know how many rows a
command has affected. None of this is taken for data. Nobody is reported absent because a query failed, a list is whole or is
not given at all, and whatever went wrong underneath is told as a fault of the store, with the underlying one inside.

Every operation makes at most three calls, and its outcome is first written as a function of the answers to them (`run_findOne`,
`run_findAll`, `run_delete`, `run_save`). `Flaw` says what can be wrong with an answer.
-/

namespace Roster

open Program

/-! ## Faults inside faults -/

namespace Fault

/-- A fault and all the faults inside it, from the outside in. -/
def chain : Fault → List Fault
  | store cause => store cause :: cause.chain
  | during activity cause => during activity cause :: cause.chain
  | f => [f]

/-- A fault of the store that is due to another one, and for which no caller is to blame. -/
structure Reports (e f : Fault) : Prop where
  database : e.has .database = true
  inside : f ∈ e.chain
  untold : e.telling = false

/-- A fault is in its own chain. -/
theorem mem_chain_self (f : Fault) : f ∈ f.chain := by
  cases f <;> simp [chain]

theorem telling_during (activity : Text) (f : Fault) : (during activity f).telling = f.telling := rfl

/-- A fault that says somebody is absent, or that the input is wrong, is one that clients are told about. -/
theorem telling_of_has {f : Fault} {k : Kind} (hk : k = .notFound ∨ k = .invalidInput) (h : f.has k = true) :
    f.telling = true := by
  rcases hk with rfl | rfl <;> simp only [telling, h, Bool.or_true, Bool.true_or]

/-- A failure of the store reports the fault inside it, if that is none that clients are told about. -/
theorem reports_failure (activity : Text) {f : Fault} (hf : f.telling = false) : (Sql.failure activity f).Reports f := by
  refine ⟨rfl, ?_, hf⟩
  have hself := mem_chain_self f
  simp only [Sql.failure, chain, List.mem_cons, hself, or_true]

end Fault

namespace Sql

/-! ## What can be wrong with an answer -/

/-- Whether a row can be read as what a query asks for. -/
def Query.check (columns : List Text) (row : List Datum) : Query → Except Fault Unit
  | .userById _ | .userByEmail _ | .allUsers => (readUser columns row).map fun _ => ()
  | .createdAt _ => (readCreated columns row).map fun _ => ()
  | .migrations => (Migration.readName columns row).map fun _ => ()

/-- What is wrong with an answer: the call failed, a row could not be fetched, a row cannot be read, the row of a user who has
just been stored is missing, or the number of rows is not known. -/
inductive Flaw : (c : Call) → c.Answer → Fault → Prop where
  | query {q : Query} {f : Fault} : Flaw (.query q) (.error f) f
  | fetch {q : Query} {rs : ResultSet} {i : Nat} {f : Fault} :
      i ≤ rs.rows.length → brokenAt rs.broken i = some f → Flaw (.query q) (.ok rs) f
  | row {q : Query} {rs : ResultSet} {row : List Datum} {f : Fault} :
      row ∈ rs.rows → q.check rs.columns row = .error f → Flaw (.query q) (.ok rs) f
  | missing {id : UInt64} {rs : ResultSet} :
      rs.rows = [] → Flaw (.query (.createdAt id)) (.ok rs) (.reported "sql: no rows in result set")
  | exec {c : Command} {f : Fault} : Flaw (.exec c) (.error f) f
  | affected {c : Command} {f : Fault} : Flaw (.exec c) (.ok (.error f)) f

/-! ## Reading -/

/-- If this fails, no caller is to blame. -/
def Blameless {α : Type} (r : Except Fault α) : Prop := ∀ f, r = .error f → f.telling = false

section Blameless

variable {α β : Type}

theorem blameless_ok (a : α) : Blameless (.ok a : Except Fault α) := by
  intro f h
  cases h

/-- For a text that a driver reports, no caller is to blame. -/
theorem blameless_reported (t : Text) : Blameless (.error (.reported t) : Except Fault α) := by
  intro f h
  cases h
  rfl

/-- If neither step blames a caller, the two together do not. -/
theorem Blameless.bind {r : Except Fault α} {next : α → Except Fault β} (hr : Blameless r) (hnext : ∀ a, Blameless (next a)) :
    Blameless (r >>= next) := by
  intro f h
  cases r with
  | error g =>
    cases h
    exact hr f rfl
  | ok a => exact hnext a f h

/-- A value may be mapped: a fault stays the one it was. -/
theorem Blameless.map {r : Except Fault α} (hr : Blameless r) (g : α → β) : Blameless (r.map g) := by
  intro f h
  cases r with
  | error f' =>
    cases h
    exact hr f rfl
  | ok a => cases h

/-- Naming the column of a fault blames nobody. -/
theorem Blameless.inColumn {r : Except Fault α} (hr : Blameless r) (columns : List Text) (i : Nat) :
    Blameless (inColumn columns i r) := by
  intro f h
  cases r with
  | error g =>
    cases h
    exact (Fault.telling_during _ g).trans (hr g rfl)
  | ok a => cases h

/-- For a wrong number of columns, no caller is to blame. -/
theorem blameless_expectColumns (columns : List Text) (n : Nat) : Blameless (expectColumns columns n) := by
  unfold expectColumns
  split
  · exact blameless_ok ()
  · exact blameless_reported _

/-- For an id that cannot be read, no caller is to blame. -/
theorem blameless_readId (d : Datum) : Blameless (readId d) := by
  unfold readId
  split
  · exact blameless_reported _
  · split
    · exact blameless_ok _
    · exact blameless_reported _

/-- For a text that cannot be read, no caller is to blame. -/
theorem blameless_readText (d : Datum) : Blameless (readText d) := by
  unfold readText
  split
  · exact blameless_reported _
  · exact blameless_ok _
  · exact blameless_ok _

/-- For a flag that cannot be read, no caller is to blame. -/
theorem blameless_readBool (d : Datum) : Blameless (readBool d) := by
  unfold readBool
  cases d with
  | bool b => exact blameless_ok b
  | text t =>
    cases ht : Numeral.truth? t with
    | some b => simpa only [ht] using blameless_ok b
    | none => simpa only [ht] using blameless_reported _
  | int n =>
    dsimp only
    split
    · exact blameless_ok _
    · split
      · exact blameless_ok _
      · exact blameless_reported _
  | null | real _ | time _ => exact blameless_reported _

/-- For a time that cannot be read, no caller is to blame. -/
theorem blameless_readTime (d : Datum) : Blameless (readTime d) := by
  unfold readTime
  split
  · exact blameless_ok _
  · exact blameless_reported _

/-- For a row that is no user, no caller is to blame. -/
theorem blameless_readUser (columns : List Text) (row : List Datum) : Blameless (readUser columns row) := by
  unfold readUser
  refine (blameless_expectColumns columns 8).bind fun _ => ?_
  refine ((blameless_readId _).inColumn columns 0).bind fun _ => ?_
  refine ((blameless_readText _).inColumn columns 1).bind fun _ => ?_
  refine ((blameless_readText _).inColumn columns 2).bind fun _ => ?_
  refine ((blameless_readText _).inColumn columns 3).bind fun _ => ?_
  refine ((blameless_readBool _).inColumn columns 4).bind fun _ => ?_
  refine ((blameless_readText _).inColumn columns 5).bind fun _ => ?_
  refine ((blameless_readTime _).inColumn columns 6).bind fun _ => ?_
  refine ((blameless_readTime _).inColumn columns 7).bind fun _ => ?_
  exact blameless_ok _

/-- For a row that is not what was asked for, no caller is to blame. -/
theorem blameless_check (q : Query) (columns : List Text) (row : List Datum) : Blameless (q.check columns row) := by
  cases q with
  | userById _ | userByEmail _ | allUsers => exact (blameless_readUser columns row).map _
  | createdAt _ =>
    refine Blameless.map ?_ _
    exact (blameless_expectColumns columns 1).bind fun _ => (blameless_readTime _).inColumn columns 0
  | migrations =>
    refine Blameless.map ?_ _
    exact (blameless_expectColumns columns 1).bind fun _ => (blameless_readText _).inColumn columns 0

end Blameless

/-- What makes a row unreadable as what a query asks for makes the answer flawed. -/
theorem Flaw.of_unread {α : Type} {q : Query} {rs : ResultSet} {row : List Datum} {read : Except Fault α} {f : Fault}
    (hrow : row ∈ rs.rows) (hcheck : q.check rs.columns row = read.map fun _ => ()) (hread : read = .error f) :
    Flaw (.query q) (.ok rs) f := by
  rw [hread] at hcheck
  exact .row hrow hcheck

/-! ## The first row -/

/-- What the answer to a query for one user shows: nobody, if there is no row, and otherwise the user in the first row. -/
inductive Shows : Except Fault ResultSet → Option User → Prop where
  | nobody {rs : ResultSet} : brokenAt rs.broken 0 = none → rs.rows = [] → Shows (.ok rs) none
  | first {rs : ResultSet} {row : List Datum} {rest : List (List Datum)} {u : User} :
      brokenAt rs.broken 0 = none → rs.rows = row :: rest → readUser rs.columns row = .ok u → Shows (.ok rs) (some u)

/-- Everything that reading the first row can come to. -/
theorem readFirst_cases {α : Type} (read : List Text → List Datum → Except Fault α) (rs : ResultSet) :
    (∃ f, brokenAt rs.broken 0 = some f ∧ readFirst read rs = .error f) ∨
    brokenAt rs.broken 0 = none ∧ (rs.rows = [] ∧ readFirst read rs = .ok none ∨
      ∃ row rest, rs.rows = row :: rest ∧ readFirst read rs = (read rs.columns row).map some) := by
  cases hbroken : brokenAt rs.broken 0 with
  | some f => exact .inl ⟨f, rfl, by rw [readFirst, hbroken]⟩
  | none =>
    right
    cases hrows : rs.rows with
    | nil => exact ⟨rfl, .inl ⟨rfl, by rw [readFirst, hbroken, hrows]⟩⟩
    | cons row rest => exact ⟨rfl, .inr ⟨row, rest, rfl, by rw [readFirst, hbroken, hrows]⟩⟩

/-- Reading the first row fails because it cannot be fetched or because it cannot be read. -/
theorem flaw_of_readFirst {α : Type} {read : List Text → List Datum → Except Fault α} {q : Query} {rs : ResultSet} {f : Fault}
    (hcheck : ∀ row, q.check rs.columns row = (read rs.columns row).map fun _ => ()) (h : readFirst read rs = .error f) :
    Flaw (.query q) (.ok rs) f := by
  obtain ⟨g, hbroken, hend⟩ | ⟨-, ⟨-, hend⟩ | ⟨row, rest, hrows, hend⟩⟩ := readFirst_cases read rs
  · rw [hend] at h
    cases h
    exact .fetch (Nat.zero_le _) hbroken
  · rw [hend] at h
    cases h
  · have hmem : row ∈ rs.rows := by simp only [hrows, List.mem_cons, true_or]
    cases hread : read rs.columns row with
    | ok a =>
      rw [hend, hread] at h
      cases h
    | error g =>
      rw [hend, hread] at h
      cases h
      exact .of_unread hmem (hcheck row) hread

/-- Reading the first row gives what the answer shows, and nothing else. -/
theorem readFirst_eq_ok_iff {rs : ResultSet} {o : Option User} : readFirst readUser rs = .ok o ↔ Shows (.ok rs) o := by
  constructor
  · intro h
    obtain ⟨g, -, hend⟩ | ⟨hbroken, ⟨hrows, hend⟩ | ⟨row, rest, hrows, hend⟩⟩ := readFirst_cases readUser rs
    · rw [hend] at h
      cases h
    · rw [hend] at h
      cases h
      exact .nobody hbroken hrows
    · cases hread : readUser rs.columns row with
      | error g =>
        rw [hend, hread] at h
        cases h
      | ok u =>
        rw [hend, hread] at h
        cases h
        exact .first hbroken hrows hread
  · intro h
    cases h with
    | nobody hbroken hrows => rw [readFirst, hbroken, hrows]
    | first hbroken hrows hread =>
      rw [readFirst, hbroken, hrows]
      simp only [hread]
      rfl

/-! ## All the rows -/

/-- What the answer to a query for all users lists: one user for each row, with no row left out. -/
def Lists (r : Except Fault ResultSet) (us : List User) : Prop :=
  ∃ rs, r = .ok rs ∧ (∀ i ≤ rs.rows.length, brokenAt rs.broken i = none) ∧
    List.Forall₂ (fun row u => readUser rs.columns row = .ok u) rs.rows us

section ReadRows

variable {α : Type} {read : List Datum → Except Fault α} {unread unfetched : Fault → Fault} {broken : Option (Nat × Fault)}

/-- Rows are read to the end, which is fetched too, or not at all. -/
theorem readRows_eq_ok_iff {i : Nat} {rows : List (List Datum)} {as : List α} :
    readRows read unread unfetched broken i rows = .ok as ↔
      (∀ j ≤ rows.length, brokenAt broken (i + j) = none) ∧ List.Forall₂ (fun row a => read row = .ok a) rows as := by
  induction rows generalizing i as with
  | nil =>
    rw [readRows]
    cases hbroken : brokenAt broken i with
    | some f => simp [hbroken]
    | none =>
      constructor
      · intro h
        cases h
        simp [hbroken]
      · rintro ⟨-, h⟩
        cases h
        rfl
  | cons row rest ih =>
    rw [readRows]
    -- The places from the next one on are those of the rest.
    have hplaces : (∀ j ≤ (row :: rest).length, brokenAt broken (i + j) = none) ↔
        brokenAt broken i = none ∧ ∀ j ≤ rest.length, brokenAt broken (i + 1 + j) = none := by
      constructor
      · intro h
        refine ⟨h 0 (Nat.zero_le _), fun j hj => ?_⟩
        have hnext := h (j + 1) (Nat.succ_le_succ hj)
        rwa [show i + (j + 1) = i + 1 + j by omega] at hnext
      · rintro ⟨hfirst, hrest⟩ j hj
        cases j with
        | zero => exact hfirst
        | succ j =>
          rw [show i + (j + 1) = i + 1 + j by omega]
          exact hrest j (Nat.le_of_succ_le_succ hj)
    rw [hplaces]
    cases hbroken : brokenAt broken i with
    | some f => simp
    | none =>
      cases hread : read row with
      | error f =>
        constructor
        · intro h
          cases h
        · rintro ⟨-, h⟩
          obtain _ | ⟨hrow, -⟩ := h
          rw [hread] at hrow
          cases hrow
      | ok a =>
        cases hrest : readRows read unread unfetched broken (i + 1) rest with
        | error f =>
          constructor
          · intro h
            cases h
          · rintro ⟨⟨-, hplaces⟩, h⟩
            obtain _ | ⟨-, hall⟩ := h
            have hok := ih.mpr ⟨hplaces, hall⟩
            rw [hrest] at hok
            cases hok
        | ok as' =>
          obtain ⟨hplaces, hall⟩ := ih.mp hrest
          constructor
          · intro h
            cases h
            exact ⟨⟨rfl, hplaces⟩, .cons hread hall⟩
          · rintro ⟨-, h⟩
            obtain _ | ⟨hrow, hothers⟩ := h
            have hsame := ih.mpr ⟨hplaces, hothers⟩
            rw [hrest] at hsame
            rw [hread] at hrow
            cases hsame
            cases hrow
            rfl

/-- Reading stops at a row that cannot be fetched or at one that cannot be read, and says which. -/
theorem readRows_error {i : Nat} {rows : List (List Datum)} {e : Fault}
    (h : readRows read unread unfetched broken i rows = .error e) :
    (∃ j ≤ rows.length, ∃ f, brokenAt broken (i + j) = some f ∧ e = unfetched f) ∨
      ∃ row ∈ rows, ∃ f, read row = .error f ∧ e = unread f := by
  induction rows generalizing i with
  | nil =>
    rw [readRows] at h
    cases hbroken : brokenAt broken i with
    | none =>
      rw [hbroken] at h
      cases h
    | some f =>
      rw [hbroken] at h
      cases h
      exact .inl ⟨0, Nat.le_refl _, f, hbroken, rfl⟩
  | cons row rest ih =>
    rw [readRows] at h
    cases hbroken : brokenAt broken i with
    | some f =>
      rw [hbroken] at h
      cases h
      exact .inl ⟨0, Nat.zero_le _, f, hbroken, rfl⟩
    | none =>
      cases hread : read row with
      | error f =>
        rw [hbroken, hread] at h
        cases h
        exact .inr ⟨row, List.mem_cons_self, f, hread, rfl⟩
      | ok a =>
        rw [hbroken, hread] at h
        cases hrest : readRows read unread unfetched broken (i + 1) rest with
        | ok as =>
          simp only [hrest] at h
          cases h
        | error f =>
          simp only [hrest] at h
          cases h
          obtain ⟨j, hj, g, hg, rfl⟩ | ⟨row', hmem, hrow⟩ := ih hrest
          · refine .inl ⟨j + 1, Nat.succ_le_succ hj, g, ?_, rfl⟩
            rwa [show i + (j + 1) = i + 1 + j by omega]
          · exact .inr ⟨row', List.mem_cons_of_mem _ hmem, hrow⟩

end ReadRows

/-! ## The operations -/

/-- Listing makes one query and reads its rows to the end. -/
theorem run_findAll :
    findAll.run = .call (.query .allUsers) fun r =>
      .done ((r.mapError (failure "list users")).bind fun rs =>
        readRows (readUser rs.columns) (failure "scan user") (failure "iterate users") rs.broken 0 rs.rows) := by
  show Program.call _ _ = _
  congr
  funext r
  cases r <;> rfl

/-- Deleting makes one command, and takes its number of affected rows for whether the user was there. -/
theorem run_delete {id : UInt64} (hid : ¬User.maxId < id) :
    (delete id).run = .call (.exec (.deleteUser id)) fun r =>
      .done ((r.mapError (failure "delete user")).bind fun affected =>
        (affected.mapError (failure "rows affected")).bind fun n => if n == 0 then .error (.userAbsent id) else .ok ()) := by
  unfold delete
  rw [if_neg hid]
  show Program.call _ _ = _
  congr
  funext r
  cases r with
  | error f => rfl
  | ok affected =>
    cases affected with
    | error f => rfl
    | ok n =>
      show (if n == 0 then throw (Fault.userAbsent id) else pure () : Script Unit).run = _
      simp only [Except.mapError, Except.bind]
      split <;> rfl

/-- If a script fails, it refuses what it was asked for in one of the given ways, or something is wrong with the answer to one
of its calls and it says so. -/
def Traced {σ α : Type} (answer : (c : Call) → σ → c.Answer × σ) (s : σ) (p : Script α) (refusals : List Fault) : Prop :=
  ∀ e, (Program.run answer p.run s).1 = .error e →
    e ∈ refusals ∨ ∃ activity f, Meets answer (fun c s => Flaw c (answer c s).1 f) p.run s ∧ e = failure activity f

section Outcomes

variable {σ : Type} {answer : (c : Call) → σ → c.Answer × σ} {s : σ}

/-- A flaw in the answer to the first call is met. -/
theorem meets_flaw {α : Type} {c : Call} {next : c.Answer → Program Driver α} {x : c.Answer} {f : Fault}
    (hx : (answer c s).1 = x) (hf : Flaw c x f) :
    Meets (I := Driver) answer (fun c s => Flaw c (answer c s).1 f) (.call c next) s := by
  left
  show Flaw c (answer c s).1 f
  rw [hx]
  exact hf

/-- A search for one user succeeds exactly with what the answer to its query shows. -/
theorem findOne_eq_ok_iff {activity : Text} {q : Query} {o : Option User} :
    (Program.run answer (findOne activity q).run s).1 = .ok o ↔ Shows (answer (.query q) s).1 o := by
  rw [run_findOne, run_call]
  cases (answer (.query q) s).1 with
  | error f =>
    constructor
    · intro h
      cases h
    · intro h
      cases h
  | ok rs =>
    rw [← readFirst_eq_ok_iff]
    show (readFirst readUser rs).mapError (failure activity) = .ok o ↔ _
    cases readFirst readUser rs <;> simp [Except.mapError]

/-- If a search for one user fails, something was wrong with the answer to its query. -/
theorem findOne_traced (activity : Text) {q : Query}
    (hcheck : ∀ columns row, q.check columns row = (readUser columns row).map fun _ => ()) :
    Traced answer s (findOne activity q) [] := by
  intro e h
  right
  rw [run_findOne, run_call] at h
  rw [run_findOne]
  cases hr : (answer (.query q) s).1 with
  | error f =>
    rw [hr] at h
    cases h
    exact ⟨activity, f, meets_flaw hr .query, rfl⟩
  | ok rs =>
    rw [hr] at h
    cases hread : readFirst readUser rs with
    | ok o =>
      simp only [hread] at h
      cases h
    | error f =>
      simp only [hread] at h
      cases h
      have hflaw : Flaw (.query q) (.ok rs) f := flaw_of_readFirst (hcheck rs.columns) hread
      exact ⟨activity, f, meets_flaw hr hflaw, rfl⟩

/-- A look-up by id succeeds exactly with what the answer shows; an id out of range is nobody's. -/
theorem findById_eq_ok_iff {id : UInt64} {o : Option User} :
    (Program.run answer (findById id).run s).1 = .ok o ↔
      if User.maxId < id then o = none else Shows (answer (.query (.userById id)) s).1 o := by
  unfold findById
  split
  · show Except.ok none = .ok o ↔ o = none
    rw [Except.ok.injEq, eq_comm]
  · exact findOne_eq_ok_iff

/-- If a look-up by id fails, something was wrong with the answer to its query. -/
theorem findById_traced (id : UInt64) : Traced answer s (findById id) [] := by
  unfold findById
  split
  · intro e h
    cases h
  · exact findOne_traced _ fun _ _ => rfl

/-- A listing succeeds exactly with the users that the answer lists to its end. -/
theorem findAll_eq_ok_iff {us : List User} :
    (Program.run answer findAll.run s).1 = .ok us ↔ Lists (answer (.query .allUsers) s).1 us := by
  rw [run_findAll, run_call]
  cases (answer (.query .allUsers) s).1 with
  | error f =>
    constructor
    · intro h
      cases h
    · rintro ⟨rs, h, -⟩
      cases h
  | ok rs =>
    show readRows _ _ _ _ _ _ = .ok us ↔ _
    rw [readRows_eq_ok_iff]
    simp only [Lists, Nat.zero_add, Except.ok.injEq, exists_eq_left']

/-- If a listing fails, something was wrong with the answer to its query. -/
theorem findAll_traced : Traced answer s findAll [] := by
  intro e h
  right
  rw [run_findAll, run_call] at h
  rw [run_findAll]
  cases hr : (answer (.query .allUsers) s).1 with
  | error f =>
    rw [hr] at h
    cases h
    exact ⟨_, f, meets_flaw hr .query, rfl⟩
  | ok rs =>
    rw [hr] at h
    obtain ⟨i, hi, f, hf, rfl⟩ | ⟨row, hrow, f, hf, rfl⟩ := readRows_error h
    · rw [Nat.zero_add] at hf
      exact ⟨_, f, meets_flaw hr (.fetch hi hf), rfl⟩
    · exact ⟨_, f, meets_flaw hr (.of_unread hrow rfl hf), rfl⟩

variable (answer s) in
/-- How a deletion ends once the table's range allows the id. -/
theorem delete_cases {id : UInt64} (hid : ¬User.maxId < id) :
    (∃ f, (answer (.exec (.deleteUser id)) s).1 = .error f ∧
      (Program.run answer (delete id).run s).1 = .error (failure "delete user" f)) ∨
    (∃ f, (answer (.exec (.deleteUser id)) s).1 = .ok (.error f) ∧
      (Program.run answer (delete id).run s).1 = .error (failure "rows affected" f)) ∨
    (∃ n, (answer (.exec (.deleteUser id)) s).1 = .ok (.ok n) ∧
      (Program.run answer (delete id).run s).1 = if n = 0 then .error (.userAbsent id) else .ok ()) := by
  rw [run_delete hid, run_call]
  cases (answer (.exec (.deleteUser id)) s).1 with
  | error f => exact .inl ⟨f, rfl, rfl⟩
  | ok affected =>
    right
    cases affected with
    | error f => exact .inl ⟨f, rfl, rfl⟩
    | ok n =>
      refine .inr ⟨n, rfl, ?_⟩
      show (if n == 0 then Except.error (Fault.userAbsent id) else .ok ()) = _
      simp only [beq_iff_eq]

/-- Nobody has an id out of range, so it is absent for deleting without a call. -/
theorem delete_refused {id : UInt64} (hid : User.maxId < id) :
    (Program.run answer (delete id).run s).1 = .error (.userAbsent id) := by
  unfold delete
  rw [if_pos hid]
  rfl

/-- A user is said to be absent for deleting exactly if the id is out of range or the driver counted no row. -/
theorem delete_eq_absent_iff {id : UInt64} :
    (Program.run answer (delete id).run s).1 = .error (.userAbsent id) ↔
      User.maxId < id ∨ (answer (.exec (.deleteUser id)) s).1 = .ok (.ok 0) := by
  by_cases hid : User.maxId < id
  · exact iff_of_true (delete_refused hid) (.inl hid)
  · simp only [hid, false_or]
    obtain ⟨f, hr, hend⟩ | ⟨f, hr, hend⟩ | ⟨n, hr, hend⟩ := delete_cases answer s hid
    · simp [hr, hend, failure]
    · simp [hr, hend, failure]
    · rw [hr, hend]
      by_cases hn : n = 0 <;> simp [hn]

/-- If deleting fails, the user is absent or something was wrong with the answer to the command. -/
theorem delete_traced (id : UInt64) : Traced answer s (delete id) [.userAbsent id] := by
  intro e h
  by_cases hid : User.maxId < id
  · left
    rw [delete_refused hid] at h
    cases h
    exact List.mem_singleton_self _
  · have hmeets : ∀ {x f}, (answer (.exec (.deleteUser id)) s).1 = x → Flaw (.exec (.deleteUser id)) x f →
        Meets answer (fun c s => Flaw c (answer c s).1 f) (delete id).run s := by
      intro x f hx hf
      rw [run_delete hid]
      exact meets_flaw hx hf
    obtain ⟨f, hr, hend⟩ | ⟨f, hr, hend⟩ | ⟨n, hr, hend⟩ := delete_cases answer s hid
    · rw [hend] at h
      cases h
      exact .inr ⟨_, f, hmeets hr .exec, rfl⟩
    · rw [hend] at h
      cases h
      exact .inr ⟨_, f, hmeets hr .affected, rfl⟩
    · rw [hend] at h
      split at h
      · cases h
        exact .inl (List.mem_singleton_self _)
      · cases h

/-- The row of a user who has just been stored cannot be read back because it cannot be fetched, cannot be read, or is
missing. -/
theorem flaw_of_readCreated {id : UInt64} {rs : ResultSet} {f : Fault}
    (h : (readFirst readCreated rs).bind present = .error f) : Flaw (.query (.createdAt id)) (.ok rs) f := by
  cases hread : readFirst readCreated rs with
  | error g =>
    rw [hread] at h
    cases h
    exact flaw_of_readFirst (fun _ => rfl) hread
  | ok o =>
    rw [hread] at h
    cases o with
    | some created => cases h
    | none =>
      cases h
      refine .missing ?_
      obtain ⟨g, -, hend⟩ | ⟨-, ⟨hrows, -⟩ | ⟨row, rest, -, hend⟩⟩ := readFirst_cases readCreated rs
      · rw [hend] at hread
        cases hread
      · exact hrows
      · cases hrow : readCreated rs.columns row with
        | error g =>
          rw [hend, hrow] at hread
          cases hread
        | ok created =>
          rw [hend, hrow] at hread
          cases hread

/-- A user whose id is out of range is refused without a call. -/
theorem save_refused {u : User} (hid : User.maxId < u.id) :
    (Program.run answer (save u).run s).1 = .error (.idTooLarge u.id) := by
  rw [run_save, if_pos hid]
  rfl

/-- If saving a user in range fails, something was wrong with the answer to one of its calls. -/
theorem save_traced {u : User} (hid : ¬User.maxId < u.id) : Traced answer s (save u) [] := by
  intro e h
  right
  rw [run_save, if_neg hid] at h ⊢
  simp only [run_call, Meets] at h ⊢
  generalize (answer .now s).1 = now at h ⊢
  generalize (answer .now s).2 = t at h ⊢
  cases hstore : (answer (.exec (.upsertUser u now)) t).1 with
  | error f =>
    simp only [hstore] at h ⊢
    cases h
    exact ⟨_, f, .inr (.inl .exec), rfl⟩
  | ok n =>
    simp only [hstore, run_call, Meets] at h ⊢
    generalize (answer (.exec (.upsertUser u now)) t).2 = t' at h ⊢
    cases hback : (answer (.query (.createdAt u.id)) t').1 with
    | error f =>
      simp only [hback] at h ⊢
      cases h
      exact ⟨_, f, .inr (.inr (.inl .query)), rfl⟩
    | ok rs =>
      simp only [hback] at h ⊢
      cases hread : (readFirst readCreated rs).bind present with
      | ok created =>
        simp only [hread] at h
        cases h
      | error f =>
        simp only [hread] at h
        cases h
        exact ⟨_, f, .inr (.inr (.inl (flaw_of_readCreated hread))), rfl⟩

end Outcomes

/-! ## Scripted drivers -/

/-- The faults in an entry of a script. -/
def Scripted.faults : Scripted → List Fault
  | .query (.error f) | .exec (.error f) | .exec (.ok (.error f)) | .begin (.error f) | .commit (.error f)
  | .rollback (.error f) => [f]
  | .query (.ok rs) => (rs.broken.map Prod.snd).toList
  | .exec (.ok (.ok _)) | .begin (.ok _) | .commit (.ok _) | .rollback (.ok _) => []

/-- The driver fails for reasons of its own: for none of its faults a caller is to blame. Texts that it reports are such. -/
def OwnFaults (script : List Scripted) : Prop := ∀ entry ∈ script, ∀ f ∈ entry.faults, f.telling = false

/-- The fault at which a result breaks off is one of the faults of its entry. -/
theorem mem_faults_of_brokenAt {rs : ResultSet} {i : Nat} {f : Fault} (h : brokenAt rs.broken i = some f) :
    f ∈ (Scripted.query (.ok rs)).faults := by
  cases hbroken : rs.broken with
  | none =>
    rw [hbroken] at h
    cases h
  | some b =>
    obtain ⟨n, g⟩ := b
    rw [hbroken, brokenAt] at h
    split at h
    · cases h
      simp [Scripted.faults, hbroken]
    · cases h

/-- The entries that are left are entries of the script. -/
theorem follow_suffix (now : Timestamp) (c : Call) (script : List Scripted) : (follow now c script).2 <:+ script := by
  unfold follow
  split <;> simp only [List.suffix_cons, List.suffix_rfl]

/-- A query is answered by an entry of the script or not foreseen. -/
theorem follow_query (now : Timestamp) (q : Query) (script : List Scripted) :
    .query (follow now (.query q) script).1 ∈ script ∨ (follow now (.query q) script).1 = .error unforeseen := by
  cases script with
  | nil => exact .inr rfl
  | cons entry rest =>
    cases entry with
    | query a => exact .inl List.mem_cons_self
    | exec _ | begin _ | commit _ | rollback _ => exact .inr rfl

/-- A command is answered by an entry of the script or not foreseen. -/
theorem follow_exec (now : Timestamp) (c : Command) (script : List Scripted) :
    .exec (follow now (.exec c) script).1 ∈ script ∨ (follow now (.exec c) script).1 = .error unforeseen := by
  cases script with
  | nil => exact .inr rfl
  | cons entry rest =>
    cases entry with
    | exec a => exact .inl List.mem_cons_self
    | query _ | begin _ | commit _ | rollback _ => exact .inr rfl

namespace OwnFaults

variable {script : List Scripted} (h : OwnFaults script) {now : Timestamp}
include h

/-- What is left of such a script is such a script. -/
theorem follow (c : Call) : OwnFaults (Sql.follow now c script).2 := by
  intro entry hentry
  exact h entry ((follow_suffix now c script).subset hentry)

/-- Whatever is wrong with an answer from such a script, no caller is to blame for it. -/
theorem untold_of_flaw {c : Call} {f : Fault} (hf : Flaw c (Sql.follow now c script).1 f) : f.telling = false := by
  generalize hx : (Sql.follow now c script).1 = x at hf
  cases hf with
  | @query q f =>
    obtain hmem | hnone := follow_query now q script
    · rw [hx] at hmem
      exact h _ hmem f List.mem_cons_self
    · rw [hx] at hnone
      cases hnone
      rfl
  | @fetch q rs i f hi hbroken =>
    obtain hmem | hnone := follow_query now q script
    · rw [hx] at hmem
      exact h _ hmem f (mem_faults_of_brokenAt hbroken)
    · rw [hx] at hnone
      cases hnone
  | row hrow hcheck => exact blameless_check _ _ _ f hcheck
  | missing _ => rfl
  | @exec c f =>
    obtain hmem | hnone := follow_exec now c script
    · rw [hx] at hmem
      exact h _ hmem f List.mem_cons_self
    · rw [hx] at hnone
      cases hnone
      rfl
  | @affected c f =>
    obtain hmem | hnone := follow_exec now c script
    · rw [hx] at hmem
      exact h _ hmem f List.mem_cons_self
    · rw [hx] at hnone
      cases hnone

/-- The same of what is wrong with any answer in a whole run. -/
theorem untold_of_meets {α : Type} {p : Program Driver α} {f : Fault}
    (hm : Meets (Sql.follow now) (fun c s => Flaw c (Sql.follow now c s).1 f) p script) : f.telling = false := by
  by_contra htelling
  have hnever : ¬Meets (Sql.follow now) (fun c s => Flaw c (Sql.follow now c s).1 f) p script :=
    (only_true p).not_meets (K := OwnFaults) (fun c s _ hs => hs.follow c)
      (fun c s _ hs hflaw => htelling (hs.untold_of_flaw hflaw)) h
  exact hnever hm

end OwnFaults

/-- If a script fails, it refuses what it was asked for in one of the given ways, or it reports what is wrong with the answer
to one of its calls. -/
def Accounted {α : Type} (now : Timestamp) (script : List Scripted) (p : Script α) (refusals : List Fault) : Prop :=
  ∀ e, (Program.run (follow now) p.run script).1 = .error e →
    e ∈ refusals ∨ ∃ f, Meets (follow now) (fun c s => Flaw c (follow now c s).1 f) p.run script ∧ e.Reports f

/-- What can be traced to the answers of such a script is accounted for. -/
theorem Traced.accounted {α : Type} {now : Timestamp} {script : List Scripted} {p : Script α} {refusals : List Fault}
    (h : Traced (follow now) script p refusals) (hown : OwnFaults script) : Accounted now script p refusals := by
  intro e he
  obtain hrefusal | ⟨activity, f, hmeets, rfl⟩ := h e he
  · exact .inl hrefusal
  · exact .inr ⟨f, hmeets, Fault.reports_failure activity (hown.untold_of_meets hmeets)⟩

/-- What callers are told is one of the refusals. -/
theorem Accounted.mem_of_has {α : Type} {now : Timestamp} {script : List Scripted} {p : Script α} {refusals : List Fault}
    (h : Accounted now script p refusals) {e : Fault} (he : (Program.run (follow now) p.run script).1 = .error e) {k : Kind}
    (hk : k = .notFound ∨ k = .invalidInput) (hkind : e.has k = true) : e ∈ refusals := by
  obtain hrefusal | ⟨f, -, hreports⟩ := h e he
  · exact hrefusal
  · have htelling := Fault.telling_of_has hk hkind
    rw [hreports.untold] at htelling
    cases htelling

/-- A failure of the driver is never taken for an answer. A lookup reports nobody only if the query went well and gave no row, a
list has one user for each row, a deletion finds nobody only if no row was affected, and whatever else goes wrong is reported as
what it is. -/
theorem failures_never_look_like_data (now : Timestamp) (script : List Scripted) (hown : OwnFaults script) :
    (∀ id : UInt64,
      (∀ o, (Program.run (follow now) (findById id).run script).1 = .ok o ↔
        if User.maxId < id then o = none else Shows (follow now (.query (.userById id)) script).1 o) ∧
      Accounted now script (findById id) []) ∧
    (∀ email : Text,
      (∀ o, (Program.run (follow now) (findByEmail email).run script).1 = .ok o ↔
        Shows (follow now (.query (.userByEmail email)) script).1 o) ∧
      Accounted now script (findByEmail email) []) ∧
    ((∀ us, (Program.run (follow now) findAll.run script).1 = .ok us ↔ Lists (follow now (.query .allUsers) script).1 us) ∧
      Accounted now script findAll []) ∧
    (∀ id : UInt64,
      ((∃ e, (Program.run (follow now) (delete id).run script).1 = .error e ∧ e.has .notFound = true) ↔
        User.maxId < id ∨ (follow now (.exec (.deleteUser id)) script).1 = .ok (.ok 0)) ∧
      Accounted now script (delete id) [.userAbsent id]) ∧
    ∀ u : User,
      ((∃ e, (Program.run (follow now) (save u).run script).1 = .error e ∧ e.has .invalidInput = true) ↔
        User.maxId < u.id) ∧
      Accounted now script (save u) [.idTooLarge u.id] := by
  have hdelete (id : UInt64) : Accounted now script (delete id) [.userAbsent id] := (delete_traced id).accounted hown
  refine ⟨fun id => ⟨fun o => findById_eq_ok_iff, (findById_traced id).accounted hown⟩,
    fun email => ⟨fun o => findOne_eq_ok_iff, (findOne_traced _ fun _ _ => rfl).accounted hown⟩,
    ⟨fun us => findAll_eq_ok_iff, findAll_traced.accounted hown⟩, fun id => ⟨?_, hdelete id⟩, fun u => ?_⟩
  · rw [← delete_eq_absent_iff]
    constructor
    · rintro ⟨e, he, hkind⟩
      have hrefusal := (hdelete id).mem_of_has he (.inl rfl) hkind
      rw [List.mem_singleton] at hrefusal
      rw [he, hrefusal]
    · intro h
      exact ⟨_, h, rfl⟩
  · by_cases hid : User.maxId < u.id
    · have hend : (Program.run (follow now) (save u).run script).1 = .error (.idTooLarge u.id) := save_refused hid
      refine ⟨iff_of_true ⟨_, hend, rfl⟩ hid, fun e he => .inl ?_⟩
      rw [hend] at he
      cases he
      exact List.mem_singleton_self _
    · have hsave : Accounted now script (save u) [] := (save_traced hid).accounted hown
      refine ⟨iff_of_false ?_ hid, fun e he => .inr ((hsave e he).resolve_left List.not_mem_nil)⟩
      rintro ⟨e, he, hkind⟩
      exact List.not_mem_nil (hsave.mem_of_has he (.inr rfl) hkind)

/-- A list that breaks off where its second row should be fetched. -/
def tornList : List Scripted :=
  let row : List Datum :=
    [.int 1, .text "Ada", .text "ada@example.com", .text "admin", .bool true, .text "", .time .zero, .time .zero]
  [.query (.ok { columns := userColumns, rows := [row, row], broken := some (1, .reported "disk I/O error") })]

/-- Of such a list nothing is given, not even its first user. -/
theorem tornList_is_reported :
    OwnFaults tornList ∧ (∀ us, (Program.run (follow .zero) findAll.run tornList).1 ≠ .ok us) ∧
      ∃ e f, (Program.run (follow .zero) findAll.run tornList).1 = .error e ∧ e.Reports f := by
  have hown : OwnFaults tornList := by
    unfold OwnFaults
    decide +kernel
  obtain ⟨-, -, ⟨hlists, haccounted⟩, -⟩ := failures_never_look_like_data .zero tornList hown
  have hnever : ∀ us, (Program.run (follow .zero) findAll.run tornList).1 ≠ .ok us := by
    intro us hus
    obtain ⟨rs, hrs, hwhole, -⟩ := (hlists us).mp hus
    cases hrs
    have hbroken := hwhole 1 (by decide)
    cases hbroken
  refine ⟨hown, hnever, ?_⟩
  cases hend : (Program.run (follow .zero) findAll.run tornList).1 with
  | ok us => exact (hnever us hend).elim
  | error e =>
    obtain ⟨f, -, hreports⟩ := (haccounted e hend).resolve_left List.not_mem_nil
    exact ⟨e, f, rfl, hreports⟩

end Sql
end Roster
