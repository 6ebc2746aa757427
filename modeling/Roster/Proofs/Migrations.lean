import Roster.Proofs.DriverFailures
import Mathlib.Data.List.Nodup
import Mathlib.Data.List.Forall2

/-!
# Migrations are applied once

Setting up the tables may fail at any of its calls and be tried again, and users are saved and removed in between. Whatever
happens, a migration is recorded exactly if its statements have been committed, and none is committed twice: a migration and
its record stand in one transaction, and a transaction that is not committed has no effect.

All of this is for any files of one directory (`Listing`). There a file is looked up by the name it is recorded under; a file
in another directory would be recorded under its path and looked up by the last part of that.

Beside the tables a ledger is kept of what has been carried out, in the open transaction and for good. `Serves` says how a
driver may treat each call. What one migration does (`apply_keeps`) is carried to a list of them (`applyAll_keeps`), to a run
(`run_keeps`) and to all histories (`Later`).
-/

namespace Roster

open Program

/-! ## Ledgers -/

namespace Migration

/-- The tables, and beside them which migrations have been carried out: in the transaction that is open, and for good. -/
structure Ledger where
  db : Sql.Database := {}
  underway : List Text := []
  committed : List Text := []

namespace Ledger

/-- The recorded names. What an open transaction does is not there yet. -/
def recorded (l : Ledger) : List Text :=
  match l.db.saved with
  | some (_, names) => names.getD []
  | none => l.db.migrations.getD []

/-- The rows of the users. -/
def rows (l : Ledger) : List Sql.Row := l.db.users.getD []

/-- A command has been carried out and has left the given tables. Outside of a transaction it is committed at once. -/
def did (l : Ledger) (c : Sql.Command) (db : Sql.Database) : Ledger :=
  match c with
  | .migrate name =>
    if l.db.saved.isSome then { l with db, underway := l.underway ++ [name] }
    else { l with db, committed := l.committed ++ [name] }
  | _ => { l with db }

/-- A transaction starts. -/
def begin (l : Ledger) : Ledger := { l with db := l.db.begin, underway := [] }

/-- What has been carried out in the transaction becomes lasting. -/
def commit (l : Ledger) : Ledger := { db := l.db.commit, underway := [], committed := l.committed ++ l.underway }

/-- What has been carried out in the transaction is undone. -/
def rollback (l : Ledger) : Ledger := { l with db := l.db.rollback, underway := [] }

end Ledger

/-- How a driver may treat a call. Every call may fail. A query that is answered shows what is in the tables, though fetching
a row may fail. A command that is answered has been carried out; one that fails may have been. A transaction whose commit fails
has had no effect. -/
def Serves : (c : Sql.Call) → Ledger → c.Answer → Ledger → Prop
  | .query q, l, x, l' => l' = l ∧ ∀ rs, x = .ok rs → l.db.query q = .ok { rs with broken := none }
  | .exec c, l, x, l' => (∃ n db, l.db.exec c = (.ok n, db) ∧ l' = l.did c db) ∨ l' = l ∧ ∃ f, x = .error f
  | .begin, l, x, l' => x = .ok () ∧ l' = l.begin ∨ l' = l ∧ ∃ f, x = .error f
  | .commit, l, x, l' => x = .ok () ∧ l' = l.commit ∨ l' = l.rollback ∧ ∃ f, x = .error f
  | .rollback, l, _, l' => l' = l.rollback
  | .now, l, _, l' => l' = l
  | .log _, l, _, l' => l' = l

/-- The record is right: it names what has been committed, each migration once. -/
structure Right (l : Ledger) : Prop where
  recorded : l.recorded = l.committed
  nodup : l.committed.Nodup

/-- No transaction is open and the record is right. -/
structure Settled (l : Ledger) : Prop where
  closed : l.db.saved = none
  idle : l.underway = []
  recorded : l.db.migrations.getD [] = l.committed
  nodup : l.committed.Nodup

/-- A record that is right with no transaction open is right. -/
theorem Settled.right {l : Ledger} (h : Settled l) : Right l := by
  refine ⟨?_, h.nodup⟩
  rw [Ledger.recorded, h.closed]
  exact h.recorded

/-! ## One migration -/

/-- The calls that apply a migration. -/
theorem run_apply (name : Text) :
    (apply name).run = .call .begin fun
      | .error f => .done (.error (.during "begin transaction" f))
      | .ok _ => .call (.exec (.migrate name)) fun
        | .error f => .call .rollback fun _ => .done (.error (.during "execute sql" f))
        | .ok _ => .call (.exec (.recordMigration name)) fun
          | .error f => .call .rollback fun _ => .done (.error (.during "record migration" f))
          | .ok _ => .call .commit fun r => .done r := by
  show Program.call _ _ = _
  congr
  funext r
  cases r with
  | error f => rfl
  | ok _ =>
    show Program.call _ _ = _
    congr
    funext r
    cases r with
    | error f => rfl
    | ok _ =>
      show Program.call _ _ = _
      congr
      funext r
      cases r with
      | error f => rfl
      | ok _ => rfl

/-- The record is right, the users are as they were, and of the given migrations some have been committed, in order. -/
structure Progress (l : Ledger) (names : List Text) (t : Ledger) : Prop where
  right : Right t
  rows : t.rows = l.rows
  committed : ∃ before, before <+: names ∧ t.committed = l.committed ++ before

/-- The tables are set up to be tracked, no transaction is open, and the users are as they were. -/
structure Ready (l t : Ledger) : Prop where
  settled : Settled t
  table : t.db.migrations = some t.committed
  rows : t.rows = l.rows

/-- A transaction is open that was started in the given state, and the users are as they were. -/
structure Open (l t : Ledger) : Prop where
  saved : t.db.saved = some (l.db.users, l.db.migrations)
  committed : t.committed = l.committed
  rows : t.rows = l.rows

section Apply

variable {l t : Ledger} {name : Text}

/-- Where nothing has been committed since, none of the given migrations has been. -/
theorem Settled.progress (h : Settled t) (hrows : t.rows = l.rows) (hcommitted : t.committed = l.committed)
    (names : List Text) : Progress l names t := by
  refine ⟨h.right, hrows, [], List.nil_prefix, ?_⟩
  rw [hcommitted, List.append_nil]

/-- An open transaction has committed nothing. -/
theorem Open.progress (ho : Open l t) (h : Settled l) (names : List Text) : Progress l names t := by
  refine ⟨⟨?_, ?_⟩, ho.rows, [], List.nil_prefix, ?_⟩
  · rw [Ledger.recorded, ho.saved, ho.committed]
    exact h.recorded
  · rw [ho.committed]
    exact h.nodup
  · rw [ho.committed, List.append_nil]

/-- Going back undoes everything. -/
theorem Open.rollback (ho : Open l t) (h : Ready l l) : Ready l t.rollback ∧ t.rollback.committed = l.committed := by
  have hdb : t.db.rollback = { t.db with users := l.db.users, migrations := l.db.migrations, saved := none } := by
    rw [Sql.Database.rollback, ho.saved]
  have htable : t.rollback.db.migrations = some t.rollback.committed := by
    show t.db.rollback.migrations = some t.committed
    rw [hdb, ho.committed]
    exact h.table
  have hsettled : Settled t.rollback := by
    refine ⟨?_, rfl, ?_, ?_⟩
    · show t.db.rollback.saved = none
      rw [hdb]
    · rw [htable]
      rfl
    · show t.committed.Nodup
      rw [ho.committed]
      exact h.settled.nodup
  refine ⟨⟨hsettled, htable, ?_⟩, ho.committed⟩
  show t.db.rollback.users.getD [] = l.db.users.getD []
  rw [hdb]

/-- The statements of a migration, in a transaction. -/
theorem Open.serves_migrate (ho : Open l t) {x : Except Fault (Except Fault Int)} {t' : Ledger}
    (hs : Serves (.exec (.migrate name)) t x t') :
    Open l t' ∧ ∀ y, x = .ok y → t'.underway = t.underway ++ [name] ∧ t'.db.migrations = t.db.migrations := by
  obtain ⟨n, db, hexec, rfl⟩ | ⟨rfl, f, rfl⟩ := hs
  · have hdb : db = { t.db with users := some (t.db.users.getD []) } := (congrArg Prod.snd hexec).symm
    have hdid : t.did (.migrate name) db = { t with db, underway := t.underway ++ [name] } := by
      rw [Ledger.did, ho.saved]
      rfl
    rw [hdid, hdb]
    exact ⟨⟨ho.saved, ho.committed, ho.rows⟩, fun y _ => ⟨rfl, rfl⟩⟩
  · refine ⟨ho, ?_⟩
    intro y hy
    cases hy

/-- The statement that records a migration, in a transaction. -/
theorem Open.serves_record (ho : Open l t) {names : List Text} (htable : t.db.migrations = some names) (hnew : name ∉ names)
    {x : Except Fault (Except Fault Int)} {t' : Ledger} (hs : Serves (.exec (.recordMigration name)) t x t') :
    Open l t' ∧ ∀ y, x = .ok y → t'.underway = t.underway ∧ t'.db.migrations = some (names ++ [name]) := by
  obtain ⟨n, db, hexec, rfl⟩ | ⟨rfl, f, rfl⟩ := hs
  · have hcontains : names.contains name = false := by simpa using hnew
    have hdb : db = { t.db with migrations := some (names ++ [name]) } := by
      have hsnd := congrArg Prod.snd hexec
      simp only [Sql.Database.exec, Sql.Database.tracking, htable, hcontains, Bool.false_eq_true, if_false] at hsnd
      exact hsnd.symm
    have hdid : t.did (.recordMigration name) db = { t with db } := rfl
    rw [hdid, hdb]
    exact ⟨⟨ho.saved, ho.committed, ho.rows⟩, fun y _ => ⟨rfl, rfl⟩⟩
  · refine ⟨ho, ?_⟩
    intro y hy
    cases hy

/-- A migration that has been carried out and recorded is committed as a whole. -/
theorem Open.commit (ho : Open l t) (h : Ready l l) (hnew : name ∉ l.committed) (hunderway : t.underway = [name])
    (htable : t.db.migrations = some (l.committed ++ [name])) :
    Ready l t.commit ∧ t.commit.committed = l.committed ++ [name] := by
  have hcommitted : t.commit.committed = l.committed ++ [name] := by
    show t.committed ++ t.underway = _
    rw [ho.committed, hunderway]
  have htable' : t.commit.db.migrations = some t.commit.committed := by
    rw [hcommitted]
    exact htable
  refine ⟨⟨⟨rfl, rfl, ?_, ?_⟩, htable', ho.rows⟩, hcommitted⟩
  · rw [htable']
    rfl
  · rw [hcommitted, List.nodup_append_comm]
    exact List.nodup_cons.mpr ⟨hnew, h.settled.nodup⟩

/-- What comes of applying a migration: it is committed, or it fails and nothing has been done. -/
def Applied (l : Ledger) (name : Text) (r : Except Fault Unit) (t : Ledger) : Prop :=
  Ready l t ∧ (r = .ok () ∧ t.committed = l.committed ++ [name] ∨ (∃ f, r = .error f) ∧ t.committed = l.committed)

/-- A transaction that is rolled back fails, with nothing done. -/
theorem Open.fails (ho : Open l t) (h : Ready l l) (name : Text) (f : Fault) :
    Keeps (I := Sql.Driver) Serves (Progress l [name]) (.call .rollback fun _ => .done (.error f)) (Applied l name) t := by
  refine ⟨ho.progress h.settled _, ?_⟩
  rintro x t' rfl
  obtain ⟨hready, hcommitted⟩ := ho.rollback h
  exact ⟨hready.settled.progress hready.rows hcommitted _, hready, .inr ⟨⟨f, rfl⟩, hcommitted⟩⟩

/-- Applying a migration commits it or does nothing, and the record is right at every point. -/
theorem apply_keeps (h : Ready l l) (hnew : name ∉ l.committed) :
    Keeps Serves (Progress l [name]) (apply name).run (Applied l name) l := by
  have hstart : Progress l [name] l := h.settled.progress rfl rfl _
  rw [run_apply]
  refine ⟨hstart, ?_⟩
  rintro x t (⟨rfl, rfl⟩ | ⟨rfl, f, rfl⟩)
  swap
  · exact ⟨hstart, h, .inr ⟨⟨_, rfl⟩, rfl⟩⟩
  have hbegin : Open l l.begin := ⟨rfl, rfl, rfl⟩
  refine ⟨hbegin.progress h.settled _, ?_⟩
  intro x t hs
  obtain ⟨hmigrate, hcarried⟩ := hbegin.serves_migrate hs
  cases x with
  | error f => exact hmigrate.fails h name _
  | ok y =>
    obtain ⟨hunderway, htable⟩ := hcarried y rfl
    have htable : t.db.migrations = some l.committed := htable.trans h.table
    refine ⟨hmigrate.progress h.settled _, ?_⟩
    intro x t' hs
    obtain ⟨hrecord, hcarried⟩ := hmigrate.serves_record htable hnew hs
    cases x with
    | error f => exact hrecord.fails h name _
    | ok y =>
      obtain ⟨hunderway', htable'⟩ := hcarried y rfl
      refine ⟨hrecord.progress h.settled _, ?_⟩
      rintro x t'' (⟨rfl, rfl⟩ | ⟨rfl, f, rfl⟩)
      · obtain ⟨hready, hcommitted⟩ := hrecord.commit h hnew (hunderway'.trans hunderway) htable'
        exact ⟨⟨hready.settled.right, hready.rows, [name], List.prefix_rfl, hcommitted⟩, hready, .inl ⟨rfl, hcommitted⟩⟩
      · obtain ⟨hready, hcommitted⟩ := hrecord.rollback h
        exact ⟨hready.settled.progress hready.rows hcommitted _, hready, .inr ⟨⟨f, rfl⟩, hcommitted⟩⟩

end Apply

/-! ## A run -/

section Scripts

variable {α β : Type} {K : Ledger → Prop} {l : Ledger}

/-- A script goes on if its first part has succeeded. -/
theorem keeps_bind {s : Sql.Script α} {f : α → Sql.Script β} {Q : Except Fault β → Ledger → Prop}
    (h : Keeps Serves K s.run
      (fun r t => (∀ a, r = .ok a → Keeps Serves K (f a).run Q t) ∧ ∀ e, r = .error e → Q (.error e) t) l) :
    Keeps Serves K (s >>= f).run Q l := by
  refine Keeps.bind (h.mono (fun _ ht => ht) ?_)
  intro r t ht hr
  cases r with
  | ok a => exact hr.1 a rfl
  | error e => exact ⟨ht, hr.2 e rfl⟩

/-- Putting faults in other words keeps what is kept. -/
theorem keeps_attempt {activity : Text} {s : Sql.Script α} {Q : Except Fault α → Ledger → Prop}
    (h : Keeps Serves K s.run (fun r t => Q (r.mapError (.during activity)) t) l) :
    Keeps Serves K (attempt activity s).run Q l :=
  Keeps.bind (h.mono (fun _ ht => ht) fun _ _ ht hr => ⟨ht, hr⟩)

/-- An entry of the log changes nothing. -/
theorem keeps_log {entry : Log.Entry} {f : Unit → Sql.Script β} {Q : Except Fault β → Ledger → Prop}
    (h : Keeps Serves K (f ()).run Q l) : Keeps Serves K ((Sql.ask (.log entry) : Sql.Script Unit) >>= f).run Q l := by
  refine ⟨h.here, ?_⟩
  rintro ⟨⟩ t rfl
  exact h

/-- Noting what has been done changes nothing and does not fail. -/
theorem keeps_noteDone (hl : K l) (done names : List Text) :
    Keeps Serves K (noteDone done names).run (fun r t => r = .ok () ∧ t = l) l := by
  induction names with
  | nil => exact ⟨hl, rfl, rfl⟩
  | cons name rest ih =>
    unfold noteDone
    split
    · exact keeps_log ih
    · exact ih

/-- The recorded names are read as they are, or not at all. -/
theorem keeps_recorded (hl : K l) :
    Keeps Serves K recorded.run (fun r t => t = l ∧ ∀ names, r = .ok names → l.db.migrations = some names) l := by
  refine keeps_bind ⟨hl, ?_⟩
  rintro x t ⟨rfl, hx⟩
  refine ⟨hl, ?_, ?_⟩
  · rintro rs rfl
    refine ⟨hl, rfl, ?_⟩
    intro names hnames
    obtain ⟨-, hrows⟩ := Sql.readRows_eq_ok_iff.mp hnames
    have htable := hx rs rfl
    simp only [Sql.Database.query, Sql.Database.tracking] at htable
    cases hmigrations : t.db.migrations with
    | none =>
      rw [hmigrations] at htable
      cases htable
    | some names' =>
      rw [hmigrations] at htable
      have hset := Except.ok.inj htable
      have hcolumns : rs.columns = ["filename"] := (congrArg Sql.ResultSet.columns hset).symm
      have hshown : rs.rows = names'.map fun n => [.text n] := (congrArg Sql.ResultSet.rows hset).symm
      rw [hcolumns, hshown, List.forall₂_map_left_iff] at hrows
      have hsame : List.Forall₂ Eq names' names := hrows.imp fun n m hread => Except.ok.inj hread
      rw [List.forall₂_eq_eq_eq] at hsame
      rw [hsame]
  · rintro e rfl
    refine ⟨rfl, ?_⟩
    intro names hnames
    cases hnames

end Scripts

/-- How a list of migrations ends: those before some point are committed and those after it are not. It is the end of the list
unless there is a fault, and a fault that names a migration names one of those after it. -/
def Ended (l : Ledger) (names : List Text) (r : Except Fault Unit) (t : Ledger) : Prop :=
  Settled t ∧ t.rows = l.rows ∧ ∃ before after, names = before ++ after ∧ t.committed = l.committed ++ before ∧
    (r = .ok () → after = []) ∧ ∀ name f, r = .error (.during (utf8 "apply migration " ++ name) f) → name ∈ after

/-- After the first of a list has been committed, the progress of the rest is progress of the whole. -/
theorem Progress.cons {l t u : Ledger} {name : Text} {rest : List Text} (h : Progress t rest u) (hrows : t.rows = l.rows)
    (hcommitted : t.committed = l.committed ++ [name]) : Progress l (name :: rest) u := by
  obtain ⟨before, hbefore, hu⟩ := h.committed
  refine ⟨h.right, h.rows.trans hrows, name :: before, List.cons_prefix_cons.mpr ⟨rfl, hbefore⟩, ?_⟩
  rw [hu, hcommitted, List.append_assoc]
  rfl

/-- After the first of a list has been committed, the end of the rest is an end of the whole. -/
theorem Ended.cons {l t u : Ledger} {name : Text} {rest : List Text} {r : Except Fault Unit} (h : Ended t rest r u)
    (hrows : t.rows = l.rows) (hcommitted : t.committed = l.committed ++ [name]) : Ended l (name :: rest) r u := by
  obtain ⟨hsettled, hu, before, after, hrest, hdone, hend⟩ := h
  refine ⟨hsettled, hu.trans hrows, name :: before, after, ?_, ?_, hend⟩
  · rw [hrest]
    rfl
  · rw [hdone, hcommitted, List.append_assoc]
    rfl

/-- Progress depends on what has been committed and on the rows only. -/
theorem Progress.of_same {l t u : Ledger} {names : List Text} (h : Progress t names u) (hrows : t.rows = l.rows)
    (hcommitted : t.committed = l.committed) : Progress l names u := by
  obtain ⟨before, hbefore, hu⟩ := h.committed
  exact ⟨h.right, h.rows.trans hrows, before, hbefore, hcommitted ▸ hu⟩

/-- So does the end of a list. -/
theorem Ended.of_same {l t u : Ledger} {names : List Text} {r : Except Fault Unit} (h : Ended t names r u)
    (hrows : t.rows = l.rows) (hcommitted : t.committed = l.committed) : Ended l names r u := by
  obtain ⟨hsettled, hu, before, after, hnames, hdone, hend⟩ := h
  exact ⟨hsettled, hu.trans hrows, before, after, hnames, hcommitted ▸ hdone, hend⟩

/-- When the first of a list has been committed, the others are as new as before. -/
theorem new_of_cons {l t : Ledger} {name : Text} {rest : List Text} (hname : name ∉ rest)
    (hnew : ∀ other ∈ name :: rest, other ∉ l.committed) (hcommitted : t.committed = l.committed ++ [name]) :
    ∀ other ∈ rest, other ∉ t.committed := by
  intro other hother hmem
  rw [hcommitted, List.mem_append, List.mem_singleton] at hmem
  rcases hmem with hmem | rfl
  · exact hnew other (List.mem_cons_of_mem _ hother) hmem
  · exact hname hother

/-- Applying a list of migrations commits some of them, in order, and the record is right at every point. -/
theorem applyAll_keeps {names : List Text} (hnames : names.Nodup) {l : Ledger} (h : Ready l l)
    (hnew : ∀ name ∈ names, name ∉ l.committed) :
    Keeps Serves (Progress l names) (applyAll names).run (Ended l names) l := by
  induction names generalizing l with
  | nil =>
    refine ⟨h.settled.progress rfl rfl _, h.settled, rfl, [], [], rfl, (List.append_nil _).symm, fun _ => rfl, ?_⟩
    intro name f hr
    cases hr
  | cons name rest ih =>
    obtain ⟨hname, hrest⟩ := List.nodup_cons.mp hnames
    have happly := apply_keeps h (hnew name List.mem_cons_self)
    have hprefix : [name] <+: name :: rest := List.cons_prefix_cons.mpr ⟨rfl, List.nil_prefix⟩
    have hfirst : ∀ t, Progress l [name] t → Progress l (name :: rest) t := by
      intro t ht
      obtain ⟨before, hbefore, hcommitted⟩ := ht.committed
      exact ⟨ht.right, ht.rows, before, hbefore.trans hprefix, hcommitted⟩
    refine keeps_bind (keeps_attempt (happly.mono hfirst ?_))
    rintro r t - ⟨hready, ⟨rfl, hcommitted⟩ | ⟨⟨f, rfl⟩, hcommitted⟩⟩
    · refine ⟨?_, ?_⟩
      · rintro ⟨⟩ -
        have hready' : Ready t t := ⟨hready.settled, hready.table, rfl⟩
        refine keeps_log ((ih hrest hready' (new_of_cons hname hnew hcommitted)).mono ?_ ?_)
        · exact fun u hu => hu.cons hready.rows hcommitted
        · exact fun r u _ hend => hend.cons hready.rows hcommitted
      · intro e he
        cases he
    · refine ⟨?_, ?_⟩
      · intro a ha
        cases ha
      · rintro e he
        cases he
        refine ⟨hready.settled, hready.rows, [], name :: rest, rfl, ?_, ?_, ?_⟩
        · rw [hcommitted, List.append_nil]
        · intro hr
          cases hr
        · intro other g hr
          injection hr with hr
          injection hr with hactivity
          rw [← List.append_cancel_left hactivity]
          exact List.mem_cons_self

/-- A run that ends before it has come to any migration. -/
theorem Ended.of_none {l t : Ledger} (h : Settled t) (hrows : t.rows = l.rows) (hcommitted : t.committed = l.committed)
    (names : List Text) {activity : Text} (hactivity : activity.head? ≠ (utf8 "apply migration ").head?) (f : Fault) :
    Ended l names (.error (.during activity f)) t := by
  refine ⟨h, hrows, [], names, rfl, ?_, ?_, ?_⟩
  · rw [hcommitted, List.append_nil]
  · intro hr
    cases hr
  · intro name g hr
    injection hr with hr
    injection hr with hname
    have hhead : activity.head? = (utf8 "apply migration ").head? := by
      rw [hname, List.head?_append]
      rfl
    exact absurd hhead hactivity

/-! ### Files -/

/-- The names of files in one directory: no two are the same, and none is empty or has a slash. -/
structure Listing (files : List Text) : Prop where
  nodup : files.Nodup
  named : ∀ name ∈ files, name ≠ [] ∧ Text.byte '/' ∉ name

/-- The name of a file is the last part of its path if that has no other. -/
theorem base_of_named {name : Text} (hname : name ≠ []) (hslash : Text.byte '/' ∉ name) : base name = name := by
  have hfilled : name.isEmpty = false := List.isEmpty_eq_false_iff.mpr hname
  have hparts : ((Text.split (Text.byte '/') name).filter fun part => !part.isEmpty) = [name] := by
    rw [Text.split_of_notMem hslash, List.filter_cons_of_pos (by simpa using hname), List.filter_nil]
  rw [base, hfilled, hparts]
  rfl

section Files

variable {files : List Text} (hfiles : Listing files)
include hfiles

/-- No migration is pending twice. -/
theorem nodup_pending (done : Text → Bool) : (pending done files).Nodup :=
  ((List.mergeSort_perm files _).nodup_iff.mpr hfiles.nodup).filter _

/-- What is pending are the files that are not done. -/
theorem mem_pending_iff {done : List Text} {name : Text} : name ∈ pending done.contains files ↔ name ∈ files ∧ name ∉ done := by
  rw [pending, List.mem_filter, Text.sorted, List.mem_mergeSort]
  refine and_congr_right fun hname => ?_
  obtain ⟨hne, hslash⟩ := hfiles.named name hname
  rw [base_of_named hne hslash]
  simp

end Files

/-- Making sure that names can be recorded changes no names. -/
theorem Settled.serves_track {l t : Ledger} (h : Settled l) {x : Except Fault (Except Fault Int)}
    (hs : Serves (.exec .trackMigrations) l x t) :
    Settled t ∧ t.rows = l.rows ∧ t.committed = l.committed ∧ ∀ y, x = .ok y → t.db.migrations = some t.committed := by
  obtain ⟨n, db, hexec, rfl⟩ | ⟨rfl, f, rfl⟩ := hs
  · have hdb : db = { l.db with migrations := some (l.db.migrations.getD []) } := (congrArg Prod.snd hexec).symm
    have hdid : l.did .trackMigrations db = { l with db } := rfl
    rw [hdid, hdb]
    refine ⟨⟨h.closed, h.idle, h.recorded, h.nodup⟩, rfl, rfl, ?_⟩
    intro y _
    exact congrArg some h.recorded
  · refine ⟨h, rfl, rfl, ?_⟩
    intro y hy
    cases hy

/-- What is left of a run once names can be recorded. -/
theorem rest_keeps {files : List Text} (hfiles : Listing files) {l : Ledger} (h : Ready l l) :
    Keeps Serves (Progress l (pending l.committed.contains files))
      (do
        let done ← attempt "get applied migrations" recorded
        noteDone done (Text.sorted files)
        applyAll (pending done.contains files) : Sql.Script Unit).run
      (Ended l (pending l.committed.contains files)) l := by
  have hstart : Progress l (pending l.committed.contains files) l := h.settled.progress rfl rfl _
  refine keeps_bind (keeps_attempt ((keeps_recorded hstart).mono (fun _ ht => ht) ?_))
  rintro r t - ⟨rfl, hread⟩
  cases r with
  | error f =>
    refine ⟨?_, ?_⟩
    · intro done hdone
      cases hdone
    · intro e he
      cases he
      exact .of_none h.settled rfl rfl _ (by decide +kernel) f
  | ok done =>
    have hdone : t.committed = done := Option.some.inj (h.table.symm.trans (hread done rfl))
    refine ⟨?_, ?_⟩
    · intro done' hdone'
      cases hdone'
      rw [← hdone]
      refine keeps_bind ((keeps_noteDone hstart _ _).mono (fun _ ht => ht) ?_)
      rintro r u - ⟨rfl, rfl⟩
      refine ⟨?_, ?_⟩
      · rintro ⟨⟩ -
        exact applyAll_keeps (nodup_pending hfiles _) h fun name hname => ((mem_pending_iff hfiles).mp hname).2
      · intro e he
        cases he
    · intro e he
      cases he

/-- A run commits some of the pending migrations, in order, and the record is right at every point. -/
theorem run_keeps {files : List Text} (hfiles : Listing files) {l : Ledger} (h : Settled l) :
    Keeps Serves (Progress l (pending l.committed.contains files)) (run files).run
      (Ended l (pending l.committed.contains files)) l := by
  refine keeps_bind (keeps_attempt ⟨h.progress rfl rfl _, ?_⟩)
  intro x t hs
  obtain ⟨hsettled, hrows, hcommitted, htable⟩ := h.serves_track hs
  refine ⟨hsettled.progress hrows hcommitted _, ?_, ?_⟩
  · intro y hy
    cases x with
    | error f => cases hy
    | ok z =>
      have hready : Ready t t := ⟨hsettled, htable z rfl, rfl⟩
      have hrest := rest_keeps hfiles hready
      rw [hcommitted] at hrest
      exact hrest.mono (fun u hu => hu.of_same hrows hcommitted) fun r u _ hend => hend.of_same hrows hcommitted
  · intro e he
    cases x with
    | ok y => cases he
    | error f =>
      cases he
      exact .of_none hsettled hrows hcommitted _ (by decide +kernel) f

/-! ## Histories -/

/-- What is done to the tables: migrations are run, users are saved, and users are removed. -/
inductive Event where
  | migrate
  | save (u : User)
  | delete (id : UInt64)

def Event.script (files : List Text) : Event → Program Sql.Driver (Except Fault Unit)
  | .migrate => (run files).run
  | .save u => (Sql.save u).run.bind fun r => .done (r.map fun _ => ())
  | .delete id => (Sql.delete id).run

/-- The second state comes after the first one: any number of events have taken place, with any failures. -/
inductive Later (files : List Text) (l : Ledger) : Ledger → Prop where
  | now : Later files l l
  | after {event : Event} {m m' : Ledger} {r : Except Fault Unit} :
      Later files l m → Runs Serves (event.script files) m r m' → Later files l m'

/-- A point in the course of an event that takes place later. -/
def Sometime (files : List Text) (l p : Ledger) : Prop :=
  ∃ (m : Ledger) (event : Event), Later files l m ∧ Passes Serves (event.script files) m p

/-- Users come and go without a trace in the record. -/
theorem serves_changesOnly {id : UInt64} {c : Sql.Call} (hc : c.changesOnly id) {l t : Ledger} {x : c.Answer} (h : Settled l)
    (hs : Serves c l x t) : Settled t ∧ t.committed = l.committed := by
  have hsame : ∀ {db : Sql.Database}, Sql.Database.SameExcept id l.db db → Settled { l with db } := by
    intro db hdb
    refine ⟨hdb.saved.trans h.closed, h.idle, ?_, h.nodup⟩
    rw [hdb.migrations]
    exact h.recorded
  cases c with
  | query q =>
    obtain ⟨rfl, -⟩ := hs
    exact ⟨h, rfl⟩
  | now | log _ =>
    obtain rfl := hs
    exact ⟨h, rfl⟩
  | exec c =>
    obtain ⟨n, db, hexec, rfl⟩ | ⟨rfl, -⟩ := hs
    · have hdb : (l.db.exec c).2 = db := congrArg Prod.snd hexec
      cases c with
      | upsertUser u now =>
        obtain rfl : u.id = id := hc
        rw [← hdb]
        exact ⟨hsame (Sql.Database.sameExcept_upsert l.db u now), rfl⟩
      | deleteUser i =>
        obtain rfl : i = id := hc
        rw [← hdb]
        exact ⟨hsame (Sql.Database.sameExcept_delete l.db i), rfl⟩
      | trackMigrations | migrate _ | recordMigration _ => exact hc.elim
    · exact ⟨h, rfl⟩
  | begin | commit | rollback => exact hc.elim

section Histories

variable {files : List Text} (hfiles : Listing files)
include hfiles

/-- What holds at every point of an event, and at its end. -/
theorem event_keeps {l : Ledger} (h : Settled l) (event : Event) :
    Keeps Serves
      (fun t => Right t ∧ (event = .migrate → t.rows = l.rows) ∧
        ∃ before, before <+: pending l.committed.contains files ∧ t.committed = l.committed ++ before)
      (event.script files) (fun _ t => Settled t) l := by
  have husers : ∀ {id : UInt64} {p : Program Sql.Driver (Except Fault Unit)}, Only (Sql.Call.changesOnly id) p →
      Keeps Serves (fun t => Settled t ∧ t.committed = l.committed) p (fun _ t => Settled t ∧ t.committed = l.committed) l := by
    intro id p hp
    refine hp.keeps ?_ ⟨h, rfl⟩
    rintro c s x t hc ⟨hs, hcommitted⟩ hserves
    obtain ⟨ht, hsame⟩ := serves_changesOnly hc hs hserves
    exact ⟨ht, hsame.trans hcommitted⟩
  cases event with
  | migrate =>
    exact (run_keeps hfiles h).mono (fun t ht => ⟨ht.right, fun _ => ht.rows, ht.committed⟩) fun r t _ hend => hend.1
  | save u =>
    have honly : Only (Sql.Call.changesOnly u.id) ((Event.save u).script files) := (Sql.only_save u).bind fun _ => trivial
    refine (husers honly).mono ?_ fun r t _ ht => ht.1
    rintro t ⟨ht, hcommitted⟩
    refine ⟨ht.right, Event.noConfusion, [], List.nil_prefix, ?_⟩
    rw [hcommitted, List.append_nil]
  | delete id =>
    refine (husers (Sql.only_delete id)).mono ?_ fun r t _ ht => ht.1
    rintro t ⟨ht, hcommitted⟩
    refine ⟨ht.right, Event.noConfusion, [], List.nil_prefix, ?_⟩
    rw [hcommitted, List.append_nil]

/-- Whatever happens, no transaction is left open and the record stays right. -/
theorem Later.settled {l m : Ledger} (hl : Later files l m) (h : Settled l) : Settled m := by
  induction hl with
  | now => exact h
  | after _ hr ih => exact (event_keeps hfiles ih _).of_runs hr

/-- Once nothing is pending, nothing is committed any more. -/
theorem Sometime.committed {l p : Ledger} (hp : Sometime files l p) (h : Settled l)
    (hpending : pending l.committed.contains files = []) : p.committed = l.committed := by
  have hstep : ∀ {m q : Ledger} {event : Event}, Settled m → m.committed = l.committed →
      Passes Serves (event.script files) m q → q.committed = l.committed := by
    intro m q event hm hcommitted hq
    obtain ⟨-, -, before, hbefore, hdone⟩ := (event_keeps hfiles hm event).of_passes hq
    rw [hcommitted, hpending, List.prefix_nil] at hbefore
    rw [hdone, hbefore, List.append_nil, hcommitted]
  have hlater : ∀ {m : Ledger}, Later files l m → m.committed = l.committed := by
    intro m hm
    induction hm with
    | now => rfl
    | after hm hr ih => exact hstep (hm.settled hfiles h) ih hr.passes
  obtain ⟨m, event, hm, hpasses⟩ := hp
  exact hstep (hm.settled hfiles h) (hlater hm) hpasses

end Histories

/-- At the start nothing has been committed, and nothing is recorded. -/
theorem settled_start : Settled {} := ⟨rfl, rfl, rfl, List.nodup_nil⟩

/-! ## Runs that succeed -/

section Success

variable {α β : Type} {l t u : Ledger}

/-- Two scripts that may run so may do so one after the other. -/
theorem runs_bind {s : Sql.Script α} {f : α → Sql.Script β} {a : α} {r : Except Fault β} (hs : Runs Serves s.run l (.ok a) t)
    (hf : Runs Serves (f a).run t r u) : Runs Serves (s >>= f).run l r u :=
  Runs.bind hs hf

/-- A script that may succeed may do so also where its faults are put in other words. -/
theorem runs_attempt {s : Sql.Script α} {a : α} (hs : Runs Serves s.run l (.ok a) t) (activity : Text) :
    Runs Serves (attempt activity s).run l (.ok a) t :=
  Runs.bind hs (.done _ _)

/-- A note in the log is always possible. -/
theorem runs_log (entry : Log.Entry) {f : Unit → Sql.Script β} {r : Except Fault β} (hf : Runs Serves (f ()).run l r t) :
    Runs Serves ((Sql.ask (.log entry) : Sql.Script Unit) >>= f).run l r t := by
  have hlog : Serves (.log entry) l () l := rfl
  exact .call hlog hf

/-- What has been done can always be noted. -/
theorem runs_noteDone (done names : List Text) : Runs Serves (noteDone done names).run l (.ok ()) l := by
  induction names with
  | nil => exact .done _ _
  | cons name rest ih =>
    unfold noteDone
    split
    · exact runs_log _ ih
    · exact ih

/-- The recorded names can be read. -/
theorem runs_recorded {names : List Text} (h : l.db.migrations = some names) : Runs Serves recorded.run l (.ok names) l := by
  have hquery : l.db.query .migrations = .ok { columns := ["filename"], rows := names.map fun n => [.text n] } := by
    simp only [Sql.Database.query, Sql.Database.tracking, h]
    rfl
  have hserves : Serves (.query .migrations) l (.ok { columns := ["filename"], rows := names.map fun n => [.text n] }) l := by
    refine ⟨rfl, ?_⟩
    intro rs hrs
    cases hrs
    exact hquery
  have hread : Sql.readRows (readName ["filename"]) id id none 0 (names.map fun n => [.text n]) = .ok names := by
    rw [Sql.readRows_eq_ok_iff, List.forall₂_map_left_iff]
    exact ⟨fun _ _ => rfl, List.forall₂_same.mpr fun n _ => rfl⟩
  have hend : Runs (I := Sql.Driver) Serves
      (.done (Sql.readRows (readName ["filename"]) id id none 0 (names.map fun n => [.text n]))) l (.ok names) l := by
    rw [hread]
    exact .done _ _
  exact .call hserves hend

/-- A migration that is not recorded can be carried out up to its commit, which may go either way. -/
theorem runs_apply (h : Ready l l) {name : Text} (hnew : name ∉ l.committed) (r : Except Fault Unit) :
    ∃ t, Runs Serves (apply name).run l r t := by
  have hcontains : l.committed.contains name = false := by simpa using hnew
  have hbegin : Serves .begin l (.ok ()) l.begin := .inl ⟨rfl, rfl⟩
  have hmigrate : Serves (.exec (.migrate name)) l.begin (.ok (.ok 0))
      (l.begin.did (.migrate name) (l.begin.db.exec (.migrate name)).2) := .inl ⟨0, _, rfl, rfl⟩
  generalize hu : l.begin.did (.migrate name) (l.begin.db.exec (.migrate name)).2 = u at hmigrate
  have htable : u.db.migrations = some l.committed := by
    rw [← hu]
    exact h.table
  have hrecord : Serves (.exec (.recordMigration name)) u (.ok (.ok 1))
      (u.did (.recordMigration name) { u.db with migrations := some (l.committed ++ [name]) }) := by
    refine .inl ⟨1, _, ?_, rfl⟩
    simp only [Sql.Database.exec, Sql.Database.tracking, htable, hcontains, Bool.false_eq_true, if_false]
  have hcommit (v : Ledger) : ∃ t, Serves .commit v r t := by
    cases r with
    | ok _ => exact ⟨v.commit, .inl ⟨rfl, rfl⟩⟩
    | error f => exact ⟨v.rollback, .inr ⟨rfl, f, rfl⟩⟩
  obtain ⟨t, ht⟩ := hcommit _
  rw [run_apply]
  exact ⟨t, .call hbegin (.call hmigrate (.call hrecord (.call ht (.done _ _))))⟩

/-- Migrations that are new can all be applied. -/
theorem runs_applyAll {names : List Text} (hnames : names.Nodup) (h : Ready l l) (hnew : ∀ name ∈ names, name ∉ l.committed) :
    ∃ t, Runs Serves (applyAll names).run l (.ok ()) t := by
  induction names generalizing l with
  | nil => exact ⟨l, .done _ _⟩
  | cons name rest ih =>
    obtain ⟨hname, hrest⟩ := List.nodup_cons.mp hnames
    have hfirst : name ∉ l.committed := hnew name List.mem_cons_self
    obtain ⟨t, ht⟩ := runs_apply h hfirst (.ok ())
    obtain ⟨hready, ⟨-, hcommitted⟩ | ⟨⟨f, hf⟩, -⟩⟩ := (apply_keeps h hfirst).of_runs ht
    · obtain ⟨u, hu⟩ := ih hrest ⟨hready.settled, hready.table, rfl⟩ (new_of_cons hname hnew hcommitted)
      exact ⟨u, runs_bind (runs_attempt ht _) (runs_log _ hu)⟩
    · cases hf

/-- However often setting up the tables has failed before, it can succeed. -/
theorem exists_run_ok {files : List Text} (hfiles : Listing files) (h : Settled l) :
    ∃ t, Runs Serves (run files).run l (.ok ()) t := by
  have htrack : Serves (.exec .trackMigrations) l (.ok (.ok 0)) (l.did .trackMigrations (l.db.exec .trackMigrations).2) :=
    .inl ⟨0, _, rfl, rfl⟩
  obtain ⟨hsettled, -, -, htable⟩ := h.serves_track htrack
  generalize l.did .trackMigrations (l.db.exec .trackMigrations).2 = t at htrack hsettled htable
  have hready : Ready t t := ⟨hsettled, htable _ rfl, rfl⟩
  obtain ⟨u, hu⟩ := runs_applyAll (nodup_pending hfiles t.committed.contains) hready fun name hname =>
    ((mem_pending_iff hfiles).mp hname).2
  have hask : Runs Serves (attempt "ensure migrations table" (ExceptT.mk (Sql.ask (.exec .trackMigrations)))).run l
      (.ok (.ok 0)) t := runs_attempt (.call htrack (.done _ _)) _
  exact ⟨u, runs_bind hask (runs_bind (runs_attempt (runs_recorded hready.table) _) (runs_bind (runs_noteDone _ _) hu))⟩

end Success

/-! ## The record -/

/-- A run that has come to its end leaves nothing pending. -/
theorem pending_append {files : List Text} (hfiles : Listing files) (done : List Text) :
    pending (done ++ pending done.contains files).contains files = [] := by
  rw [List.eq_nil_iff_forall_not_mem]
  intro name hname
  obtain ⟨hmem, hnew⟩ := (mem_pending_iff hfiles).mp hname
  obtain ⟨hdone, hpending⟩ := not_or.mp (mt List.mem_append.mpr hnew)
  exact hpending ((mem_pending_iff hfiles).mpr ⟨hmem, hdone⟩)

/-- For any files of one directory: whatever has failed before, a migration is recorded exactly if it has been committed, and
none is committed twice. A run leaves the users alone. If it fails at a migration, that one is not recorded; if it succeeds, none
is pending and nothing is committed ever after. And it can succeed. -/
theorem migrations_applied_once {files : List Text} (hfiles : Listing files) {l : Ledger} (h : Later files {} l) :
    (∀ (event : Event) (p : Ledger), Passes Serves (event.script files) l p →
      p.recorded = p.committed ∧ p.committed.Nodup ∧ (event = .migrate → p.rows = l.rows)) ∧
    (∃ t, Runs Serves (run files).run l (.ok ()) t) ∧
    ∀ r t, Runs Serves (run files).run l r t →
      (∀ name f, r = .error (.during (utf8 "apply migration " ++ name) f) → name ∉ t.recorded) ∧
      (r = .ok () → pending t.recorded.contains files = [] ∧ ∀ p, Sometime files t p → p.committed = t.committed) := by
  have hsettled : Settled l := h.settled hfiles settled_start
  refine ⟨?_, exists_run_ok hfiles hsettled, ?_⟩
  · intro event p hp
    obtain ⟨hright, hrows, -⟩ := (event_keeps hfiles hsettled event).of_passes hp
    exact ⟨hright.recorded, hright.nodup, hrows⟩
  · intro r t hr
    obtain ⟨ht, -, before, after, hsplit, hcommitted, hok, herror⟩ := (run_keeps hfiles hsettled).of_runs hr
    rw [ht.right.recorded]
    constructor
    · intro name f hf hmem
      have hafter : name ∈ after := herror name f hf
      rw [hcommitted, List.mem_append] at hmem
      rcases hmem with hmem | hmem
      · have hpending : name ∈ pending l.committed.contains files := hsplit ▸ List.mem_append_right before hafter
        exact ((mem_pending_iff hfiles).mp hpending).2 hmem
      · have hnodup := nodup_pending hfiles l.committed.contains
        rw [hsplit] at hnodup
        exact (List.nodup_append.mp hnodup).2.2 name hmem name hafter rfl
    · intro hr
      have hnone : pending t.committed.contains files = [] := by
        rw [hok hr, List.append_nil] at hsplit
        rw [hcommitted, ← hsplit]
        exact pending_append hfiles l.committed
      exact ⟨hnone, fun p hp => hp.committed hfiles ht hnone⟩

/-- The files that come with the program are in one directory. -/
theorem listing_all : Listing all := ⟨by decide +kernel, by decide +kernel⟩

/-- With the file that comes with the program, the first run may carry the migration out, record it, and fail to commit. Then
nothing is recorded, and a second run applies the migration. -/
theorem uncommitted_migration_applied_later :
    ∃ (l : Ledger) (f : Fault),
      Runs Serves run.run {} (.error (.during (utf8 "apply migration " ++ utf8 "001_create_users.sql") f)) l ∧
      utf8 "001_create_users.sql" ∉ l.recorded ∧
      ∃ t, Runs Serves run.run l (.ok ()) t ∧ utf8 "001_create_users.sql" ∈ t.recorded := by
  let tracked : Ledger := { db := { migrations := some [] } }
  have htrack : Serves (.exec .trackMigrations) {} (.ok (.ok 0)) tracked := .inl ⟨0, _, rfl, rfl⟩
  have hensure : Runs Serves (attempt "ensure migrations table" (ExceptT.mk (Sql.ask (.exec .trackMigrations)))).run {}
      (.ok (.ok 0)) tracked := runs_attempt (.call htrack (.done _ _)) _
  have hready : Ready tracked tracked := ⟨⟨rfl, rfl, rfl, List.nodup_nil⟩, rfl, rfl⟩
  have hnew : utf8 "001_create_users.sql" ∉ tracked.committed := List.not_mem_nil
  obtain ⟨l, hl⟩ := runs_apply hready hnew (.error (.reported "disk I/O error"))
  have hpending : pending [].contains = [utf8 "001_create_users.sql"] := by
    rw [pending, Text.sorted, all, List.mergeSort_singleton]
    decide +kernel
  have hrun : Runs Serves run.run {}
      (.error (.during (utf8 "apply migration " ++ utf8 "001_create_users.sql") (.reported "disk I/O error"))) l := by
    refine runs_bind hensure (runs_bind (runs_attempt (runs_recorded rfl) _) (runs_bind (runs_noteDone _ _) ?_))
    rw [hpending]
    exact Runs.bind (Runs.bind hl (.done _ _)) (.done _ _)
  have hevent : Runs Serves (Event.migrate.script all) {} _ l := hrun
  obtain ⟨-, -, hfirst⟩ := migrations_applied_once listing_all (.now : Later all {} {})
  obtain ⟨-, ⟨t, ht⟩, hsecond⟩ := migrations_applied_once listing_all (.after .now hevent)
  refine ⟨l, _, hrun, (hfirst _ l hrun).1 _ _ rfl, t, ht, ?_⟩
  by_contra hnone
  have hleft : utf8 "001_create_users.sql" ∈ pending t.recorded.contains :=
    (mem_pending_iff listing_all).mpr ⟨by decide +kernel, hnone⟩
  rw [((hsecond _ t ht).2 rfl).1] at hleft
  exact List.not_mem_nil hleft

end Migration
end Roster
