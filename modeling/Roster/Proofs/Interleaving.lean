import Roster.Proofs.Operations

/-!
# Programs side by side

Several programs share a world; a schedule says whose turn it is, and each turn is one call (`System`). A program that
carries out a change of one user is described by its phase: it has not touched the store, it has read the record, or it has
written it (`Phase`, `Follows`). What a call of it can do to its phase and to the record is said once (`Moves`), and from
that follows what it makes of the record on its own (`Phase.Alone`) and beside another (`History`).
-/

namespace Roster

open Program
open scoped List

/-! ## Programs side by side -/

/-- What happens next while programs run side by side: time passes, or one of them makes its next call. -/
inductive Turn where
  | pass (d : Span)
  | move (i : Nat)

/-- Programs side by side in one world, and the calls made so far, each with the number of its program. -/
structure System (α : Type) where
  threads : List (Act α)
  world : World
  trace : List (Nat × Call) := []

namespace System

variable {α : Type}

/-- Lets time pass or the named program make its next call; a program that has ended makes none. -/
def turn (S : System α) : Turn → System α
  | .pass d => { S with world := S.world.advance d }
  | .move i =>
    match S.threads[i]? with
    | some (.call c next) =>
      { threads := S.threads.set i (next (World.answer c S.world).1)
        world := (World.answer c S.world).2
        trace := S.trace ++ [(i, c)] }
    | _ => S

/-- A program whose turn it is has ended, or makes one call. -/
theorem turn_move (S : System α) (i : Nat) :
    S.turn (.move i) = S ∨ ∃ c next, S.threads[i]? = some (.call c next) ∧
      S.turn (.move i) =
        ⟨S.threads.set i (next (World.answer c S.world).1), (World.answer c S.world).2, S.trace ++ [(i, c)]⟩ := by
  rw [turn]
  split
  next c next h => exact Or.inr ⟨c, next, h, rfl⟩
  next => exact Or.inl rfl

/-- Follows a schedule. -/
def run (S : System α) (turns : List Turn) : System α := turns.foldl turn S

/-- Whether every program has ended without a fault. -/
def succeeded {ε : Type} (S : System (Except ε α)) : Bool :=
  S.threads.all fun
    | .done (.ok _) => true
    | _ => false

/-- Where every program has succeeded, each has come to an end with a value. -/
theorem ended_of_succeeded {ε : Type} {S : System (Except ε α)} (h : S.succeeded = true) {p : Act (Except ε α)}
    (hp : p ∈ S.threads) : ∃ a, p = .done (.ok a) := by
  have hend := List.all_eq_true.1 h p hp
  split at hend
  next a => exact ⟨a, rfl⟩
  next => cases hend

/-- What every turn keeps, every schedule keeps. -/
theorem run_keeps {K : System α → Prop} (hk : ∀ S t, K S → K (S.turn t)) (turns : List Turn) {S : System α} (hs : K S) :
    K (S.run turns) := by
  induction turns generalizing S with
  | nil => exact hs
  | cons t rest ih => exact ih (hk S t hs)

end System

/-! ## Records -/

/-- A user without its timestamps. -/
def User.timeless (u : User) : User := { u with createdAt := .zero, updatedAt := .zero }

/-- What is stored under an id, timestamps aside. -/
def Store.Memory.record (m : Store.Memory) (id : UInt64) : Option User := (m.find? id).map User.timeless

/-- What is stored under an id in memory, timestamps aside. -/
def World.record (w : World) (id : UInt64) : Option User :=
  match w.storage with
  | .memory m => m.record id
  | .database _ => none

/-- A user that is saved is on record under its id, up to its times. -/
theorem Store.Memory.record_save (m : Store.Memory) (now : Timestamp) (u : User) :
    (m.save now u).2.record u.id = some u.timeless := by
  rw [record, find?_save_self]
  rfl

/-- A world with users in memory, none of whose operations on single users has been made to fail. -/
structure World.Works (w : World) (m : Store.Memory) : Prop where
  storage : w.storage = .memory m
  findById : w.failure? .findById = none
  save : w.failure? .save = none
  delete : w.failure? .delete = none

namespace World.Works

variable {w : World} {m : Store.Memory}

/-- Where the store works, the record is the one in memory. -/
theorem record (h : w.Works m) (id : UInt64) : w.record id = m.record id := by
  rw [World.record, h.storage]

/-- The store still works after some time. -/
theorem advance (h : w.Works m) (d : Span) : (w.advance d).Works m := ⟨h.storage, h.findById, h.save, h.delete⟩

/-- A call leaves the operations working. -/
theorem answer (h : w.Works m) (c : Call) {m' : Store.Memory} (hs : (World.answer c w).2.storage = .memory m') :
    (World.answer c w).2.Works m' := by
  have hf : ∀ p, (World.answer c w).2.failure? p = w.failure? p := fun p => by
    rw [failure?, answer_failing, failure?]
  exact ⟨hs, (hf _).trans h.findById, (hf _).trans h.save, (hf _).trans h.delete⟩

end World.Works

/-! ## Phases of a change -/

/-- How far a program has come that changes the record of one id: it has not touched the store, it has read the record, it
has written, or the store has refused it. -/
inductive Phase where
  | fresh
  | seen (x : Option User)
  | wrote
  | failed

/-- What a change makes of the record of its id, unless it finds a reason not to. -/
abbrev Effect := Option User → Option (Option User)

/-- The record after a change. -/
def Effect.apply (e : Effect) (x : Option User) : Option User := (e x).getD x

theorem Effect.apply_of_some {e : Effect} {x y : Option User} (h : e x = some y) : e.apply x = y := by
  rw [apply, h, Option.getD_some]

theorem Effect.apply_of_none {e : Effect} {x : Option User} (h : e x = none) : e.apply x = x := by
  rw [apply, h, Option.getD_none]

namespace Phase

/-- The phase after a call has been answered. -/
def after (φ : Phase) : (c : Call) → c.Answer → Phase
  | .findById _, .ok o => .seen (o.map User.timeless)
  | .save _, .ok _ | .delete _, .ok _ => .wrote
  | .findById _, .error _ | .save _, .error _ | .delete _, .error _ => .failed
  | _, _ => φ

/-- The calls that carry out an effect: the record is read once and then written as the effect says, or it is removed, if
the effect is to remove it. -/
def allows (e : Effect) (id : UInt64) : Phase → Call → Prop
  | .fresh, .findById i => i = id
  | .fresh, .delete i => i = id ∧ ∀ x, e x = some none
  | .seen x, .save u => u.id = id ∧ e x = some (some u.timeless)
  | _, c => c.toStore = false

/-- The ends of a program: without having written it fails, and then it had a reason to. -/
def ends {α : Type} (e : Effect) : Phase → Except Fault α → Prop
  | .fresh, r => (∃ f, r = .error f) ∧ ∀ x, e x = none
  | .seen x, r => (∃ f, r = .error f) ∧ e x = none
  | .wrote, _ => True
  | .failed, r => ∃ f, r = .error f

/-- A call that does not go to the store leaves the phase. -/
theorem after_aside (φ : Phase) {c : Call} (hc : c.toStore = false) (x : c.Answer) : φ.after c x = φ := by
  cases c <;> first | rfl | cases hc

/-- A call that does not go to the store is allowed in every phase. -/
theorem allows_aside (e : Effect) (id : UInt64) (φ : Phase) {c : Call} (hc : c.toStore = false) : φ.allows e id c := by
  cases φ <;> cases c <;> first | exact rfl | cases hc

end Phase

/-- A program that succeeds has written. -/
theorem Phase.eq_wrote_of_ends {α : Type} {e : Effect} {φ : Phase} {a : α} (h : φ.ends e (.ok a)) : φ = .wrote := by
  cases φ with
  | fresh => cases h.1.choose_spec
  | seen x => cases h.1.choose_spec
  | wrote => rfl
  | failed => cases h.choose_spec

/-- A program carries out an effect on the record of an id, from a phase on, if a look-up answers with a user of the id it
was asked for. -/
def Follows {α : Type} (e : Effect) (id : UInt64) : Phase → Act (Except Fault α) → Prop
  | φ, .done r => φ.ends e r
  | φ, .call c next => φ.allows e id c ∧ ∀ x, c.Truthful x → Follows e id (φ.after c x) (next x)

/-- What a call can do to the phase of a program and to the record. -/
inductive Moves (e : Effect) (id : UInt64) (c : Call) : Phase → Option User → Phase → Option User → Prop where
  | aside (φ : Phase) (x : Option User) : Moves e id c φ x φ x
  | read (x : Option User) : c = .findById id → Moves e id c .fresh x (.seen x) x
  | remove {x x' : Option User} : c.writes? = some id → e x = some x' → Moves e id c .fresh x .wrote x'
  | refuse {x : Option User} : e.apply x = x → Moves e id c .fresh x .failed x
  | write {x x' : Option User} (y : Option User) : c.writes? = some id → e x = some x' → Moves e id c (.seen x) y .wrote x'

/-- A call of a program that carries out an effect moves its phase and the record, and the program carries the effect out
from there. -/
theorem Follows.moves {α : Type} {e : Effect} {id : UInt64} {φ : Phase} {c : Call} {next : c.Answer → Act (Except Fault α)}
    {w : World} {m : Store.Memory} (h : Follows e id φ (.call c next)) (hw : w.Works m) :
    Follows e id (φ.after c (World.answer c w).1) (next (World.answer c w).1) ∧
      ∃ m', (World.answer c w).2.Works m' ∧
        Moves e id c φ (m.record id) (φ.after c (World.answer c w).1) (m'.record id) := by
  obtain ⟨hallowed, hnext⟩ := h
  refine ⟨hnext _ (World.answer_truthful c w), ?_⟩
  cases hc : c.toStore with
  | false =>
    have hs : (World.answer c w).2.storage = w.storage := by
      refine World.answer_storage ?_ w
      cases c <;> first | rfl | cases hc
    rw [Phase.after_aside φ hc]
    exact ⟨m, hw.answer c (hs.trans hw.storage), .aside φ _⟩
  | true =>
    cases c with
    | findById i =>
      cases φ with
      | fresh =>
        obtain rfl : i = id := hallowed
        have ha := World.answer_findById hw.storage hw.findById i
        refine ⟨m, hw.answer _ (by rw [ha]; exact hw.storage), ?_⟩
        rw [ha]
        exact .read _ rfl
      | _ => cases hallowed
    | save u =>
      cases φ with
      | seen x =>
        obtain ⟨rfl, he⟩ := hallowed
        have ha := World.answer_save hw.storage hw.save u
        refine ⟨(m.save w.now u).2, hw.answer _ (by rw [ha]), ?_⟩
        rw [ha, m.record_save]
        exact .write _ rfl he
      | _ => cases hallowed
    | delete i =>
      cases φ with
      | fresh =>
        obtain ⟨rfl, he⟩ := hallowed
        have ha := World.answer_delete hw.storage hw.delete i
        refine ⟨(m.delete i).2, hw.answer _ (by rw [ha]), ?_⟩
        rw [ha]
        have hgone : (m.delete i).2.record i = none := by rw [Store.Memory.record, m.find?_delete_self, Option.map_none]
        rw [hgone]
        cases hm : m.find? i with
        | none =>
          rw [Store.Memory.delete_absent hm, Store.Memory.record, hm]
          exact .refuse (Effect.apply_of_some (he none))
        | some u =>
          rw [Store.Memory.delete_stored hm]
          exact .remove rfl (he _)
      | _ => cases hallowed
    | findByEmail _ => cases φ <;> cases hallowed
    | findAll => cases φ <;> cases hallowed
    | _ => cases hc

/-- Calls that do not matter to the store can stand anywhere. -/
theorem Follows.aside {α β : Type} {e : Effect} {id : UInt64} {φ : Phase} {p : Act α} {f : α → Act (Except Fault β)}
    (hp : Only Call.Idle p) (hf : ∀ a, Follows e id φ (f a)) : Follows e id φ (p.bind f) := by
  induction p with
  | done a => exact hf a
  | call c next ih =>
    have hc : c.toStore = false := by
      have hidle := hp.1
      cases c <;> first | rfl | cases hidle
    refine ⟨Phase.allows_aside e id φ hc, fun x _ => ?_⟩
    rw [Phase.after_aside φ hc]
    exact ih x (hp.2 x)

/-- Another value at the end is as good as the one that was there. -/
theorem Phase.ends_map {α β : Type} {e : Effect} {φ : Phase} {r : Except Fault α} (g : α → β) (h : φ.ends e r) :
    φ.ends e (r.map g) := by
  cases φ with
  | fresh =>
    obtain ⟨⟨f, rfl⟩, he⟩ := h
    exact ⟨⟨f, rfl⟩, he⟩
  | seen x =>
    obtain ⟨⟨f, rfl⟩, he⟩ := h
    exact ⟨⟨f, rfl⟩, he⟩
  | wrote => trivial
  | failed =>
    obtain ⟨f, rfl⟩ := h
    exact ⟨f, rfl⟩

/-- A task carries out the same effect when its value is mapped. -/
theorem Follows.map {α β : Type} {e : Effect} {id : UInt64} {φ : Phase} {t : Task α} (g : α → β)
    (h : Follows e id φ t.run) : Follows e id φ (g <$> t).run := by
  rw [Task.run_map]
  generalize t.run = p at h
  induction p generalizing φ with
  | done r => exact Phase.ends_map g h
  | call c next ih => exact ⟨h.1, fun x hx => ih x (h.2 x hx)⟩

/-! ## On its own -/

/-- The record of a program on its own: as it was, and as the program has seen it, until it is as the effect says. -/
def Phase.Alone (e : Effect) (x : Option User) : Phase → Option User → Prop
  | .fresh, y => y = x
  | .seen z, y => z = x ∧ y = x
  | .wrote, y | .failed, y => y = e.apply x

/-- A call keeps the record of a program on its own as it was, or makes it what the effect says. -/
theorem Moves.alone {e : Effect} {id : UInt64} {c : Call} {x : Option User} {φ ψ : Phase} {y y' : Option User}
    (h : Moves e id c φ y ψ y') (hφ : φ.Alone e x y) : ψ.Alone e x y' := by
  cases h with
  | aside => exact hφ
  | read => exact ⟨hφ, hφ⟩
  | remove _ he => exact hφ ▸ (Effect.apply_of_some he).symm
  | refuse he => exact he.symm.trans (congrArg e.apply hφ)
  | write _ _ he => exact hφ.1 ▸ (Effect.apply_of_some he).symm

/-- A program that runs on its own makes of the record what its effect says, whether it succeeds or fails. -/
theorem Follows.record_run {α : Type} {e : Effect} {id : UInt64} {x : Option User} {φ : Phase} {p : Act (Except Fault α)}
    (h : Follows e id φ p) {w : World} {m : Store.Memory} (hw : w.Works m) (hφ : φ.Alone e x (m.record id)) :
    ∃ m', (w.run p).2.Works m' ∧ m'.record id = e.apply x := by
  induction p generalizing φ w m with
  | done r =>
    refine ⟨m, hw, ?_⟩
    cases φ with
    | fresh => exact hφ.trans (Effect.apply_of_none (h.2 x)).symm
    | seen y =>
      obtain ⟨rfl, hm⟩ := hφ
      exact hm.trans (Effect.apply_of_none h.2).symm
    | wrote => exact hφ
    | failed => exact hφ
  | call c next ih =>
    obtain ⟨hnext, m', hw', hmoves⟩ := h.moves hw
    exact ih _ hnext hw' (hmoves.alone hφ)

/-! ## Beside another -/

section Beside

variable (id : UInt64) (x₀ : Option User)

/-- Nobody has written: what program `i` has seen is the record as it was. -/
def Phase.Ahead (i : Nat) (t : List (Nat × Call)) : Phase → Prop
  | .fresh | .failed => True
  | .seen x => x = x₀ ∧ [(i, .findById id)] <+ t
  | .wrote => False

/-- Program `j` has written, and the record was then `x₁`: what program `i` has seen is that, or else what was there before
`j` wrote. -/
def Phase.Behind (x₁ : Option User) (i j : Nat) (t : List (Nat × Call)) : Phase → Prop
  | .fresh | .failed => True
  | .seen x => x = x₁ ∨ x = x₀ ∧ ∃ c, c.writes? = some id ∧ [(i, .findById id), (j, c)] <+ t
  | .wrote => False

/-- Program `i` has read the record, then `j` has written it, then `i`. -/
def Overtaken (i j : Nat) (t : List (Nat × Call)) : Prop :=
  ∃ c c', c.writes? = some id ∧ c'.writes? = some id ∧ [(i, .findById id), (j, c), (i, c')] <+ t

/-- How far two programs have come that carry out effects on the same record, and what they have made of it. -/
inductive History (e : Effect) (i : Nat) (e' : Effect) (j : Nat) (t : List (Nat × Call)) :
    Phase → Phase → Option User → Prop where
  | start {φ φ' : Phase} : φ.Ahead id x₀ i t → φ'.Ahead id x₀ j t → History e i e' j t φ φ' x₀
  | first {φ' : Phase} {x₁ : Option User} :
    e x₀ = some x₁ → φ'.Behind id x₀ x₁ j i t → History e i e' j t .wrote φ' x₁
  | second {φ : Phase} {x₁ : Option User} :
    e' x₀ = some x₁ → φ.Behind id x₀ x₁ i j t → History e i e' j t φ .wrote x₁
  | inOrder {x₁ x₂ : Option User} : e x₀ = some x₁ → e' x₁ = some x₂ → History e i e' j t .wrote .wrote x₂
  | inReverse {x₁ x₂ : Option User} : e' x₀ = some x₁ → e x₁ = some x₂ → History e i e' j t .wrote .wrote x₂
  | lostSecond {x₁ x₂ : Option User} :
    e' x₀ = some x₁ → e x₀ = some x₂ → Overtaken id i j t → History e i e' j t .wrote .wrote x₂
  | lostFirst {x₁ x₂ : Option User} :
    e x₀ = some x₁ → e' x₀ = some x₂ → Overtaken id j i t → History e i e' j t .wrote .wrote x₂

variable {id x₀} {e e' : Effect} {i j : Nat} {t : List (Nat × Call)} {φ φ' ψ : Phase} {x y : Option User}

/-- Another call leaves a program ahead as it was. -/
theorem Phase.Ahead.mono (h : φ.Ahead id x₀ i t) (c : Nat × Call) : φ.Ahead id x₀ i (t ++ [c]) := by
  cases φ with
  | seen x => exact ⟨h.1, h.2.trans (List.sublist_append_left t [c])⟩
  | _ => exact h

/-- Another call leaves a program behind as it was. -/
theorem Phase.Behind.mono {x₁ : Option User} (h : φ.Behind id x₀ x₁ i j t) (c : Nat × Call) :
    φ.Behind id x₀ x₁ i j (t ++ [c]) := by
  cases φ with
  | seen x =>
    obtain h | ⟨hx, k, hk, hsub⟩ := h
    · exact Or.inl h
    · exact Or.inr ⟨hx, k, hk, hsub.trans (List.sublist_append_left t [c])⟩
  | _ => exact h

/-- A program that has been overtaken stays so. -/
theorem Overtaken.mono (h : Overtaken id i j t) (c : Nat × Call) : Overtaken id i j (t ++ [c]) := by
  obtain ⟨k, k', hk, hk', hsub⟩ := h
  exact ⟨k, k', hk, hk', hsub.trans (List.sublist_append_left t [c])⟩

/-- When `j` writes first, a program that has seen the record is behind. -/
theorem Phase.Ahead.behind (h : φ.Ahead id x₀ i t) {c : Call} (hc : c.writes? = some id) (x₁ : Option User) :
    φ.Behind id x₀ x₁ i j (t ++ [(j, c)]) := by
  cases φ with
  | seen x => exact Or.inr ⟨h.1, c, hc, h.2.append_right [(j, c)]⟩
  | _ => exact h

/-- Another call leaves the history as it was. -/
theorem History.mono (h : History id x₀ e i e' j t φ φ' x) (c : Nat × Call) :
    History id x₀ e i e' j (t ++ [c]) φ φ' x := by
  cases h with
  | start h h' => exact .start (h.mono c) (h'.mono c)
  | first h₁ h => exact .first h₁ (h.mono c)
  | second h₁ h => exact .second h₁ (h.mono c)
  | inOrder h₁ h₂ => exact .inOrder h₁ h₂
  | inReverse h₁ h₂ => exact .inReverse h₁ h₂
  | lostSecond h₁ h₂ h => exact .lostSecond h₁ h₂ (h.mono c)
  | lostFirst h₁ h₂ h => exact .lostFirst h₁ h₂ (h.mono c)

/-- A history of two programs is also one with the two exchanged. -/
theorem History.swap (h : History id x₀ e i e' j t φ φ' x) : History id x₀ e' j e i t φ' φ x := by
  cases h with
  | start h h' => exact .start h' h
  | first h₁ h => exact .second h₁ h
  | second h₁ h => exact .first h₁ h
  | inOrder h₁ h₂ => exact .inReverse h₁ h₂
  | inReverse h₁ h₂ => exact .inOrder h₁ h₂
  | lostSecond h₁ h₂ h => exact .lostFirst h₁ h₂ h
  | lostFirst h₁ h₂ h => exact .lostSecond h₁ h₂ h

/-- A call of one program takes the two of them on. -/
theorem History.step {c : Call} (h : History id x₀ e i e' j t φ φ' x) (hm : Moves e id c φ x ψ y) :
    History id x₀ e i e' j (t ++ [(i, c)]) ψ φ' y := by
  cases hm with
  | aside => exact h.mono _
  | read _ hc =>
    cases h with
    | start _ h' => exact .start ⟨rfl, hc ▸ List.sublist_append_right t [(i, c)]⟩ (h'.mono _)
    | second h₁ _ => exact .second h₁ (Or.inl rfl)
  | remove hc he =>
    cases h with
    | start _ h' => exact .first he (h'.behind hc _)
    | second h₁ _ => exact .inReverse h₁ he
  | refuse _ =>
    cases h with
    | start _ h' => exact .start trivial (h'.mono _)
    | second h₁ _ => exact .second h₁ trivial
  | write _ hc he =>
    cases h with
    | start h h' =>
      obtain ⟨rfl, -⟩ := h
      exact .first he (h'.behind hc _)
    | second h₁ h =>
      -- what was seen is either what the other wrote or what it overtook
      obtain rfl | ⟨rfl, k, hk, hsub⟩ := h
      · exact .inReverse h₁ he
      · exact .lostSecond h₁ he ⟨k, c, hk, hc, hsub.append_right [(i, c)]⟩

end Beside

/-- Two programs that carry out effects on the same record, and what they have made of it so far. -/
def System.Joint (e e' : Effect) (id : UInt64) (x₀ : Option User) (S : System (Except Fault Unit)) : Prop :=
  ∃ p q m φ φ', S.threads = [p, q] ∧ S.world.Works m ∧ Follows e id φ p ∧ Follows e' id φ' q ∧
    History id x₀ e 0 e' 1 S.trace φ φ' (m.record id)

/-- A turn of either program, or time that passes, takes the two of them on. -/
theorem System.Joint.turn {e e' : Effect} {id : UInt64} {x₀ : Option User} (S : System (Except Fault Unit)) (t : Turn)
    (h : S.Joint e e' id x₀) : (S.turn t).Joint e e' id x₀ := by
  cases t with
  | pass d =>
    obtain ⟨p, q, m, φ, φ', hthreads, hw, hp, hq, hh⟩ := h
    exact ⟨p, q, m, φ, φ', hthreads, hw.advance d, hp, hq, hh⟩
  | move i =>
    obtain hturn | ⟨c, next, hi, hturn⟩ := S.turn_move i <;> rw [hturn]
    · exact h
    · obtain ⟨p, q, m, φ, φ', hthreads, hw, hp, hq, hh⟩ := h
      rw [hthreads] at hi ⊢
      obtain _ | _ | i := i
      · obtain rfl : p = .call c next := Option.some.inj hi
        obtain ⟨hnext, m', hw', hmoves⟩ := hp.moves hw
        exact ⟨_, q, m', _, φ', rfl, hw', hnext, hq, hh.step hmoves⟩
      · obtain rfl : q = .call c next := Option.some.inj hi
        obtain ⟨hnext, m', hw', hmoves⟩ := hq.moves hw
        exact ⟨p, _, m', φ, _, rfl, hw', hp, hnext, (hh.swap.step hmoves).swap⟩
      · cases hi

end Roster
