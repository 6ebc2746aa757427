import Roster.Call

/-!
# The theory of programs

Laws of `Program`, of which every statement about the services makes use. Programs form a lawful monad, and `run` carries
sequencing over to states. Judgements follow the tree of a program: `Only` says which calls it can make (`OnlyGiven`, if the
answers are of a kind), `Ends` with which values it can end, and `Ensures` what holds at its end in surroundings that have a
choice at every call (`Keeps`, also what holds at every point until then). `Meets` says that a run makes a certain call, `After`
how a program ends once a call has been answered in a certain way, and `Blames` that it ends so for no other reason. `Sheds`
compares two programs that differ in calls whose answers do not matter, and `Parallel` two that make calls of the same kind and
go on from answers of the same kind.
-/

namespace Roster
namespace Program

variable {I : Interface} {α β γ σ : Type}

/-! ## Sequencing -/

theorem bind_eq (p : Program I α) (f : α → Program I β) : p >>= f = p.bind f := rfl

@[simp]
theorem done_bind (a : α) (f : α → Program I β) : (Program.done a).bind f = f a := rfl

@[simp]
theorem call_bind (c : I.Call) (next : I.Answer c → Program I α) (f : α → Program I β) :
    (Program.call c next).bind f = .call c fun x => (next x).bind f := rfl

@[simp]
theorem bind_done (p : Program I α) : p.bind .done = p := by
  induction p with
  | done a => rfl
  | call c next ih => simp only [call_bind, ih]

/-- Sequencing is associative. -/
theorem bind_assoc (p : Program I α) (f : α → Program I β) (g : β → Program I γ) :
    (p.bind f).bind g = p.bind fun a => (f a).bind g := by
  induction p with
  | done a => rfl
  | call c next ih => simp only [call_bind, ih]

instance lawfulMonad : LawfulMonad (Program I) :=
  LawfulMonad.mk' _ (fun p => bind_done p) (fun a f => done_bind a f) (fun p f g => bind_assoc p f g)

/-! ## Runs -/

@[simp]
theorem run_call (answer : (c : I.Call) → σ → I.Answer c × σ) (c : I.Call) (next : I.Answer c → Program I α) (s : σ) :
    run answer (.call c next) s = run answer (next (answer c s).1) (answer c s).2 := rfl

/-- A program goes on where the one before it has ended. -/
theorem run_bind (answer : (c : I.Call) → σ → I.Answer c × σ) (p : Program I α) (f : α → Program I β) (s : σ) :
    run answer (p.bind f) s = run answer (f (run answer p s).1) (run answer p s).2 := by
  induction p generalizing s with
  | done a => rfl
  | call c next ih => simp only [call_bind, run_call, ih]

/-! ## The calls a program can make -/

/-- Every call that a program can make satisfies `P`, whatever the answers. -/
def Only (P : I.Call → Prop) : Program I α → Prop
  | .done _ => True
  | .call c next => P c ∧ ∀ x, Only P (next x)

/-- A program and what follows it make such calls, if both do. -/
theorem Only.bind {P : I.Call → Prop} {p : Program I α} {f : α → Program I β} (hp : Only P p)
    (hf : ∀ a, Only P (f a)) : Only P (p.bind f) := by
  induction p with
  | done a => exact hf a
  | call c next ih => exact ⟨hp.1, fun x => ih x (hp.2 x)⟩

/-- Calls may be described more loosely. -/
theorem Only.mono {P Q : I.Call → Prop} (h : ∀ c, P c → Q c) {p : Program I α} (hp : Only P p) : Only Q p := by
  induction p with
  | done a => trivial
  | call c next ih => exact ⟨h c hp.1, fun x => ih x (hp.2 x)⟩

/-- What every call of a program keeps, its run keeps. -/
theorem Only.run_keeps {P : I.Call → Prop} {answer : (c : I.Call) → σ → I.Answer c × σ} {K : σ → Prop}
    (hk : ∀ c s, P c → K s → K (answer c s).2) {p : Program I α} (hp : Only P p) {s : σ} (hs : K s) :
    K (run answer p s).2 := by
  induction p generalizing s with
  | done a => exact hs
  | call c next ih => exact ih _ (hp.2 _) (hk c s hp.1 hs)

/-- Every program makes only calls of which nothing is asked. -/
theorem only_true (p : Program I α) : Only (fun _ => True) p := by
  induction p with
  | done a => trivial
  | call c next ih => exact ⟨trivial, ih⟩

/-- Every call that a program can make satisfies `P`, as long as the answers are as `A` says. -/
def OnlyGiven (A : (c : I.Call) → I.Answer c → Prop) (P : I.Call → Prop) : Program I α → Prop
  | .done _ => True
  | .call c next => P c ∧ ∀ x, A c x → OnlyGiven A P (next x)

section OnlyGiven

variable {A : (c : I.Call) → I.Answer c → Prop} {P : I.Call → Prop}

/-- What holds of all calls holds of those that are made after answers of a kind. -/
theorem Only.given {p : Program I α} (h : Only P p) : OnlyGiven A P p := by
  induction p with
  | done a => trivial
  | call c next ih => exact ⟨h.1, fun x _ => ih x (h.2 x)⟩

/-- A program and what follows it make such calls given the answers, if both do. -/
theorem OnlyGiven.bind {p : Program I α} {f : α → Program I β} (hp : OnlyGiven A P p) (hf : ∀ a, OnlyGiven A P (f a)) :
    OnlyGiven A P (p.bind f) := by
  induction p with
  | done a => exact hf a
  | call c next ih => exact ⟨hp.1, fun x hx => ih x (hp.2 x hx)⟩

/-- What every call of a program keeps, its run keeps, where what is kept also makes the answers as `A` says. -/
theorem OnlyGiven.run_invariant {answer : (c : I.Call) → σ → I.Answer c × σ} {K : σ → Prop}
    (ha : ∀ c s, K s → A c (answer c s).1) (hk : ∀ c s, P c → K s → K (answer c s).2) {p : Program I α}
    (hp : OnlyGiven A P p) {s : σ} (hs : K s) : K (run answer p s).2 := by
  induction p generalizing s with
  | done a => exact hs
  | call c next ih => exact ih _ (hp.2 _ (ha c s hs)) (hk c s hp.1 hs)

/-- What such calls preserve holds at the end of a run whose answers are of the kind. -/
theorem OnlyGiven.run_keeps {answer : (c : I.Call) → σ → I.Answer c × σ} {K : σ → Prop}
    (ha : ∀ c s, A c (answer c s).1) (hk : ∀ c s, P c → K s → K (answer c s).2) {p : Program I α}
    (hp : OnlyGiven A P p) {s : σ} (hs : K s) : K (run answer p s).2 :=
  hp.run_invariant (fun c s _ => ha c s) hk hs

end OnlyGiven

/-! ## The values a program can end with -/

/-- Every value that a program can end with satisfies `Q`, whatever the answers. -/
def Ends (Q : α → Prop) : Program I α → Prop
  | .done a => Q a
  | .call _ next => ∀ x, Ends Q (next x)

/-- A run ends with such a value. -/
theorem Ends.of_run {Q : α → Prop} {p : Program I α} (h : Ends Q p) (answer : (c : I.Call) → σ → I.Answer c × σ) (s : σ) :
    Q (run answer p s).1 := by
  induction p generalizing s with
  | done a => exact h
  | call c next ih => exact ih _ (h _) _

/-- How a program ends is decided by its last part. -/
theorem Ends.bind {Q : β → Prop} (p : Program I α) {f : α → Program I β} (hf : ∀ a, Ends Q (f a)) : Ends Q (p.bind f) := by
  induction p with
  | done a => exact hf a
  | call c next ih => exact fun x => ih x

/-! ## Calls that decide the end -/

/-- Values may be described more loosely. -/
theorem Ends.mono {Q Q' : α → Prop} (h : ∀ a, Q a → Q' a) {p : Program I α} (hp : Ends Q p) : Ends Q' p := by
  induction p with
  | done a => exact h a hp
  | call c next ih => exact fun x => ih x (hp x)

/-- How a program goes on from the values that its first part can end with. -/
theorem Ends.bind_of {Q : α → Prop} {Q' : β → Prop} {p : Program I α} (hp : Ends Q p) {f : α → Program I β}
    (hf : ∀ a, Q a → Ends Q' (f a)) : Ends Q' (p.bind f) := by
  induction p with
  | done a => exact hf a hp
  | call c next ih => exact fun x => ih x (hp x)

/-- Somewhere on its run a program makes a call, in a state, that satisfies `T`. -/
def Meets (answer : (c : I.Call) → σ → I.Answer c × σ) (T : I.Call → σ → Prop) : Program I α → σ → Prop
  | .done _, _ => False
  | .call c next, s => T c s ∨ Meets answer T (next (answer c s).1) (answer c s).2

section Meets

variable {answer : (c : I.Call) → σ → I.Answer c × σ} {T T' : I.Call → σ → Prop}

/-- A run meets a call before a point or after it. -/
theorem meets_bind {p : Program I α} {f : α → Program I β} {s : σ} :
    Meets answer T (p.bind f) s ↔ Meets answer T p s ∨ Meets answer T (f (run answer p s).1) (run answer p s).2 := by
  induction p generalizing s with
  | done a => exact ⟨.inr, fun h => h.resolve_left id⟩
  | call c next ih => exact (or_congr_right (ih _)).trans or_assoc.symm

/-- A program whose calls keep something under which they do not satisfy `T` does not meet one. -/
theorem Only.not_meets {P : I.Call → Prop} {K : σ → Prop} (hk : ∀ c s, P c → K s → K (answer c s).2)
    (hT : ∀ c s, P c → K s → ¬T c s) {p : Program I α} (hp : Only P p) {s : σ} (hs : K s) : ¬Meets answer T p s := by
  induction p generalizing s with
  | done a => exact id
  | call c next ih => exact not_or.mpr ⟨hT c s hp.1 hs, ih _ (hp.2 _) (hk c s hp.1 hs)⟩

/-- In a state that is kept as long as `T` is not met, what is met besides can be met with the state kept. -/
theorem Meets.mono_keeping {K : σ → Prop} (hk : ∀ c s, K s → K (answer c s).2) (hT : ∀ c s, K s → T c s → T' c s)
    {p : Program I α} {s : σ} (h : Meets answer T p s) (hs : K s) : Meets answer T' p s := by
  induction p generalizing s with
  | done a => exact h
  | call c next ih => exact h.imp (hT c s hs) fun h => ih _ h (hk c s hs)

end Meets

/-- Once a call has been answered as `T` says, a program ends as `Q` says. -/
def After (T : (c : I.Call) → I.Answer c → Prop) (Q : α → Prop) : Program I α → Prop
  | .done _ => True
  | .call c next => ∀ x, (T c x → Ends Q (next x)) ∧ (¬T c x → After T Q (next x))

/-- A program ends as `Q` says if a call has been answered as `T` says, and not otherwise. -/
def Blames (T : (c : I.Call) → I.Answer c → Prop) (Q : α → Prop) : Program I α → Prop
  | .done a => ¬Q a
  | .call c next => ∀ x, (T c x → Ends Q (next x)) ∧ (¬T c x → Blames T Q (next x))

section Blames

variable {T T' : (c : I.Call) → I.Answer c → Prop} {Q : α → Prop} {Q' : β → Prop}

/-- A program that always ends so does so after any call. -/
theorem Ends.after {p : Program I α} (h : Ends Q p) : After T Q p := by
  induction p with
  | done a => trivial
  | call c next ih => exact fun x => ⟨fun _ => h x, fun _ => ih x (h x)⟩

/-- A program that never gets such an answer has nothing to say about it. -/
theorem After.of_only {p : Program I α} (h : Only (fun c => ∀ x, ¬T c x) p) : After T Q p := by
  induction p with
  | done a => trivial
  | call c next ih => exact fun x => ⟨fun hx => absurd hx (h.1 x), fun _ => ih x (h.2 x)⟩

/-- After such an answer the first part ends so, and then the second does; or it is the second part that gets the answer. -/
theorem After.bind {p : Program I α} {f : α → Program I β} (hp : After T Q p) (hq : ∀ a, Q a → Ends Q' (f a))
    (hf : ∀ a, After T Q' (f a)) : After T Q' (p.bind f) := by
  induction p with
  | done a => exact hf a
  | call c next ih => exact fun x => ⟨fun hx => ((hp x).1 hx).bind_of hq, fun hx => ih x ((hp x).2 hx)⟩

/-- A run that meets a call which is answered as `T` says ends as `Q` says. -/
theorem After.of_meets {answer : (c : I.Call) → σ → I.Answer c × σ} {p : Program I α} (h : After T Q p) {s : σ}
    (hm : Meets answer (fun c s => T c (answer c s).1) p s) : Q (run answer p s).1 := by
  induction p generalizing s with
  | done a => exact hm.elim
  | call c next ih =>
    by_cases hx : T c (answer c s).1
    · exact ((h _).1 hx).of_run answer _
    · exact ih _ ((h _).2 hx) (hm.resolve_left hx)

/-- A program that blames a call ends so after it. -/
theorem Blames.after {p : Program I α} (h : Blames T Q p) : After T Q p := by
  induction p with
  | done a => trivial
  | call c next ih => exact fun x => ⟨(h x).1, fun hx => ih x ((h x).2 hx)⟩

/-- A program that never gets such an answer and never ends so has nobody to blame. -/
theorem Blames.of_only {p : Program I α} (h : Only (fun c => ∀ x, ¬T c x) p) (hq : Ends (fun a => ¬Q a) p) :
    Blames T Q p := by
  induction p with
  | done a => exact hq
  | call c next ih => exact fun x => ⟨fun hx => absurd hx (h.1 x), fun _ => ih x (h.2 x) (hq x)⟩

/-- Blame is passed on, if an end of the first part leads to one of the second. -/
theorem Blames.bind {p : Program I α} {f : α → Program I β} (hp : Blames T Q p) (hq : ∀ a, Q a → Ends Q' (f a))
    (hf : ∀ a, ¬Q a → Blames T Q' (f a)) : Blames T Q' (p.bind f) := by
  induction p with
  | done a => exact hf a hp
  | call c next ih => exact fun x => ⟨fun hx => ((hp x).1 hx).bind_of hq, fun hx => ih x ((hp x).2 hx)⟩

/-- A program goes on after calls that decide nothing. -/
theorem Blames.bind_only {p : Program I α} {f : α → Program I β} (hp : Only (fun c => ∀ x, ¬T c x) p)
    (hf : ∀ a, Blames T Q' (f a)) : Blames T Q' (p.bind f) := by
  induction p with
  | done a => exact hf a
  | call c next ih => exact fun x => ⟨fun hx => absurd hx (hp.1 x), fun _ => ih x (hp.2 x)⟩

/-- A run ends as `Q` says exactly if it meets a call that is answered as `T` says. -/
theorem Blames.run_iff {answer : (c : I.Call) → σ → I.Answer c × σ} {p : Program I α} (h : Blames T Q p) {s : σ} :
    Q (run answer p s).1 ↔ Meets answer (fun c s => T c (answer c s).1) p s := by
  refine ⟨fun hq => ?_, h.after.of_meets⟩
  induction p generalizing s with
  | done a => exact h hq
  | call c next ih =>
    by_cases hx : T c (answer c s).1
    · exact .inl hx
    · exact .inr (ih _ ((h _).2 hx) hq)

end Blames

/-! ## Surroundings that have a choice -/

/-- A program can end with a value and a state in surroundings where `may c s x t` says that a call `c` made in state `s`
may be answered with `x` and leave the state `t`. -/
inductive Runs (may : (c : I.Call) → σ → I.Answer c → σ → Prop) : Program I α → σ → α → σ → Prop where
  | done (a : α) (s : σ) : Runs may (.done a) s a s
  | call {c : I.Call} {next : I.Answer c → Program I α} {s t u : σ} {x : I.Answer c} {a : α} :
      may c s x t → Runs may (next x) t a u → Runs may (.call c next) s a u

/-- Two runs one after the other. -/
theorem Runs.bind {may : (c : I.Call) → σ → I.Answer c → σ → Prop} {p : Program I α} {f : α → Program I β} {s t u : σ} {a : α}
    {b : β} (hp : Runs may p s a t) (hf : Runs may (f a) t b u) : Runs may (p.bind f) s b u := by
  induction hp with
  | done a s => exact hf
  | call hm _ ih => exact .call hm (ih hf)

/-- However the surroundings choose, a program that starts in the given state ends as `Q` says. -/
def Ensures (may : (c : I.Call) → σ → I.Answer c → σ → Prop) : Program I α → (α → σ → Prop) → σ → Prop
  | .done a, Q, s => Q a s
  | .call c next, Q, s => ∀ x t, may c s x t → Ensures may (next x) Q t

variable {may : (c : I.Call) → σ → I.Answer c → σ → Prop}

/-- What is ensured holds at the end of every run. -/
theorem Ensures.of_runs {p : Program I α} {Q : α → σ → Prop} {s t : σ} {a : α} (h : Ensures may p Q s)
    (hr : Runs may p s a t) : Q a t := by
  induction hr with
  | done a s => exact h
  | call hm _ ih => exact ih (h _ _ hm)

/-- What is ensured may be described more loosely. -/
theorem Ensures.mono {p : Program I α} {Q Q' : α → σ → Prop} {s : σ} (h : Ensures may p Q s)
    (hq : ∀ a t, Q a t → Q' a t) : Ensures may p Q' s := by
  induction p generalizing s with
  | done a => exact hq a s h
  | call c next ih => exact fun x t hm => ih x (h x t hm)

/-- A sequence ensures what its first part ensures that its second part will. -/
theorem ensures_bind {p : Program I α} {f : α → Program I β} {Q : β → σ → Prop} {s : σ} :
    Ensures may (p.bind f) Q s ↔ Ensures may p (fun a t => Ensures may (f a) Q t) s := by
  induction p generalizing s with
  | done a => exact Iff.rfl
  | call c next ih => exact forall_congr' fun x => forall_congr' fun t => imp_congr_right fun _ => ih x

/-- What a program can end with, it ends with in any surroundings. -/
theorem Ends.ensures {Q : α → Prop} {p : Program I α} (h : Ends Q p) (s : σ) : Ensures may p (fun a _ => Q a) s := by
  induction p generalizing s with
  | done a => exact h
  | call c next ih => exact fun x t _ => ih x (h x) t

/-- What every call of a program keeps, the program keeps, where what is kept also makes the answers as `A` says. -/
theorem OnlyGiven.ensures {A : (c : I.Call) → I.Answer c → Prop} {P : I.Call → Prop} {K : σ → Prop}
    (hmay : ∀ c s x t, P c → K s → may c s x t → A c x ∧ K t) {p : Program I α} (hp : OnlyGiven A P p) {s : σ} (hs : K s) :
    Ensures may p (fun _ t => K t) s := by
  induction p generalizing s with
  | done a => exact hs
  | call c next ih =>
    intro x t hm
    obtain ⟨hx, ht⟩ := hmay c s x t hp.1 hs hm
    exact ih x (hp.2 x hx) ht

/-- The deterministic run is one of the runs that surroundings with a choice allow, if they allow its answers. -/
theorem runs_run {answer : (c : I.Call) → σ → I.Answer c × σ} (h : ∀ c s, may c s (answer c s).1 (answer c s).2)
    (p : Program I α) (s : σ) : Runs may p s (run answer p s).1 (run answer p s).2 := by
  induction p generalizing s with
  | done a => exact .done a s
  | call c next ih => exact .call (h c s) (ih _ _)

/-! ## Every point of a run -/

section Keeps

variable {K : σ → Prop}

/-- However the surroundings choose, `K` holds at every point of a run that starts in the given state, and `Q` at its end. -/
def Keeps (may : (c : I.Call) → σ → I.Answer c → σ → Prop) (K : σ → Prop) : Program I α → (α → σ → Prop) → σ → Prop
  | .done a, Q, s => K s ∧ Q a s
  | .call c next, Q, s => K s ∧ ∀ x t, may c s x t → Keeps may K (next x) Q t

/-- A run that starts in the first state passes through the second one. -/
inductive Passes (may : (c : I.Call) → σ → I.Answer c → σ → Prop) : Program I α → σ → σ → Prop where
  | here (p : Program I α) (s : σ) : Passes may p s s
  | call {c : I.Call} {next : I.Answer c → Program I α} {s t u : σ} {x : I.Answer c} :
      may c s x t → Passes may (next x) t u → Passes may (.call c next) s u

/-- A run passes through its end. -/
theorem Runs.passes {p : Program I α} {s t : σ} {a : α} (h : Runs may p s a t) : Passes may p s t := by
  induction h with
  | done a s => exact .here _ s
  | call hm _ ih => exact .call hm ih

/-- What is kept holds at the start. -/
theorem Keeps.here {p : Program I α} {Q : α → σ → Prop} {s : σ} (h : Keeps may K p Q s) : K s := by
  cases p with
  | done a => exact h.1
  | call c next => exact h.1

/-- What is kept holds at every point. -/
theorem Keeps.of_passes {p : Program I α} {Q : α → σ → Prop} {s t : σ} (h : Keeps may K p Q s) (hp : Passes may p s t) :
    K t := by
  induction hp with
  | here p s => exact h.here
  | call hm _ ih => exact ih (h.2 _ _ hm)

/-- At the end of every run holds what was to hold there. -/
theorem Keeps.of_runs {p : Program I α} {Q : α → σ → Prop} {s t : σ} {a : α} (h : Keeps may K p Q s)
    (hr : Runs may p s a t) : Q a t := by
  induction hr with
  | done a s => exact h.2
  | call hm _ ih => exact ih (h.2 _ _ hm)

/-- What is kept may be described more loosely. -/
theorem Keeps.mono {K' : σ → Prop} {p : Program I α} {Q Q' : α → σ → Prop} {s : σ} (h : Keeps may K p Q s)
    (hk : ∀ t, K t → K' t) (hq : ∀ a t, K t → Q a t → Q' a t) : Keeps may K' p Q' s := by
  induction p generalizing s with
  | done a => exact ⟨hk s h.1, hq a s h.1 h.2⟩
  | call c next ih => exact ⟨hk s h.1, fun x t hm => ih x (h.2 x t hm)⟩

/-- A sequence keeps what its first part keeps up to its end and its second part from there. -/
theorem Keeps.bind {p : Program I α} {f : α → Program I β} {Q : β → σ → Prop} {s : σ}
    (h : Keeps may K p (fun a t => Keeps may K (f a) Q t) s) : Keeps may K (p.bind f) Q s := by
  induction p generalizing s with
  | done a => exact h.2
  | call c next ih => exact ⟨h.1, fun x t hm => ih x (h.2 x t hm)⟩

/-- What every call of a program keeps, holds at every point of its runs. -/
theorem Only.keeps {P : I.Call → Prop} (hmay : ∀ c s x t, P c → K s → may c s x t → K t) {p : Program I α} (hp : Only P p)
    {s : σ} (hs : K s) : Keeps may K p (fun _ t => K t) s := by
  induction p generalizing s with
  | done a => exact ⟨hs, hs⟩
  | call c next ih => exact ⟨hs, fun x t hm => ih x (hp.2 x) (hmay c s x t hp.1 hs hm)⟩

end Keeps

/-! ## Calls whose answers do not matter -/

/-- The first program makes the calls of the second and, in between, idle ones; whatever they are answered with, it goes on
in the same way. -/
inductive Sheds (idle : I.Call → Prop) : Program I α → Program I α → Prop where
  | done (a : α) : Sheds idle (.done a) (.done a)
  | keep {c : I.Call} {next next' : I.Answer c → Program I α} :
      ¬idle c → (∀ x, Sheds idle (next x) (next' x)) → Sheds idle (.call c next) (.call c next')
  | skip {c : I.Call} {next : I.Answer c → Program I α} {q : Program I α} :
      idle c → (∀ x, Sheds idle (next x) q) → Sheds idle (.call c next) q

/-- Two sequences differ in idle calls, if their parts do. -/
theorem Sheds.bind {idle : I.Call → Prop} {p q : Program I α} {f g : α → Program I β} (h : Sheds idle p q)
    (hf : ∀ a, Sheds idle (f a) (g a)) : Sheds idle (p.bind f) (q.bind g) := by
  induction h with
  | done a => exact hf a
  | keep hc _ ih => exact .keep hc ih
  | skip hc _ ih => exact .skip hc ih

/-- A program that makes no idle call has none to shed. -/
theorem Only.sheds {idle : I.Call → Prop} {p : Program I α} (h : Only (fun c => ¬idle c) p) : Sheds idle p p := by
  induction p with
  | done a => exact .done a
  | call c next ih => exact .keep h.1 fun x => ih x (h.2 x)

/-! ## Two programs side by side -/

section Parallel

variable {like : (c c' : I.Call) → (I.Answer c → I.Answer c' → Prop) → Prop}

/-- Two programs that can be followed side by side. Their calls come in pairs, and `like c c' A` says that `c` and `c'` make a
pair and that both programs go on side by side from answers that `A` relates. They end together, with values that `Q`
relates. -/
inductive Parallel (like : (c c' : I.Call) → (I.Answer c → I.Answer c' → Prop) → Prop) (Q : α → β → Prop) :
    Program I α → Program I β → Prop where
  | done {a : α} {b : β} : Q a b → Parallel like Q (.done a) (.done b)
  | call {c c' : I.Call} {A : I.Answer c → I.Answer c' → Prop} {next : I.Answer c → Program I α}
      {next' : I.Answer c' → Program I β} :
      like c c' A → (∀ x y, A x y → Parallel like Q (next x) (next' y)) → Parallel like Q (.call c next) (.call c' next')

/-- Two sequences go side by side, if their parts do. -/
theorem Parallel.bind {α' β' : Type} {Q : α → β → Prop} {Q' : α' → β' → Prop} {p : Program I α} {q : Program I β}
    {f : α → Program I α'} {g : β → Program I β'} (h : Parallel like Q p q)
    (hf : ∀ a b, Q a b → Parallel like Q' (f a) (g b)) : Parallel like Q' (p.bind f) (q.bind g) := by
  induction h with
  | done hq => exact hf _ _ hq
  | call hc _ ih => exact .call hc ih

/-- A program goes side by side with itself if all its calls are answered alike. -/
theorem Only.parallel {P : I.Call → Prop} (hlike : ∀ c, P c → like c c Eq) {p : Program I α} (h : Only P p) :
    Parallel like Eq p p := by
  induction p with
  | done a => exact .done rfl
  | call c next ih => exact .call (hlike c h.1) fun x y hxy => hxy ▸ ih x (h.2 x)

/-- Two runs from related states stay related if every pair of calls keeps the states related and is answered as its relation
says. -/
theorem Parallel.run {σ' : Type} {answer : (c : I.Call) → σ → I.Answer c × σ} {answer' : (c : I.Call) → σ' → I.Answer c × σ'}
    {R : σ → σ' → Prop}
    (hstep : ∀ {c c' A}, like c c' A → ∀ {s s'}, R s s' →
      A (answer c s).1 (answer' c' s').1 ∧ R (answer c s).2 (answer' c' s').2)
    {Q : α → β → Prop} {p : Program I α} {q : Program I β} (h : Parallel like Q p q) {s : σ} {s' : σ'} (hs : R s s') :
    Q (run answer p s).1 (run answer' q s').1 ∧ R (run answer p s).2 (run answer' q s').2 := by
  induction h generalizing s s' with
  | done hq => exact ⟨hq, hs⟩
  | call hc _ ih =>
    obtain ⟨hanswer, hstate⟩ := hstep hc hs
    exact ih _ _ hanswer hstate

end Parallel

end Program
end Roster
