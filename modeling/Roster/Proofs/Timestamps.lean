import Mathlib.Data.List.Induction
import Roster.Proofs.Frames
import Roster.Proofs.StoreAgreement

/-!
# Timestamps tell the history

A store that starts out empty is visited again and again: users are stored and removed, at times that do not go back. The times
that a record carries can then be traced to visits: it was created by the visit that ended the last absence of its id
(`World.Begins`), and changed by the latest one that stored it (`World.LastStored`). Whatever times a user carries when it is
passed to the store, these are the ones it comes back with.
-/

namespace Roster

namespace World

/-- The user that is found under an id when nothing stands in the way. -/
def register (w : World) : Register := fun id =>
  match w.calm.stored id with
  | .ok o => o
  | .error _ => none

/-- What is found under the ids is what the store holds. -/
theorem register_eq {w : World} {f : Register} (h : w.storage.Holds f) : w.register = f := by
  funext id
  have hfound : w.calm.stored id = .ok (f id) := (keeps_calm h).findById id
  rw [register, hfound]

/-- The world after a run of visits. -/
def after (w : World) (visits : List Visit) : World := visits.foldl (fun w v => (answer v.call (w.visited v)).2) w

/-- One more visit is made in the world after the others. -/
theorem after_concat (w : World) (visits : List Visit) (v : Visit) :
    w.after (visits ++ [v]) = (answer v.call ((w.after visits).visited v)).2 := by
  rw [after, List.foldl_append]
  rfl

/-- A visit stores a user under an id. -/
def Stores (w : World) (v : Visit) (id : UInt64) : Prop :=
  ∃ u u', v.call = .save u ∧ u.id = id ∧ (answer (.save u) (w.visited v)).1 = .ok u'

/-- The record of an id goes back to a moment: a visit then stored a user under the id, which had none before, and it has had
one ever since. -/
def Begins (w : World) (visits : List Visit) (id : UInt64) (t : Timestamp) : Prop :=
  ∃ before v rest, visits = before ++ v :: rest ∧ t = { instant := v.clock } ∧ (w.after before).Stores v id ∧
    (w.after before).register id = none ∧ ∀ part, part <+: rest → (w.after (before ++ v :: part)).register id ≠ none

/-- A user was stored under an id at a moment, and none later. -/
def LastStored (w : World) (visits : List Visit) (id : UInt64) (t : Timestamp) : Prop :=
  ∃ before v rest, visits = before ++ v :: rest ∧ t = { instant := v.clock } ∧ (w.after before).Stores v id ∧
    ∀ part v' rest', rest = part ++ v' :: rest' → ¬(w.after (before ++ v :: part)).Stores v' id

/-! ## One more visit -/

section Concat

variable {w : World} {visits : List Visit} {v : Visit} {id : UInt64} {t : Timestamp}

/-- A record that is still there goes back to the same moment. -/
theorem Begins.concat (h : w.Begins visits id t) (hthere : (w.after (visits ++ [v])).register id ≠ none) :
    w.Begins (visits ++ [v]) id t := by
  obtain ⟨before, v₀, rest, rfl, ht, hstores, habsent, hsince⟩ := h
  refine ⟨before, v₀, rest ++ [v], by simp, ht, hstores, habsent, fun part hpart => ?_⟩
  obtain rfl | hpart := List.prefix_concat_iff.mp hpart
  · simpa using hthere
  · exact hsince part hpart

/-- A record that was not there before goes back to the visit that stored it. -/
theorem Begins.of_stores (hstores : (w.after visits).Stores v id) (habsent : (w.after visits).register id = none)
    (hthere : (w.after (visits ++ [v])).register id ≠ none) : w.Begins (visits ++ [v]) id { instant := v.clock } := by
  refine ⟨visits, v, [], rfl, rfl, hstores, habsent, fun part hpart => ?_⟩
  obtain rfl := List.prefix_nil.mp hpart
  exact hthere

/-- A visit that does not store a user leaves the one that did the last. -/
theorem LastStored.concat (h : w.LastStored visits id t) (hnot : ¬(w.after visits).Stores v id) :
    w.LastStored (visits ++ [v]) id t := by
  obtain ⟨before, v₀, rest, rfl, ht, hstores, hlast⟩ := h
  refine ⟨before, v₀, rest ++ [v], by simp, ht, hstores, fun part v' rest' hsplit => ?_⟩
  obtain rfl | ⟨rest', last, rfl⟩ := rest'.eq_nil_or_concat
  · obtain ⟨rfl, ⟨⟩⟩ := List.append_inj' hsplit rfl
    exact hnot
  · rw [List.concat_eq_append, ← List.cons_append, ← List.append_assoc] at hsplit
    obtain ⟨rfl, -⟩ := List.append_inj' hsplit rfl
    exact hlast part v' rest' rfl

/-- A visit that stores a user is the last that did. -/
theorem LastStored.of_stores (hstores : (w.after visits).Stores v id) :
    w.LastStored (visits ++ [v]) id { instant := v.clock } := by
  refine ⟨visits, v, [], rfl, rfl, hstores, fun part v' rest' hsplit => ?_⟩
  simp at hsplit

end Concat

/-- A visit to a store that holds a register: it stores a user, and answers with what is then in the register; or it stores
none, and the records that are there afterwards were there before. -/
theorem visit_cases {w : World} {f : Register} (h : w.storage.Holds f) (v : Visit) :
    (∃ u, v.call = .save u ∧ (answer (.save u) (w.visited v)).1 = .ok (f.stamped { instant := v.clock } u) ∧
      (answer v.call (w.visited v)).2.storage.Holds (f.put (f.stamped { instant := v.clock } u))) ∨
    (∀ id, ¬w.Stores v id) ∧
      ∃ g : Register, (answer v.call (w.visited v)).2.storage.Holds g ∧ ∀ id u, g id = some u → f id = some u := by
  have hholds : (w.visited v).storage.Holds f := h
  obtain ⟨clock, deadline, c⟩ := v
  cases c with
  | save u =>
    obtain ⟨hok, hput⟩ | ⟨⟨e, he⟩, hsame⟩ := save_outcome hholds u
    · exact .inl ⟨u, rfl, hok, hput⟩
    · refine .inr ⟨?_, f, hsame ▸ hholds, fun _ _ hu => hu⟩
      rintro id ⟨u', v', ⟨⟩, -, hok⟩
      rw [he] at hok
      cases hok
  | delete id =>
    refine .inr ⟨?_, ?_⟩
    · rintro i ⟨u, v', ⟨⟩, -⟩
    · obtain ⟨-, hdrop⟩ | ⟨-, hsame⟩ := delete_outcome hholds id
      · refine ⟨_, hdrop, fun i u hu => ?_⟩
        rw [Register.drop, Function.update_apply] at hu
        split at hu
        · cases hu
        · exact hu
      · exact ⟨f, hsame, fun _ _ hu => hu⟩
  | _ =>
    refine .inr ⟨?_, f, ?_, fun _ _ hu => hu⟩
    · rintro i ⟨u, v', ⟨⟩, -⟩
    · rw [answer_storage rfl]
      exact hholds

/-- A user who is stored goes back to now if the id had none, and as far as the user before otherwise. -/
theorem begins_stamped {w : World} {visits : List Visit} {v : Visit} {f : Register} {u : User}
    (hf : (w.after visits).storage.Holds f) (hold : ∀ x, f u.id = some x → w.Begins visits u.id x.createdAt)
    (hstores : (w.after visits).Stores v u.id) (hthere : (w.after (visits ++ [v])).register u.id ≠ none) :
    w.Begins (visits ++ [v]) u.id (f.stamped { instant := v.clock } u).createdAt := by
  cases hbefore : f u.id with
  | none =>
    have hcreated : (f.stamped { instant := v.clock } u).createdAt = { instant := v.clock } := by
      simp only [Register.stamped, hbefore, Option.map_none, Option.getD_none]
    rw [hcreated]
    exact .of_stores hstores (by rw [register_eq hf, hbefore]) hthere
  | some x =>
    have hcreated : (f.stamped { instant := v.clock } u).createdAt = x.createdAt := by
      simp only [Register.stamped, hbefore, Option.map_some, Option.getD_some]
    rw [hcreated]
    exact (hold x hbefore).concat hthere

/-! ## Runs of visits -/

/-- The times of every record of a store can be traced to visits. -/
def Traced (w : World) (visits : List Visit) : Prop :=
  ∃ f : Register, (w.after visits).storage.Holds f ∧
    ∀ id u, f id = some u → w.Begins visits id u.createdAt ∧ w.LastStored visits id u.updatedAt

/-- One visit: what could be traced before can be traced after it. -/
theorem Traced.concat {w : World} {visits : List Visit} (h : w.Traced visits) (v : Visit) : w.Traced (visits ++ [v]) := by
  obtain ⟨f, hf, hold⟩ := h
  -- a record that was there before goes on as it was
  have hkept : ∀ g : Register, (w.after (visits ++ [v])).storage.Holds g → ∀ id u, g id = some u → f id = some u →
      ¬(w.after visits).Stores v id →
      w.Begins (visits ++ [v]) id u.createdAt ∧ w.LastStored (visits ++ [v]) id u.updatedAt := by
    intro g hg id u hu hbefore hnot
    obtain ⟨hbegins, hlast⟩ := hold id u hbefore
    refine ⟨hbegins.concat ?_, hlast.concat hnot⟩
    rw [register_eq hg, hu]
    exact Option.some_ne_none u
  obtain ⟨u, hcall, hok, hput⟩ | ⟨hnot, g, hg, hsub⟩ := visit_cases hf v
  · rw [← after_concat] at hput
    refine ⟨_, hput, fun id x hx => ?_⟩
    by_cases hid : id = u.id
    · subst hid
      have hstores : (w.after visits).Stores v u.id := ⟨u, _, hcall, rfl, hok⟩
      have hthere : (w.after (visits ++ [v])).register u.id ≠ none := by
        rw [register_eq hput, hx]
        exact Option.some_ne_none x
      obtain rfl : f.stamped { instant := v.clock } u = x := Option.some.inj ((f.put_self _).symm.trans hx)
      exact ⟨begins_stamped hf (fun x₀ hbefore => (hold _ x₀ hbefore).1) hstores hthere, .of_stores hstores⟩
    · have hother : id ≠ (f.stamped { instant := v.clock } u).id := hid
      have hbefore : f id = some x := (f.put_of_ne hother).symm.trans hx
      refine hkept _ hput id x hx hbefore ?_
      rintro ⟨u', _, hcall', rfl, -⟩
      obtain rfl := Call.save.inj (hcall.symm.trans hcall')
      exact hid rfl
  · rw [← after_concat] at hg
    exact ⟨g, hg, fun id u hu => hkept g hg id u hu (hsub id u hu) (hnot id)⟩

/-- A run of visits to a store that starts out empty. -/
theorem traced {w : World} (hempty : w.storage.Holds fun _ => none) (visits : List Visit) : w.Traced visits := by
  induction visits using List.reverseRecOn with
  | nil =>
    refine ⟨_, hempty, fun id u hu => ?_⟩
    cases hu
  | append_singleton visits v ih => exact ih.concat v

/-- A record begins no later than it is last stored. -/
theorem Begins.le_lastStored {w : World} {visits : List Visit} {id : UInt64} {t t' : Timestamp} (h : w.Begins visits id t)
    (h' : w.LastStored visits id t') (hclock : visits.Pairwise fun v v' => v.clock ≤ v'.clock) : t.instant ≤ t'.instant := by
  obtain ⟨before, v, rest, rfl, rfl, hstores, -, -⟩ := h
  obtain ⟨before', v', rest', hsplit, rfl, -, hlast⟩ := h'
  obtain ⟨middle, rfl, hrest⟩ | ⟨middle, rfl, hrest⟩ := List.append_eq_append_iff.mp hsplit
  · cases middle with
    | nil =>
      obtain rfl := (List.cons.inj hrest).1
      exact Int.le_refl _
    | cons v₀ middle =>
      obtain ⟨rfl, rfl⟩ := List.cons.inj hrest
      exact List.rel_of_pairwise_cons (List.pairwise_append.mp hclock).2.1 (by simp)
  · cases middle with
    | nil =>
      obtain rfl := (List.cons.inj hrest).1
      exact Int.le_refl _
    | cons v₀ middle =>
      obtain ⟨rfl, rfl⟩ := List.cons.inj hrest
      refine absurd ?_ (hlast middle v rest rfl)
      simpa using hstores

/-- Every record of a store that started out empty was created by the visit that ended the last absence of its id and changed by
the latest visit that stored a user under it, so not before it was created and not in the future; and whoever stores a user gets
it back with the times that are kept. -/
theorem timestamps_tell_history {w : World} (hempty : w.storage.Holds fun _ => none) {visits : List Visit}
    (hclock : visits.Pairwise fun v v' => v.clock ≤ v'.clock) :
    (∀ id u, (w.after visits).register id = some u →
      w.Begins visits id u.createdAt ∧ w.LastStored visits id u.updatedAt ∧ u.createdAt.instant ≤ u.updatedAt.instant ∧
        ∀ now, (∀ v ∈ visits, v.clock ≤ now) → u.updatedAt.instant ≤ now) ∧
    ∀ v u u', v.call = .save u → (answer (.save u) ((w.after visits).visited v)).1 = .ok u' →
      u' = { u with createdAt := u'.createdAt, updatedAt := u'.updatedAt } ∧
        (w.after (visits ++ [v])).register u.id = some u' := by
  obtain ⟨f, hf, htraced⟩ := traced hempty visits
  constructor
  · intro id u hu
    rw [register_eq hf] at hu
    obtain ⟨hbegins, hlast⟩ := htraced id u hu
    refine ⟨hbegins, hlast, hbegins.le_lastStored hlast hclock, fun now hnow => ?_⟩
    obtain ⟨before, v, rest, rfl, ht, -⟩ := hlast
    rw [ht]
    exact hnow v (by simp)
  · intro v u u' hcall hok
    obtain ⟨u₀, hcall₀, hok₀, hput⟩ | ⟨hnot, -⟩ := visit_cases hf v
    · obtain rfl := Call.save.inj (hcall₀.symm.trans hcall)
      obtain rfl := Except.ok.inj (hok₀.symm.trans hok)
      rw [← after_concat] at hput
      exact ⟨rfl, by rw [register_eq hput]; exact f.put_self _⟩
    · exact absurd ⟨u, u', hcall, rfl, hok⟩ (hnot u.id)

/-- In a table, a user who was removed and is stored again begins anew; times of its own and a save that is refused do not
count. -/
theorem stored_again_begins_anew :
    let ann : User := { id := 7, name := "Ann", email := "ann@example.com", role := "admin" }
    let visits : List Visit :=
      [{ clock := 1, call := .save ann },
       { clock := 2, call := .delete 7 },
       { clock := 2, call := .delete 7 },
       { clock := 3, call := .save { ann with createdAt := { instant := 9 }, updatedAt := { instant := 9 } } },
       { clock := 4, call := .save { ann with role := "owner" } },
       { clock := 5, deadline := some 6, call := .save { ann with name := "Anne" } },
       { clock := 6, deadline := some 6, call := .save ann }]
    let w : World := (migrate { clock := 0, storage := .database {} }).2
    (w.storage.Holds fun _ => none) ∧ (visits.Pairwise fun v v' => v.clock ≤ v'.clock) ∧
      w.Begins visits 7 { instant := 3 } ∧ w.LastStored visits 7 { instant := 5 } := by
  intro ann visits w
  have hempty : w.storage.Holds fun _ => none := (migrate_fresh rfl rfl rfl).2.holds
  have hclock : visits.Pairwise fun v v' => v.clock ≤ v'.clock := by decide +kernel
  have htimes : ((w.after visits).register 7).map (fun u => (u.createdAt, u.updatedAt)) =
      some ({ instant := 3 }, { instant := 5 }) := by decide +kernel
  obtain ⟨u, hu, htimes⟩ := Option.map_eq_some_iff.mp htimes
  obtain ⟨hbegins, hlast, -⟩ := (timestamps_tell_history hempty hclock).1 7 u hu
  obtain ⟨hcreated, hupdated⟩ := Prod.mk.inj htimes
  exact ⟨hempty, hclock, hcreated ▸ hbegins, hupdated ▸ hlast⟩

end World

end Roster
