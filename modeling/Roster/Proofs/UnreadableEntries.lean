import Roster.Proofs.CacheIndependence
import Roster.Proofs.FailureTexts
import Roster.Proofs.RemoteCache

/-!
# Entries that cannot be read

Under the key of a user the server may hold anything: a text that is not JSON, JSON that is not a user, or no text at all. Where
the cache fails over it, a look-up is answered by the store alone, and what the store has is written over the entry. So the next
look-up is answered by the cache.

What comes back then is what JSON keeps of a user (`Codec.recoded`): stray bytes of its texts are replaced, and a user whose
times cannot be written is not cached at all. Nor is anything written for a caller who has given up: such a caller is
answered by the store, and the entry stays.
-/

namespace Roster

open Program Cache

namespace World

variable {w : World} {r : Remote User} {s : Server} {id : UInt64}

/-! ## Calls to the server -/

/-- The server is asked for a value, if the caller still waits. -/
theorem answer_cacheGet_server (hcaching : w.caching = .onServer r s) (hget : w.failure? .cacheGet = none) (key : Text) :
    answer (.cacheGet key) w = (r.get s key w.patience, w) := by
  have hworld : { w with caching := .onServer r s } = w := by rw [← hcaching]
  simp only [answer, onCache, hget, hcaching, hworld]

/-- So it is given a value. -/
theorem answer_cacheSet_server (hcaching : w.caching = .onServer r s) (hset : w.failure? .cacheSet = none) (key : Text)
    (u : User) : answer (.cacheSet key u) w =
      ((r.set s key u w.patience).1, { w with caching := .onServer r (r.set s key u w.patience).2 }) := by
  simp only [answer, onCache, hset, hcaching]

/-- A look-up that fails in the cache leaves a line in the log and nothing else. -/
theorem run_lookUp_of_error (hcaching : w.caching = .onServer r s) (hget : w.failure? .cacheGet = none) {f : Fault}
    (hbad : r.get s (User.key id) w.patience = .error f) :
    ∃ v, w.run (Users.lookUp true id) = (none, v) ∧ w.SameButLog v := by
  have hrun : w.run (Users.lookUp true id) = (none, (w.run (Users.complain "get" id f)).2) := by
    rw [run, Users.lookUp_true, run_call, answer_cacheGet_server hcaching hget, hbad]
    rfl
  exact ⟨_, hrun, _, rfl⟩

/-- A look-up that the cache answers changes nothing. -/
theorem attempt_get_of_server_hit (hcaching : w.caching = .onServer r s) (hget : w.failure? .cacheGet = none) {u : User}
    (hhit : r.get s (User.key id) w.patience = .ok (some u)) : w.attempt (Users.get true id) = (.ok u, w) := by
  rw [attempt, run, Users.run_get, run_bind, Users.lookUp_true, run_call, answer_cacheGet_server hcaching hget, hhit]
  rfl

/-- A look-up takes no time, so a caller who has waited for it waits on. -/
theorem patience_get (w : World) (cached : Bool) (id : UInt64) : (w.attempt (Users.get cached id)).2.patience = w.patience := by
  refine (Users.get_looksUp cached id).run_keeps (K := fun v : World => v.patience = w.patience) ?_ rfl
  rintro c v (hc | ⟨i, rfl⟩) hv
  · have htimeless : c.timeless = true := by cases c <;> first | rfl | cases hc
    exact (answer_patience htimeless v).trans hv
  · exact (answer_patience rfl v).trans hv

/-- A user is cached as far as the server takes it. -/
theorem caching_remember (hcaching : w.caching = .onServer r s) (hset : w.failure? .cacheSet = none) (u : User) :
    (w.run (Users.remember true u)).2.caching = .onServer r (r.set s (User.key u.id) u.withoutHash w.patience).2 := by
  have hremember : Users.remember true u = .call (.cacheSet (User.key u.id) u.withoutHash) fun
      | .ok _ => .done ()
      | .error f => Users.complain "set" u.id f := by
    simp only [Users.remember, if_true]
    rfl
  rw [hremember, run, run_call, answer_cacheSet_server hcaching hset]
  cases (r.set s (User.key u.id) u.withoutHash w.patience).1 <;> rfl

/-- Where the cache fails, the store answers, and the cache is filled with what the store has. -/
theorem attempt_get_of_server_error (hcaching : w.caching = .onServer r s) (hget : w.failure? .cacheGet = none)
    (hset : w.failure? .cacheSet = none) {f : Fault} (hbad : r.get s (User.key id) w.patience = .error f) :
    (w.attempt (Users.get true id)).1 = Users.found id (w.stored id) ∧
    (∀ u, w.stored id = .ok (some u) →
      (w.attempt (Users.get true id)).2.caching = .onServer r (r.set s (User.key id) u.withoutHash w.patience).2) ∧
    ((∀ u, w.stored id ≠ .ok (some u)) → (w.attempt (Users.get true id)).2.caching = w.caching) := by
  obtain ⟨v, hlookUp, hlog⟩ := run_lookUp_of_error hcaching hget hbad
  -- The store is asked in a world that differs in the log, and asking it may write to the log again.
  have hquiet : ∀ e, Call.findById id ≠ .log e := by
    intro e he
    cases he
  have hanswer : (answer (.findById id) v).1 = w.stored id := (answer_log hlog hquiet).1.symm
  obtain ⟨entries, hworld⟩ := hlog.trans (findById_log v id)
  have htruthful := answer_truthful (.findById id) v
  unfold run at hlookUp
  generalize w.stored id = x at hanswer
  rw [attempt, run, Users.run_get, run_bind, hlookUp, run_call]
  generalize answer (.findById id) v = y at hanswer hworld htruthful
  obtain ⟨y, v'⟩ := y
  obtain rfl : y = x := hanswer
  obtain rfl : v' = { w with entries } := hworld
  rcases y with e | _ | u
  · refine ⟨rfl, ?_, fun _ => rfl⟩
    rintro _ ⟨⟩
  · refine ⟨rfl, ?_, fun _ => rfl⟩
    rintro _ ⟨⟩
  · obtain rfl : u.id = id := htruthful u rfl
    dsimp only
    rw [run_bind]
    refine ⟨rfl, ?_, fun hnone => absurd rfl (hnone u)⟩
    rintro _ ⟨⟩
    exact caching_remember (w := { w with entries }) hcaching hset u

end World

/-! ## What is written and read -/

namespace Cache.Remote

variable {r : Remote User} {s : Server}

/-- A user that can be written is put on a working server as JSON. -/
theorem set_of_writable (hcodec : r.codec = .user) (hworks : s.fault = none) {u : User} (hu : Codec.Writable u) (key : Text) :
    (r.set s key u).2 =
      s.put (r.fullKey key)
        { content := .text (Codec.userJson u).render, left := s.lifetime (r.fullKey key) r.ttl } := by
  have hencode : r.codec.encode u = .ok (Codec.userJson u).render := by
    rw [hcodec]
    exact Codec.encode_user_iff.mpr ⟨hu, rfl⟩
  simp only [set, hencode, Server.send_ok, Server.set, hworks]

/-- Nothing is put there for any other user. -/
theorem set_of_not_writable (hcodec : r.codec = .user) {u : User} (hu : ¬Codec.Writable u) (key : Text)
    (patience : Except Fault Unit) : (r.set s key u patience).2 = s := by
  cases hencode : r.codec.encode u with
  | error t => simp only [set, hencode]
  | ok t =>
    rw [hcodec] at hencode
    exact absurd (Codec.encode_user_iff.mp hencode).1 hu

/-- Nor for a caller who has given up. -/
theorem set_of_given_up (f : Fault) (u : User) (key : Text) : (r.set s key u (.error f)).2 = s := by
  cases hencode : r.codec.encode u with
  | error t => simp only [set, hencode]
  | ok t => simp only [set, hencode, Server.send]

/-- Where a look-up fails it fails for every caller, if only because the caller has given up. -/
theorem get_of_error {key : Text} {f : Fault} (hbad : r.get s key = .error f) (patience : Except Fault Unit) :
    ∃ f', r.get s key patience = .error f' := by
  cases patience with
  | ok _ => exact ⟨f, hbad⟩
  | error f' => exact ⟨_, rfl⟩

/-- What is read where the text of a user has been put. -/
theorem get_put (hcodec : r.codec = .user) (hworks : s.fault = none) {u : User} (hu : Codec.Writable u) (key : Text)
    (left : Option Span) :
    r.get (s.put (r.fullKey key) { content := .text (Codec.userJson u).render, left }) key = .ok (some (Codec.recoded u)) := by
  have hdecode : r.codec.decode (Codec.userJson u).render = .ok (Codec.recoded u) := by
    rw [hcodec]
    exact Codec.decode_user hu
  have htext : (s.put (r.fullKey key) { content := .text (Codec.userJson u).render, left }).get (r.fullKey key) =
      .ok (some (Codec.userJson u).render) := by
    have hfault : (s.put (r.fullKey key) { content := .text (Codec.userJson u).render, left }).fault = none := hworks
    simp only [Server.get, hfault, Server.text?, Server.lookup_put, if_true]
  simp only [get, Server.send_ok, htext, found, decode, hdecode, Except.map]

end Cache.Remote

/-! ## Unreadable entries -/

namespace World

/-- Whatever the server holds under the key of a user, if the cache fails over it a look-up answers what the store has. If
that is a user, and one that can be written, and the caller has not given up, the server holds its JSON without the hash
from then on, for as long as the cache is to keep it: for the time to live, if that is whole milliseconds. Whatever becomes
of the store, the cache then answers every caller who waits with what that text keeps of the user: all of it, unless texts
have stray bytes or times have offsets with seconds. In every other case the entry stays. -/
theorem unreadable_entry_is_replaced {w : World} {r : Remote User} {s : Server} {id : UInt64} {f : Fault}
    (hcaching : w.caching = .onServer r s) (hcodec : r.codec = .user) (hworks : s.fault = none)
    (hget : w.failure? .cacheGet = none) (hset : w.failure? .cacheSet = none) (hbad : r.get s (User.key id) = .error f) :
    let after := (w.attempt (Users.get true id)).2
    (w.attempt (Users.get true id)).1 = Users.found id (w.stored id) ∧ after.storage = w.storage ∧
    (∀ u, w.patience = .ok () → w.stored id = .ok (some u) → Codec.Writable u →
      after.caching = .onServer r (s.put (r.fullKey (User.key id))
        { content := .text (Codec.userJson u.withoutHash).render, left := s.lifetime (r.fullKey (User.key id)) r.ttl }) ∧
      (0 < r.ttl → Span.millisecond ∣ r.ttl → s.lifetime (r.fullKey (User.key id)) r.ttl = some r.ttl) ∧
      (∀ v : World, v.caching = after.caching → v.failure? .cacheGet = none → v.patience = .ok () →
        v.attempt (Users.get true id) = (.ok (Codec.recoded u.withoutHash), v)) ∧
      (Codec.Exact u.withoutHash → Codec.recoded u.withoutHash = u.withoutHash)) ∧
    ((w.patience = .ok () → ∀ u, w.stored id = .ok (some u) → ¬Codec.Writable u) → after.caching = w.caching) := by
  intro after
  obtain ⟨f', hfails⟩ := Remote.get_of_error hbad w.patience
  obtain ⟨hanswer, hfilled, hunfilled⟩ := attempt_get_of_server_error hcaching hget hset hfails
  have hstorage : after.storage = w.storage := by
    refine run_reads ((Users.get_looksUp true id).mono ?_) w
    rintro c (hc | ⟨i, rfl⟩)
    · exact Call.Idle.reads hc
    · rfl
  refine ⟨hanswer, hstorage, ?_, ?_⟩
  · intro u hpatience hu hwritable
    have hwithout : Codec.Writable u.withoutHash := ⟨hwritable.createdAt, hwritable.updatedAt⟩
    have hafter : after.caching = .onServer r (s.put (r.fullKey (User.key id))
        { content := .text (Codec.userJson u.withoutHash).render, left := s.lifetime (r.fullKey (User.key id)) r.ttl }) := by
      rw [← Remote.set_of_writable hcodec hworks hwithout, ← hpatience]
      exact hfilled u hu
    refine ⟨hafter, Server.lifetime_of_dvd s _, ?_, fun hexact => hexact.recoded⟩
    intro v hv hget' hpatience'
    refine attempt_get_of_server_hit (hv.trans hafter) hget' ?_
    rw [hpatience']
    exact Remote.get_put hcodec hworks hwithout (User.key id) _
  · intro hnone
    by_cases hfound : ∃ u, w.stored id = .ok (some u)
    · obtain ⟨u, hu⟩ := hfound
      have hunwritten : (r.set s (User.key id) u.withoutHash w.patience).2 = s := by
        cases hpatience : w.patience with
        | error f => exact Remote.set_of_given_up f _ _
        | ok _ =>
          refine Remote.set_of_not_writable hcodec (fun h => ?_) _ _
          exact hnone hpatience u hu ⟨h.createdAt, h.updatedAt⟩
      have hafter := hfilled u hu
      rw [hunwritten, ← hcaching] at hafter
      exact hafter
    · exact hunfilled fun u hu => hfound ⟨u, hu⟩

/-- A cache that keeps users for a minute. -/
def minuteCache : Remote User := ⟨.user, "users", 60 * Span.second⟩

/-- A server that holds some content under the key of a user. -/
def holding (id : UInt64) (content : Content) : Server :=
  { entries := [(minuteCache.fullKey (User.key id), { content })] }

/-- A world with one stored user, and with some content under the key of that user on the server of the cache. -/
def spoilt (u : User) (content : Content) : World :=
  { clock := 0
    storage := .memory ⟨[u]⟩
    caching := .onServer minuteCache (holding u.id content) }

/-- JSON that names another user before its shape is wrong: the stored user is found, and found in the cache afterwards. If the
caller has given up, the entry stays. -/
theorem misshapen_entry_is_replaced :
    let ann : User := { id := 1, name := "Ann", email := "ann@example.com", role := "admin", passwordHash := "hash" }
    let content : Content := .text "\x7b\"ID\":2,\"Name\":\"Eve\",\"Role\":\"viewer\",\"Active\":7\x7d"
    let after := ((spoilt ann content).attempt (Users.get true 1)).2
    ((spoilt ann content).attempt (Users.get true 1)).1 = .ok ann ∧
    after.caching = .onServer minuteCache ((holding 1 content).put (minuteCache.fullKey (User.key 1))
      { content := .text (Codec.userJson ann.withoutHash).render, left := some (60 * Span.second) }) ∧
    after.attempt (Users.get true 1) = (.ok ann.withoutHash, after) ∧
    (World.attempt { spoilt ann content with canceled := true } (Users.get true 1)).2.caching =
      .onServer minuteCache (holding 1 content) := by
  intro ann content after
  have hfails : (minuteCache.get (holding 1 content) (User.key 1)).toBool = false := by
    decide +kernel
  have hportable : Codec.Portable ann.withoutHash := by
    refine ⟨?_, ?_, ?_, ?_, ⟨rfl, ?_, ?_⟩, ⟨rfl, ?_, ?_⟩⟩
    all_goals decide +kernel
  have hcaching : (spoilt ann content).caching = .onServer minuteCache (holding 1 content) := rfl
  have hstored : (spoilt ann content).stored 1 = .ok (some ann) := rfl
  have hwritable : Codec.Writable ann := ⟨hportable.writable.createdAt, hportable.writable.updatedAt⟩
  clear_value ann content
  cases hread : minuteCache.get (holding 1 content) (User.key 1) with
  | ok o =>
    rw [hread] at hfails
    cases hfails
  | error f =>
    obtain ⟨hanswer, -, hreplaced, -⟩ := unreadable_entry_is_replaced hcaching rfl rfl rfl rfl hread
    obtain ⟨hafter, hleft, hhit, hexact⟩ := hreplaced ann rfl hstored hwritable
    rw [hstored] at hanswer
    rw [hleft (by decide) (by decide)] at hafter
    rw [hexact hportable.exact] at hhit
    have hworks : after.failure? .cacheGet = none := by
      show (((spoilt ann content).run (Users.get true 1).run).2.failing).lookup .cacheGet = none
      rw [run_failing]
      rfl
    obtain ⟨-, -, -, hstays⟩ := unreadable_entry_is_replaced (w := { spoilt ann content with canceled := true }) hcaching rfl
      rfl rfl rfl hread
    refine ⟨hanswer, hafter, hhit after rfl hworks (patience_get _ true 1), (hstays ?_).trans hcaching⟩
    intro hwaits
    cases hwaits

/-- A byte that is not UTF-8 does not come back from the cache that was filled over an unreadable entry. -/
theorem stray_byte_is_lost_in_cache :
    let ann : User := { id := 1, name := [255], email := "ann@example.com", role := "viewer" }
    let w := spoilt ann (.text "junk")
    let after := (w.attempt (Users.get true 1)).2
    (w.attempt (Users.get true 1)).1.toOption = some ann ∧
    (after.attempt (Users.get true 1)).1.toOption = some { ann with name := [239, 191, 189] } := by
  decide +kernel

end World
end Roster
