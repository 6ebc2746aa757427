import Roster.Cache.Local
import Roster.Cache.Remote
import Roster.Proofs.IssuedTokens
import Roster.Proofs.TimestampText

/-!
# The cache on a server behaves like the one in the process

Values go to the server as JSON and come back as they were: texts with any characters, lists and the absence of one, integers
of 64 bits, and users with all their fields (`Codec.Faithful`). Keys of the cache never meet on the server, whatever the key
space. So a cache that has a working server for itself and lets nothing expire answers every call as the cache in the process
does, and never fails.

A step of the one is followed by a step of the other (`Mirrors.step`), and so are whole runs.
-/

namespace Roster

namespace Timestamp

/-- A timestamp is written in ASCII. -/
theorem repaired_renderFull {t : Timestamp} (h : t.Writable) : t.renderFull.repaired = t.renderFull := by
  refine Text.repaired_of_ascii ?_
  have hpadded : ∀ w n, (Text.padded w n).all (· < 128) = true := by
    intro w n
    rw [List.all_eq_true]
    intro b hb
    exact decide_eq_true (Text.lt_of_isDigit (List.all_eq_true.mp (Text.all_isDigit_padded w n) b hb))
  have hfraction : (renderFraction t.nanosecond).all (· < 128) = true := by
    unfold renderFraction
    split
    · rfl
    · obtain ⟨k, hk⟩ := dropEndWhile_zeros (Text.padded 9 t.nanosecond)
      have hall := hpadded 9 t.nanosecond
      rw [hk, List.all_append, Bool.and_eq_true] at hall
      rw [List.all_cons, hall.1]
      decide
  have hoffset : t.renderOffset.all (· < 128) = true := by
    unfold renderOffset offsetSign
    split
    · decide +kernel
    · simp only [List.cons_append, List.all_cons, List.all_append, hpadded]
      split <;> decide
  obtain ⟨year, -, -, hrender⟩ := exists_written h
  have hall : t.renderFull.all (· < 128) = true := by
    simp only [hrender, written, List.all_append, List.all_cons, hpadded, hfraction, hoffset]
    decide
  intro b hb
  exact of_decide_eq_true (List.all_eq_true.mp hall b hb)

end Timestamp

namespace Cache

variable {α : Type}

/-! ## Runs -/

/-- What is asked of a cache. Time may pass in between. -/
inductive Step (α : Type) where
  | set (key : Text) (value : α)
  | get (key : Text)
  | remove (key : Text)
  | pass (d : Span)

/-- A step puts no values into a cache but good ones. -/
def Step.Puts (good : α → Prop) : Step α → Prop
  | .set _ value => good value
  | _ => True

/-- The answer of the cache in the process, if there is something to tell, and the cache after that. -/
def Local.step (c : Local α) : Step α → Option α × Local α
  | .set key value => (none, c.set key value)
  | .get key => (c.get? key, c)
  | .remove key => c.remove key
  | .pass _ => (none, c)

/-- The answers to one step after the other. -/
def Local.answers (c : Local α) : List (Step α) → List (Option α)
  | [] => []
  | step :: rest => (c.step step).1 :: (c.step step).2.answers rest

/-- The answer of a cache on a server, and the server after that. -/
def Remote.step (r : Remote α) (s : Server) : Step α → Except Fault (Option α) × Server
  | .set key value => ((r.set s key value).1.map fun _ => none, (r.set s key value).2)
  | .get key => (r.get s key, s)
  | .remove key => r.remove s key
  | .pass d => (.ok none, s.age d)

/-- The answers to one step after the other. -/
def Remote.answers (r : Remote α) (s : Server) : List (Step α) → List (Except Fault (Option α))
  | [] => []
  | step :: rest => (r.step s step).1 :: r.answers (r.step s step).2 rest

/-! ## The server -/

namespace Server

/-- After a key has been erased nothing is under it, and the others are as they were. -/
theorem lookup_erase (s : Server) (key key' : Text) :
    (s.erase key).entries.lookup key' = if key' = key then none else s.entries.lookup key' :=
  Local.get?_erase ⟨s.entries⟩ key key'

/-- After an entry has been put it is under its key, and the others are as they were. -/
theorem lookup_put (s : Server) (key key' : Text) (e : Entry) :
    (s.put key e).entries.lookup key' = if key' = key then some e else s.entries.lookup key' :=
  Local.get?_set ⟨s.entries⟩ key key' e

/-- A caller who waits has commands sent. -/
theorem send_ok {β : Type} (s : Server) (command : Server → Except Fault β × Server) :
    s.send (.ok ()) command = command s := rfl

/-- Without a time to live a text stays until it is removed. -/
theorem lifetime_zero (s : Server) (key : Text) : s.lifetime key 0 = none := rfl

/-- With one of whole milliseconds a text stays for just that time. -/
theorem lifetime_of_dvd (s : Server) (key : Text) {ttl : Span} (hpos : 0 < ttl) (hwhole : Span.millisecond ∣ ttl) :
    s.lifetime key ttl = some ttl := by
  have hmillisecond : (0 : Int) < Span.millisecond := by decide
  have hsome : 1 ≤ ttl / Span.millisecond := (Int.le_ediv_iff_mul_le hmillisecond).mpr (by
    rw [Int.one_mul]
    exact Int.le_of_dvd hpos hwhole)
  rw [lifetime, if_pos hpos, max_eq_left hsome, Int.ediv_mul_cancel hwhole]

/-- Everything on the server stays there until it is removed. -/
def Lasting (s : Server) : Prop := ∀ e ∈ s.entries, e.2.left = none

/-- Erasing a key leaves entries that last. -/
theorem Lasting.erase {s : Server} (h : s.Lasting) (key : Text) : (s.erase key).Lasting := by
  intro e he
  exact h e (List.mem_of_mem_filter he)

/-- Putting an entry that lasts leaves entries that last. -/
theorem Lasting.put {s : Server} (h : s.Lasting) (key : Text) {e : Entry} (he : e.left = none) : (s.put key e).Lasting := by
  intro e' he'
  rcases List.mem_cons.mp he' with rfl | hmem
  · exact he
  · exact h.erase key e' hmem

/-- Time does nothing to what stays. -/
theorem Lasting.age {s : Server} (h : s.Lasting) (d : Span) : s.age d = s := by
  have hkept : (s.age d).entries = s.entries.filterMap some := by
    refine List.filterMap_congr ?_
    intro e he
    have hleft := h e he
    obtain ⟨key, content, left⟩ := e
    obtain rfl : left = none := hleft
    rfl
  rw [List.filterMap_some] at hkept
  exact congrArg (fun entries => { s with entries }) hkept

end Server

/-! ## Keys -/

/-- Keys do not meet in a key space. -/
theorem Remote.fullKey_inj (r : Remote α) {key key' : Text} : r.fullKey key = r.fullKey key' ↔ key = key' := by
  constructor
  · intro h
    exact List.tail_eq_of_cons_eq (List.append_cancel_left h)
  · rintro rfl
    rfl

/-! ## Following the cache in the process -/

/-- Good values can be written, and are read back as they were. -/
def Codec.Faithful (codec : Codec α) (good : α → Prop) : Prop :=
  ∀ a, good a → ∃ t, codec.encode a = .ok t ∧ codec.decode t = .ok a

/-- What the server has under a key stands for the value that the cache in the process has there. -/
inductive Holds (codec : Codec α) : Option Entry → Option α → Prop where
  | nothing : Holds codec none none
  | text {t : Text} {a : α} : codec.decode t = .ok a → Holds codec (some { content := .text t }) (some a)

/-- A working server that keeps, under the keys of a cache, what the cache in the process keeps. -/
structure Mirrors (r : Remote α) (s : Server) (c : Local α) : Prop where
  working : s.fault = none
  lasting : s.Lasting
  holds : ∀ key, Holds r.codec (s.entries.lookup (r.fullKey key)) (c.get? key)

/-- An empty server mirrors an empty cache. -/
theorem mirrors_empty (r : Remote α) : Mirrors r {} {} := by
  refine ⟨rfl, ?_, fun key => .nothing⟩
  intro e he
  cases he

namespace Mirrors

variable {r : Remote α} {s : Server} {c : Local α} (h : Mirrors r s c)
include h

/-- Reading gives the value of the cache in the process. -/
theorem found (command key : Text) : r.found command key (s.text? (r.fullKey key)) = .ok (c.get? key) := by
  have hheld := h.holds key
  generalize hentry : s.entries.lookup (r.fullKey key) = entry at hheld
  generalize c.get? key = value at hheld
  cases hheld with
  | nothing => simp only [Server.text?, hentry, Remote.found]
  | text hdecode => simp only [Server.text?, hentry, Remote.found, Remote.decode, hdecode, Except.map]

/-- A look-up on a lasting server finds what is there. -/
theorem get (key : Text) : s.get (r.fullKey key) = s.text? (r.fullKey key) := by
  rw [Server.get, h.working]

/-- A text that reads as a value, put under the full key, mirrors the value set under the key. -/
theorem put {key t : Text} {a : α} (ha : r.codec.decode t = .ok a) :
    Mirrors r (s.put (r.fullKey key) { content := .text t }) (c.set key a) := by
  refine ⟨h.working, h.lasting.put _ rfl, fun key' => ?_⟩
  simp only [Server.lookup_put, Local.get?_set, r.fullKey_inj]
  split
  · exact .text ha
  · exact h.holds key'

/-- Erasing the full key mirrors erasing the key. -/
theorem erase (key : Text) : Mirrors r (s.erase (r.fullKey key)) (c.erase key) := by
  refine ⟨h.working, h.lasting.erase _, fun key' => ?_⟩
  simp only [Server.lookup_erase, Local.get?_erase, r.fullKey_inj]
  split
  · exact .nothing
  · exact h.holds key'

/-- Every step is answered as by the cache in the process, and the server goes on keeping what that cache keeps. -/
theorem step (httl : r.ttl = 0) {good : α → Prop} (hcodec : r.codec.Faithful good) {step : Step α} (hgood : step.Puts good) :
    (r.step s step).1 = .ok (c.step step).1 ∧ Mirrors r (r.step s step).2 (c.step step).2 := by
  cases step with
  | set key value =>
    obtain ⟨t, hencode, hdecode⟩ := hcodec value hgood
    have hset : r.set s key value = (.ok (), s.put (r.fullKey key) { content := .text t }) := by
      simp only [Remote.set, hencode, Server.send_ok, Server.set, h.working, httl, Server.lifetime_zero]
    simp only [Remote.step, hset]
    exact ⟨rfl, h.put hdecode⟩
  | get key =>
    refine ⟨?_, h⟩
    show r.found _ key (s.get (r.fullKey key)) = _
    rw [h.get]
    exact h.found _ key
  | remove key =>
    have hfound := h.found "getdel" key
    cases htext : s.text? (r.fullKey key) with
    | error f =>
      rw [htext] at hfound
      cases hfound
    | ok t =>
      rw [htext] at hfound
      have hremove : r.remove s key = (r.found "getdel" key (.ok t), s.erase (r.fullKey key)) := by
        simp only [Remote.remove, Server.send_ok, Server.getDel, h.get, htext]
      simp only [Remote.step, hremove, Local.step, Local.remove]
      exact ⟨hfound, h.erase key⟩
  | pass d =>
    refine ⟨rfl, ?_⟩
    show Mirrors r (s.age d) c
    rw [h.lasting.age]
    exact h

/-- So are all the steps of a run. -/
theorem answers (httl : r.ttl = 0) {good : α → Prop} (hcodec : r.codec.Faithful good) {steps : List (Step α)}
    (hgood : ∀ step ∈ steps, step.Puts good) : r.answers s steps = (c.answers steps).map .ok := by
  induction steps generalizing s c with
  | nil => rfl
  | cons step rest ih =>
    obtain ⟨hanswer, hmirrors⟩ := h.step httl hcodec (hgood step List.mem_cons_self)
    rw [Remote.answers, Local.answers, List.map_cons, hanswer]
    rw [ih hmirrors fun step' hstep => hgood step' (List.mem_cons_of_mem _ hstep)]

end Mirrors

/-! ## Values and their text -/

namespace Codec

/-- A value is read back if its JSON is, and if it is read from that. -/
theorem decode_ofJson {read : Json.Reader α} {blank a : α} {v : Json} (hclean : v.Clean)
    (hheight : v.height ≤ Json.Parse.maxDepth) (hread : read blank v = .ok a) : Json.decode read blank v.render = .ok a := by
  rw [Json.decode, Json.parse_render hclean hheight]
  exact hread

/-- Texts of valid UTF-8 come back as they were. -/
theorem text_faithful : text.Faithful fun t => t.isUtf8 = true := by
  intro t ht
  exact ⟨_, rfl, decode_ofJson (Text.repaired_of_isUtf8 ht) (Nat.zero_le _) rfl⟩

/-- The integer that a numeral denotes is the one it was written for. -/
theorem integer?_decimalInt (n : Int) : Json.integer? (Text.decimalInt n) = some n := by
  cases n with
  | ofNat n =>
    obtain ⟨b, t, hn, hb, -⟩ := Text.decimal_cons n
    have hminus : (b == Text.byte '-') = false := by
      rw [beq_eq_false_iff_ne]
      rintro rfl
      exact absurd hb (by decide)
    have hread := Text.toNat?_decimal n
    rw [hn] at hread
    show Json.integer? (Text.decimal n) = _
    rw [hn]
    simp only [Json.integer?, hminus, Bool.false_eq_true, if_false, hread, Option.map_some]
  | negSucc n =>
    show Json.integer? (Text.byte '-' :: Text.decimal (n + 1)) = _
    simp only [Json.integer?, beq_self_eq_true, if_true, Text.toNat?_decimal]
    rfl

/-- An integer of 64 bits is read as it is. -/
theorem readInt64_int {n : Int} (h : -2 ^ 63 ≤ n ∧ n < 2 ^ 63) (old : Int) : Json.readInt64 old (.int n) = .ok n := by
  have hrange : (decide (-(Word.half : Int) ≤ n) && decide (n < (Word.half : Int))) = true := by
    simp only [Bool.and_eq_true, decide_eq_true_eq]
    exact h
  simp only [Json.int, Json.readInt64, integer?_decimalInt, hrange, if_true]

/-- Integers of 64 bits come back as they were. -/
theorem int_faithful : int.Faithful fun n => -2 ^ 63 ≤ n ∧ n < 2 ^ 63 := by
  intro n hn
  exact ⟨_, rfl, decode_ofJson ⟨n, rfl⟩ (Nat.zero_le _) (readInt64_int hn _)⟩

/-- A list of texts is read item by item, whatever was there before. -/
theorem readItems_texts (i : Nat) (olds ts : List Text) :
    Json.readItems [] Json.readText i olds (ts.map Json.string) = .ok ts := by
  induction ts generalizing i olds with
  | nil => rfl
  | cons t ts ih =>
    rw [List.map_cons, Json.readItems, ih]
    rfl

/-- Texts of valid UTF-8 are written as they are. -/
theorem clean_texts {ts : List Text} (h : ∀ t ∈ ts, t.isUtf8 = true) : Json.CleanItems (ts.map Json.string) := by
  induction ts with
  | nil => trivial
  | cons t ts ih =>
    have hrest : ∀ u ∈ ts, u.isUtf8 = true := fun u hu => h u (List.mem_cons_of_mem _ hu)
    exact ⟨Text.repaired_of_isUtf8 (h t List.mem_cons_self), ih hrest⟩

/-- A list of texts is not nested. -/
theorem heightItems_texts (ts : List Text) : Json.heightItems (ts.map Json.string) = 0 := by
  induction ts with
  | nil => rfl
  | cons t ts ih =>
    rw [List.map_cons, Json.heightItems, ih]
    rfl

/-- Lists of texts come back as they were, and so does the absence of one. -/
theorem texts_faithful : texts.Faithful fun o => ∀ ts ∈ o, ∀ t ∈ ts, t.isUtf8 = true := by
  intro o ho
  cases o with
  | none =>
    have hclean : Json.null.Clean := trivial
    refine ⟨Json.null.render, rfl, ?_⟩
    show Json.decode (Json.readList? "[]string" [] Json.readText) none Json.null.render = .ok none
    exact decode_ofJson hclean (Nat.zero_le _) rfl
  | some ts =>
    have hheight : (Json.array (ts.map Json.string)).height ≤ Json.Parse.maxDepth := by
      rw [Json.height, heightItems_texts]
      decide
    have hclean : (Json.array (ts.map Json.string)).Clean := clean_texts (ho ts rfl)
    refine ⟨_, rfl, decode_ofJson hclean hheight ?_⟩
    simp only [Json.readList?, readItems_texts]
    rfl

/-- A time that can be written is read back with its offset in whole minutes. -/
theorem readTimestamp_renderFull {t : Timestamp} (h : t.Writable) (old : Timestamp) :
    Json.readTimestamp old (.string t.renderFull) = .ok t.inMinutes := by
  simp only [Json.readTimestamp, Timestamp.parse_renderFull h]

/-- An id is read back from its number. -/
theorem readUInt64_nat (n old : UInt64) : Json.readUInt64 old (.nat n.toNat) = .ok n := by
  have hword : n.toNat < Word.count := n.toNat_lt
  simp only [Json.nat, Json.readUInt64, Text.toNat?_decimal, hword, if_true]
  rw [Nat.toUInt64_eq, UInt64.ofNat_toNat]

/-! ## Users and their text -/

/-- A user both of whose times can be written. -/
structure Writable (u : User) : Prop where
  createdAt : u.createdAt.Writable
  updatedAt : u.updatedAt.Writable

/-- A user with every invalid byte in its texts replaced. -/
def legible (u : User) : User :=
  { u with
    name := u.name.repaired
    email := u.email.repaired
    role := u.role.repaired
    passwordHash := u.passwordHash.repaired }

/-- What is left of a user in its text. -/
def recoded (u : User) : User :=
  { legible u with createdAt := u.createdAt.inMinutes, updatedAt := u.updatedAt.inMinutes }

/-- A time has no flaw exactly if it can be written. -/
theorem timeFlaw?_eq_none {t : Timestamp} : timeFlaw? t = none ↔ t.Writable := by
  constructor
  · intro h
    unfold timeFlaw? at h
    split at h
    · cases h
    split at h
    · cases h
    · rename_i hyear hoffset
      simp only [Bool.or_eq_true, decide_eq_true_eq] at hyear
      exact ⟨by omega, by omega, by omega⟩
  · intro h
    have hfirst := h.year_nonneg
    have hlast := h.year_le
    have hoffset := h.offset_lt
    have hyear : (decide (t.date.year < 0) || decide (9999 < t.date.year)) = false := by
      simp only [Bool.or_eq_false_iff, decide_eq_false_iff_not]
      omega
    rw [timeFlaw?, hyear, if_neg Bool.false_ne_true, if_neg (by omega)]

/-- A user is written exactly if both times can be. -/
theorem encode_user_iff {u : User} {t : Text} : user.encode u = .ok t ↔ Writable u ∧ t = (userJson u).render := by
  constructor
  · intro h
    cases hflaw : (timeFlaw? u.createdAt).or (timeFlaw? u.updatedAt) with
    | some why =>
      simp only [user, hflaw] at h
      cases h
    | none =>
      simp only [user, hflaw] at h
      rw [Option.or_eq_none_iff] at hflaw
      cases h
      exact ⟨⟨timeFlaw?_eq_none.mp hflaw.1, timeFlaw?_eq_none.mp hflaw.2⟩, rfl⟩
  · rintro ⟨h, rfl⟩
    simp only [user, timeFlaw?_eq_none.mpr h.createdAt, timeFlaw?_eq_none.mpr h.updatedAt, Option.none_or]

/-- A text is written as its repaired form is. -/
theorem renderText_repaired (t : Text) : Json.renderText t.repaired = Json.renderText t := by
  have hchars : ∀ t : Text, (t.runes.flatMap fun r => Json.escapeChar r.toChar) = t.chars.flatMap Json.escapeChar := by
    intro t
    rw [Text.chars, List.flatMap_map]
  rw [Json.renderText, Json.renderText, hchars, hchars, Text.repaired, Text.chars_ofChars]

/-- Invalid bytes are replaced in writing. -/
theorem render_legible (u : User) : (userJson (legible u)).render = (userJson u).render := by
  have hstring : ∀ t, (Json.string t).render = Json.renderText t := fun _ => rfl
  have hobject : ∀ ms, (Json.object ms).render = Text.byte '\x7b' :: Json.renderMembers ms ++ [Text.byte '\x7d'] :=
    fun _ => rfl
  simp only [userJson, legible, hobject, Json.renderMembers_cons, Json.renderMembers_single, hstring, renderText_repaired]

/-- A user that can be written is written from clean texts, once these are legible. -/
theorem clean_legible {u : User} (h : Writable u) : (userJson (legible u)).Clean := by
  have hkey : ∀ cs, (Text.ofChars cs).repaired = Text.ofChars cs := Text.repaired_ofChars
  exact ⟨hkey _, ⟨u.id.toNat, rfl⟩, hkey _, hkey _, hkey _, hkey _, hkey _, hkey _, hkey _, trivial, hkey _, hkey _,
    hkey _, Timestamp.repaired_renderFull h.createdAt, hkey _, Timestamp.repaired_renderFull h.updatedAt, trivial⟩

/-- The members of a user are read back into its fields, with the offsets of its times in whole minutes. -/
theorem readMembers_user {u : User} (h : Writable u) :
    Json.readMembers userFields User.blank
      [("ID", .nat u.id.toNat), ("Name", .string u.name), ("Email", .string u.email), ("Role", .string u.role),
        ("Active", .bool u.active), ("PasswordHash", .string u.passwordHash), ("CreatedAt", .string u.createdAt.renderFull),
        ("UpdatedAt", .string u.updatedAt.renderFull)] =
      .ok { u with createdAt := u.createdAt.inMinutes, updatedAt := u.updatedAt.inMinutes } := by
  rw [Json.readMembers_found rfl (congrArg (Except.map _) (readUInt64_nat u.id _)), Json.readMembers_found rfl rfl,
    Json.readMembers_found rfl rfl, Json.readMembers_found rfl rfl, Json.readMembers_found rfl rfl,
    Json.readMembers_found rfl rfl,
    Json.readMembers_found rfl (congrArg (Except.map _) (readTimestamp_renderFull h.createdAt _)),
    Json.readMembers_found rfl (congrArg (Except.map _) (readTimestamp_renderFull h.updatedAt _))]
  rfl

/-- What is read from the text of a user. -/
theorem decode_user {u : User} (h : Writable u) : user.decode (userJson u).render = .ok (recoded u) := by
  have hlegible : Writable (legible u) := ⟨h.createdAt, h.updatedAt⟩
  have hheight : (userJson (legible u)).height ≤ Json.Parse.maxDepth := by
    simp [userJson, Json.height, Json.heightMembers, Json.Parse.maxDepth, Json.nat]
  rw [← render_legible]
  refine decode_ofJson (clean_legible h) hheight ?_
  show (Json.readMembers userFields User.blank _).mapError _ = _
  rw [readMembers_user hlegible]
  rfl

/-- A user of which nothing is lost in its text: its texts are valid, and its times have offsets in whole minutes. -/
structure Exact (u : User) : Prop where
  name : u.name.isUtf8 = true
  email : u.email.isUtf8 = true
  role : u.role.isUtf8 = true
  passwordHash : u.passwordHash.isUtf8 = true
  createdAt : u.createdAt.offset.tmod 60 = 0
  updatedAt : u.updatedAt.offset.tmod 60 = 0

/-- An exact user comes back as it was. -/
theorem Exact.recoded {u : User} (h : Exact u) : recoded u = u := by
  simp only [Codec.recoded, legible, Text.repaired_of_isUtf8 h.name, Text.repaired_of_isUtf8 h.email,
    Text.repaired_of_isUtf8 h.role, Text.repaired_of_isUtf8 h.passwordHash, Timestamp.inMinutes_of_tmod h.createdAt,
    Timestamp.inMinutes_of_tmod h.updatedAt]

/-- A user whose texts are valid, with times in universal time and years of four digits. -/
structure Portable (u : User) : Prop where
  name : u.name.isUtf8 = true
  email : u.email.isUtf8 = true
  role : u.role.isUtf8 = true
  passwordHash : u.passwordHash.isUtf8 = true
  createdAt : u.createdAt.Plain
  updatedAt : u.updatedAt.Plain

/-- A portable user can be written. -/
theorem Portable.writable {u : User} (h : Portable u) : Writable u := ⟨h.createdAt.writable, h.updatedAt.writable⟩

/-- A portable user is exact. -/
theorem Portable.exact {u : User} (h : Portable u) : Exact u := by
  refine ⟨h.name, h.email, h.role, h.passwordHash, ?_, ?_⟩
  · rw [h.createdAt.universal]
    rfl
  · rw [h.updatedAt.universal]
    rfl

/-- Portable users come back as they were. -/
theorem user_faithful : user.Faithful Portable := by
  intro u hu
  refine ⟨_, encode_user_iff.mpr ⟨hu.writable, rfl⟩, ?_⟩
  rw [decode_user hu.writable, hu.exact.recoded]

end Codec

/-! ## The two caches -/

/-- On a working server of its own, and with nothing to expire, a cache answers every call as the one in the process does, and
never fails. -/
theorem remote_answers_as_local (space : Text) :
    (∀ steps : List (Step Text), (∀ step ∈ steps, step.Puts fun t => t.isUtf8 = true) →
      Remote.answers ⟨.text, space, 0⟩ {} steps = (Local.answers {} steps).map .ok) ∧
    (∀ steps : List (Step (Option (List Text))), (∀ step ∈ steps, step.Puts fun o => ∀ ts ∈ o, ∀ t ∈ ts, t.isUtf8 = true) →
      Remote.answers ⟨.texts, space, 0⟩ {} steps = (Local.answers {} steps).map .ok) ∧
    (∀ steps : List (Step Int), (∀ step ∈ steps, step.Puts fun n => -2 ^ 63 ≤ n ∧ n < 2 ^ 63) →
      Remote.answers ⟨.int, space, 0⟩ {} steps = (Local.answers {} steps).map .ok) ∧
    (∀ steps : List (Step User), (∀ step ∈ steps, step.Puts Codec.Portable) →
      Remote.answers ⟨.user, space, 0⟩ {} steps = (Local.answers {} steps).map .ok) := by
  refine ⟨?_, ?_, ?_, ?_⟩
  · intro steps hgood
    exact (mirrors_empty _).answers rfl Codec.text_faithful hgood
  · intro steps hgood
    exact (mirrors_empty _).answers rfl Codec.texts_faithful hgood
  · intro steps hgood
    exact (mirrors_empty _).answers rfl Codec.int_faithful hgood
  · intro steps hgood
    exact (mirrors_empty _).answers rfl Codec.user_faithful hgood

/-- A user with the largest id, a name that JSON has to escape, and the last nanosecond that can be written. -/
def detailed : User :=
  { id := 18446744073709551615, name := "<b>É&\u0001\u2028\"", email := "eva@example.com", role := "admin"
    createdAt := { instant := 315537897599999999999 } }

/-- Such a user comes back from the server as it was stored, and having no list is kept apart from having an empty one. -/
theorem detailed_user_comes_back :
    Codec.Portable detailed ∧
    Remote.answers ⟨.user, "users", 0⟩ {} [.set "7" detailed, .get "7", .pass 1, .remove "7", .get "7"] =
      [.ok none, .ok (some detailed), .ok none, .ok (some detailed), .ok none] ∧
    Remote.answers ⟨.texts, [], 0⟩ {} [.set "a" none, .set [] (some []), .get "a", .get []] =
      [.ok none, .ok none, .ok (some none), .ok (some (some []))] := by
  have hportable : Codec.Portable detailed := by
    refine ⟨?_, ?_, ?_, ?_, ⟨rfl, ?_, ?_⟩, ⟨rfl, ?_, ?_⟩⟩
    all_goals decide +kernel
  refine ⟨hportable, ?_, ?_⟩
  · rw [(remote_answers_as_local "users").2.2.2 _ ?_]
    · rfl
    · simp only [List.mem_cons, List.not_mem_nil, or_false, forall_eq_or_imp, forall_eq, Step.Puts, hportable, and_self]
  · rw [(remote_answers_as_local []).2.1 _ ?_]
    · rfl
    · simp [Step.Puts]

end Cache
end Roster
