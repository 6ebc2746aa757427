import Mathlib.Logic.Basic
import Roster.Settings.Load

/-!
# Settings from the environment

Each setting has a variable of its own. Without flags and without a file, a setting is what its variable says, or the default
where the variable is empty or not set, so the settings do not depend on each other's variables (`decode_eq_ok_iff`). Where one
text cannot be read, no settings are loaded. What is loaded has passed the checks (`check_eq_ok_iff`).
-/

namespace Roster.Settings

/-! ## Variables -/

/-- The variables that settings are read from. -/
inductive Variable where
  | port
  | storage
  | databasePath
  | redisUrl
  | cacheSpace
  | cacheTtl
  | secret
  | bcryptCost
  | cookieSecure
  | logLevel
  | fetchDelay
  | counterDelay
  | seed
deriving DecidableEq, Repr

namespace Variable

/-- The name of a variable. -/
def name : Variable → Text
  | port => "ROLECALL_PORT"
  | storage => "ROLECALL_STORAGE"
  | databasePath => "ROLECALL_DATABASE_PATH"
  | redisUrl => "ROLECALL_CACHE_REDIS_URL"
  | cacheSpace => "ROLECALL_CACHE_PREFIX"
  | cacheTtl => "ROLECALL_CACHE_TTL"
  | secret => "ROLECALL_JWT_SECRET"
  | bcryptCost => "ROLECALL_BCRYPT_COST"
  | cookieSecure => "ROLECALL_COOKIE_SECURE"
  | logLevel => "ROLECALL_LOG_LEVEL"
  | fetchDelay => "ROLECALL_FETCH_DELAY"
  | counterDelay => "ROLECALL_COUNTER_DELAY"
  | seed => "ROLECALL_SEED"

/-- The type of a variable's setting. -/
@[reducible]
def Setting : Variable → Type
  | port | storage | databasePath | redisUrl | cacheSpace | secret | logLevel => Text
  | cacheTtl | fetchDelay | counterDelay => Span
  | bcryptCost => Int
  | cookieSecure | seed => Bool

/-- The setting where a variable says nothing. -/
def default : (x : Variable) → x.Setting
  | port => utf8 "8080"
  | storage => utf8 "memory"
  | databasePath => utf8 "rolecall.db"
  | redisUrl => []
  | cacheSpace => utf8 "rolecall:user"
  | cacheTtl => 10 * Span.minute
  | secret => []
  | bcryptCost => (12 : Int)
  | cookieSecure => true
  | logLevel => utf8 "info"
  | fetchDelay => 100 * Span.millisecond
  | counterDelay => 10 * Span.microsecond
  | seed => true

/-- The setting that a text stands for, if it can be read. -/
def read? : (x : Variable) → Text → Option x.Setting
  | port, t | databasePath, t | redisUrl, t | cacheSpace, t | secret, t | logLevel, t => some t
  | storage, t => some (Text.lowered t)
  | cacheTtl, t | fetchDelay, t | counterDelay, t => (Span.parse t).toOption
  | bcryptCost, t => (Numeral.integerAnyBase t).toOption
  | cookieSecure, t | seed, t => Numeral.truth? t

end Variable

/-- The text of a variable; one that is not set has none. -/
def textOf (env : List (Text × Text)) (name : Text) : Text := (env.lookup name).getD []

/-- The setting that an environment gives. -/
def Variable.setting? (x : Variable) (env : List (Text × Text)) : Option x.Setting :=
  if (textOf env x.name).isEmpty then some x.default else x.read? (textOf env x.name)

/-- The setting of a variable. -/
def get (c : Settings) : (x : Variable) → x.Setting
  | .port => c.port
  | .storage => c.storage
  | .databasePath => c.databasePath
  | .redisUrl => c.redisUrl
  | .cacheSpace => c.cacheSpace
  | .cacheTtl => c.cacheTtl
  | .secret => c.secret
  | .bcryptCost => c.bcryptCost
  | .cookieSecure => c.cookieSecure
  | .logLevel => c.logLevel
  | .fetchDelay => c.fetchDelay
  | .counterDelay => c.counterDelay
  | .seed => c.seed

/-! ## Conversions -/

/-- A conversion gives a value and notes nothing, or it notes something. -/
def Decoding.Gives {α : Type} (p : Decoding α) : Option α → Prop
  | some a => ∀ noted, p.run noted = (a, noted)
  | none => ∀ noted, ∃ a more, more ≠ [] ∧ p.run noted = (a, noted ++ more)

namespace Decoding.Gives

variable {α β : Type}

theorem pure (a : α) : Gives (Pure.pure a : Decoding α) (some a) := fun _ => rfl

/-- One conversion after another gives a value if both do; what the first has noted stays noted. -/
theorem bind {p : Decoding α} {r : Option α} {f : α → Decoding β} {g : α → Option β} (hp : p.Gives r)
    (hf : ∀ a, (f a).Gives (g a)) : Gives (p >>= f) (r.bind g) := by
  have hrun : ∀ noted, StateT.run (p >>= f) noted = (f (p.run noted).1).run (p.run noted).2 := fun _ => rfl
  cases r with
  | some a =>
    have hthen := hf a
    show Gives (p >>= f) (g a)
    cases hg : g a with
    | some b =>
      rw [hg] at hthen
      intro noted
      rw [hrun, hp noted]
      exact hthen noted
    | none =>
      rw [hg] at hthen
      intro noted
      rw [hrun, hp noted]
      exact hthen noted
  | none =>
    intro noted
    obtain ⟨a, more, hmore, hnoted⟩ := hp noted
    have hthen := hf a
    rw [hrun, hnoted]
    cases hg : g a with
    | some b =>
      rw [hg] at hthen
      exact ⟨b, more, hmore, hthen _⟩
    | none =>
      rw [hg] at hthen
      obtain ⟨b, further, -, hfurther⟩ := hthen (noted ++ more)
      exact ⟨b, more ++ further, List.append_ne_nil_of_left_ne_nil hmore _, hfurther.trans (by rw [List.append_assoc])⟩

/-- What a conversion gives is what its run from nothing ends with, if nothing has been noted by then. -/
theorem eq_some_iff {p : Decoding α} {r : Option α} (h : p.Gives r) {a : α} : r = some a ↔ p.run [] = (a, []) := by
  cases r with
  | some b => rw [h [], Option.some.injEq, Prod.mk.injEq, and_iff_left rfl]
  | none =>
    obtain ⟨b, more, hmore, hrun⟩ := h []
    rw [hrun]
    exact iff_of_false nofun fun heq => hmore (congrArg Prod.snd heq)

end Decoding.Gives

/-- Converting a value gives what it is read as, and notes the error if it cannot be read. -/
theorem convert_gives {α : Type} (blank : α) (read : Text → Value → Except Text α) (key : Text) (v : Value) :
    (convert blank read key (some v)).Gives (read key v).toOption := by
  cases h : read key v with
  | ok a =>
    intro noted
    simp only [convert, h]
    rfl
  | error e =>
    intro noted
    refine ⟨blank, [e], List.cons_ne_nil _ _, ?_⟩
    simp only [convert, h]
    rfl

/-! ## What is converted -/

/-- What a setting is converted from: the text of its variable, or the default where that is empty. -/
def chosen (t : Text) (default : Value) : Value := if t.isEmpty then default else .text t

/-- A file without content has nothing under any path. -/
theorem search_nil (fuel : Nat) (path : List Text) : search fuel [] path = none := by
  cases fuel with
  | zero => rfl
  | succ fuel =>
    rw [search, List.findSome?_eq_none_iff]
    intro i _
    rfl

section Sources

variable (env : List (Text × Text))

/-- Without flags and without a file, what is given under a key is the text of its variable, unless that is empty. -/
theorem given?_eq (key : Text) :
    Sources.given? { environment := env } key =
      if (textOf env (variableName key)).isEmpty then none else some (.text (textOf env (variableName key))) := by
  show ((env.lookup (variableName key)).filter fun t => !t.isEmpty).map Value.text = _
  unfold textOf
  cases env.lookup (variableName key) with
  | none => rfl
  | some t => cases t <;> rfl

/-- The value of a key is the text of its variable, or the default. -/
theorem value?_eq {key : Text} {d : Value} (hd : defaults.lookup key = some d) :
    Sources.value? { environment := env } key = some (chosen (textOf env (variableName key)) d) := by
  have hfile : Sources.fileValue? { environment := env } [key] = none := search_nil _ _
  rw [Sources.value?, given?_eq, hfile, hd, chosen]
  split <;> rfl

/-- The same for a part of the cache settings, as long as the cache has no variable that replaces them all. -/
theorem cacheValue?_eq (hcache : textOf env (variableName "cache") = []) {part : Text} {d : Value}
    (hd : defaults.lookup (joinPath ["cache", part]) = some d) :
    Sources.cacheValue? { environment := env } part =
      some (chosen (textOf env (variableName (joinPath ["cache", part]))) d) := by
  have hfile : Sources.fileValue? { environment := env } ["cache", part] = none := search_nil _ _
  have hwhole : Sources.given? { environment := env } "cache" = none := by
    rw [given?_eq, hcache]
    rfl
  rw [Sources.cacheValue?]
  dsimp only
  rw [given?_eq, hwhole, hfile, hd, chosen]
  split <;> rfl

end Sources

/-- A setting is the default where its text is empty, and otherwise what the text is read as. -/
theorem convert_chosen {α : Type} {blank a : α} {read : Text → Value → Except Text α} {key : Text} {d : Value}
    {r : Text → Option α} (hdefault : read key d = .ok a) {t : Text} (hread : t ≠ [] → (read key (.text t)).toOption = r t) :
    (convert blank read key (some (chosen t d))).Gives (if t.isEmpty then some a else r t) := by
  cases t with
  | nil =>
    have hgives := convert_gives blank read key d
    rwa [hdefault] at hgives
  | cons b t =>
    have hgives := convert_gives blank read key (.text (b :: t))
    rwa [hread (List.cons_ne_nil b t)] at hgives

/-- A text is a number if it is a numeral in some base. -/
theorem asInteger_text {target key t : Text} (h : t ≠ []) :
    (asInteger target key (.text t)).toOption = (Numeral.integerAnyBase t).toOption := by
  rw [asInteger, if_neg (by simpa using h)]
  cases Numeral.integerAnyBase t <;> rfl

/-- A text is a switch if it is one of the words for true and false. -/
theorem asBool_text {key t : Text} (h : t ≠ []) : (asBool key (.text t)).toOption = Numeral.truth? t := by
  rw [asBool, if_neg (by simpa using h)]
  cases Numeral.truth? t <;> rfl

/-- A text is a span of time if it can be parsed as one. -/
theorem asSpan_text {key t : Text} : (asSpan key (.text t)).toOption = (Span.parse t).toOption := by
  rw [asSpan]
  cases Span.parse t <;> rfl

/-- The storage before it is put into lower case. -/
def storageText? (env : List (Text × Text)) : Option Text :=
  if (textOf env Variable.storage.name).isEmpty then some (utf8 "memory") else some (textOf env Variable.storage.name)

/-- The kind of storage is read from its variable, in lower case. -/
theorem setting?_storage (env : List (Text × Text)) :
    Variable.storage.setting? env = (storageText? env).map Text.lowered := by
  rw [Variable.setting?, storageText?]
  split
  · exact congrArg some (by decide +kernel : utf8 "memory" = Text.lowered (utf8 "memory"))
  · rfl

/-- The settings of the cache that an environment gives. -/
def cacheSettings? (env : List (Text × Text)) : Option (Text × Text × Span) := do
  let url ← Variable.redisUrl.setting? env
  let space ← Variable.cacheSpace.setting? env
  let ttl ← Variable.cacheTtl.setting? env
  some (url, space, ttl)

/-- All the settings that an environment gives. -/
def allSettings? (env : List (Text × Text)) : Option Settings := do
  let port ← Variable.port.setting? env
  let storage ← storageText? env
  let databasePath ← Variable.databasePath.setting? env
  let cache ← cacheSettings? env
  let secret ← Variable.secret.setting? env
  let bcryptCost ← Variable.bcryptCost.setting? env
  let cookieSecure ← Variable.cookieSecure.setting? env
  let logLevel ← Variable.logLevel.setting? env
  let fetchDelay ← Variable.fetchDelay.setting? env
  let counterDelay ← Variable.counterDelay.setting? env
  let seed ← Variable.seed.setting? env
  some { port, storage := Text.lowered storage, databasePath, redisUrl := cache.1, cacheSpace := cache.2.1,
         cacheTtl := cache.2.2, secret, bcryptCost, cookieSecure, logLevel, fetchDelay, counterDelay, seed }

/-- There are all settings exactly if each is what its variable gives. -/
theorem allSettings?_eq_some_iff {env : List (Text × Text)} {c : Settings} :
    allSettings? env = some c ↔ ∀ x : Variable, x.setting? env = some (c.get x) := by
  simp only [allSettings?, cacheSettings?, Option.bind_eq_bind, Option.bind_eq_some_iff, Option.some.injEq]
  constructor
  · rintro ⟨port, hport, storage, hstorage, databasePath, hdatabasePath, _, ⟨url, hurl, space, hspace, ttl, httl, rfl⟩,
      secret, hsecret, cost, hcost, cookie, hcookie, level, hlevel, fetch, hfetch, counter, hcounter, seed, hseed, rfl⟩ x
    cases x with
    | port => exact hport
    | storage => rw [setting?_storage, hstorage]; rfl
    | databasePath => exact hdatabasePath
    | redisUrl => exact hurl
    | cacheSpace => exact hspace
    | cacheTtl => exact httl
    | secret => exact hsecret
    | bcryptCost => exact hcost
    | cookieSecure => exact hcookie
    | logLevel => exact hlevel
    | fetchDelay => exact hfetch
    | counterDelay => exact hcounter
    | seed => exact hseed
  · intro h
    have hstorage := h .storage
    rw [setting?_storage] at hstorage
    obtain ⟨storage, hstorage, hlowered⟩ := Option.map_eq_some_iff.1 hstorage
    refine ⟨_, h .port, storage, hstorage, _, h .databasePath, _, ⟨_, h .redisUrl, _, h .cacheSpace, _, h .cacheTtl, rfl⟩,
      _, h .secret, _, h .bcryptCost, _, h .cookieSecure, _, h .logLevel, _, h .fetchDelay, _, h .counterDelay, _, h .seed, ?_⟩
    rw [hlowered]
    rfl

section Decode

variable {env : List (Text × Text)} (hcache : textOf env (variableName "cache") = [])

include hcache

/-- The cache settings are read from their three variables. -/
theorem decodeCache_gives : (decodeCache { environment := env }).Gives (cacheSettings? env) := by
  show Decoding.Gives (do
    let url ← convert [] asText "cache.redis_url" (Sources.cacheValue? { environment := env } "redis_url")
    let space ← convert [] asText "cache.prefix" (Sources.cacheValue? { environment := env } "prefix")
    let ttl ← convert 0 asSpan "cache.ttl" (Sources.cacheValue? { environment := env } "ttl")
    pure (url, space, ttl)) _
  rw [cacheValue?_eq env hcache rfl, cacheValue?_eq env hcache rfl, cacheValue?_eq env hcache rfl]
  refine .bind (convert_chosen rfl fun _ => rfl) fun url => .bind (convert_chosen rfl fun _ => rfl) fun space => ?_
  exact .bind (convert_chosen rfl fun _ => asSpan_text) fun ttl => .pure _

/-- All settings are read from their variables. -/
theorem decodeAll_gives : (decodeAll { environment := env }).Gives (allSettings? env) := by
  unfold decodeAll
  dsimp only
  rw [value?_eq env rfl, value?_eq env rfl, value?_eq env rfl, value?_eq env rfl, value?_eq env rfl, value?_eq env rfl,
    value?_eq env rfl, value?_eq env rfl, value?_eq env rfl, value?_eq env rfl]
  refine .bind (convert_chosen rfl fun _ => rfl) fun port => .bind (convert_chosen rfl fun _ => rfl) fun storage => ?_
  refine .bind (convert_chosen rfl fun _ => rfl) fun databasePath => .bind (decodeCache_gives hcache) fun cache => ?_
  refine .bind (convert_chosen rfl fun _ => rfl) fun secret => .bind (convert_chosen rfl asInteger_text) fun bcryptCost => ?_
  refine .bind (convert_chosen rfl asBool_text) fun cookieSecure => .bind (convert_chosen rfl fun _ => rfl) fun logLevel => ?_
  refine .bind (convert_chosen rfl fun _ => asSpan_text) fun fetchDelay => ?_
  refine .bind (convert_chosen rfl fun _ => asSpan_text) fun counterDelay => ?_
  exact .bind (convert_chosen rfl asBool_text) fun seed => .pure _

/-- Settings are converted from an environment exactly if each of them is what its variable gives. -/
theorem decode_eq_ok_iff {c : Settings} :
    decode { environment := env } = .ok c ↔ ∀ x : Variable, x.setting? env = some (c.get x) := by
  rw [← allSettings?_eq_some_iff, (decodeAll_gives hcache).eq_some_iff, decode]
  generalize (decodeAll { environment := env }).run [] = r
  obtain ⟨settings, noted⟩ := r
  cases noted with
  | nil =>
    rw [Prod.mk.injEq, and_iff_left rfl]
    exact ⟨Except.ok.inj, congrArg Except.ok⟩
  | cons e noted => exact iff_of_false nofun fun h => nomatch congrArg Prod.snd h

end Decode

/-! ## Checks -/

/-- Settings that can be worked with. -/
structure Sound (c : Settings) : Prop where
  port : c.port ≠ []
  storage : c.storage = utf8 "memory" ∨ c.storage = utf8 "sqlite"
  database : c.storage = utf8 "sqlite" → c.databasePath ≠ []
  costLeast : 4 ≤ c.bcryptCost
  costMost : c.bcryptCost ≤ 14
  fetchDelay : 0 ≤ c.fetchDelay
  counterDelay : 0 ≤ c.counterDelay
  level : ∃ n, c.level = .ok n

/-- No check is broken exactly if every field is as the checks want it. -/
theorem broken_eq_nil_iff {c : Settings} :
    c.broken = [] ↔ c.port ≠ [] ∧ (c.storage = utf8 "memory" ∨ c.storage = utf8 "sqlite") ∧
      (c.storage = utf8 "sqlite" → c.databasePath ≠ []) ∧ 4 ≤ c.bcryptCost ∧ c.bcryptCost ≤ 14 ∧
      0 ≤ c.fetchDelay ∧ 0 ≤ c.counterDelay := by
  rw [broken, List.filterMap_eq_nil_iff]
  simp only [List.forall_mem_cons, List.not_mem_nil, false_imp_iff, implies_true, and_true, ite_eq_right_iff, reduceCtorEq,
    imp_false, Bool.not_eq_true, List.isEmpty_eq_false_iff, Bool.not_eq_false', Bool.or_eq_true, beq_iff_eq,
    Bool.and_eq_false_imp, decide_eq_false_iff_not, Int.not_lt, gt_iff_lt]
  rw [or_comm (a := c.storage = utf8 "sqlite")]

/-- Settings pass the check exactly if they are sound. -/
theorem check_eq_ok_iff {c : Settings} : c.check = .ok () ↔ c.Sound := by
  have hbroken := broken_eq_nil_iff (c := c)
  rw [check]
  cases h : c.broken with
  | nil =>
    obtain ⟨hport, hstorage, hdatabase, hleast, hmost, hfetch, hcounter⟩ := hbroken.1 h
    dsimp only
    cases hlevel : c.level with
    | ok n => exact iff_of_true rfl ⟨hport, hstorage, hdatabase, hleast, hmost, hfetch, hcounter, n, hlevel⟩
    | error f =>
      refine iff_of_false nofun fun hsound => ?_
      obtain ⟨n, hn⟩ := hsound.level
      rw [hlevel] at hn
      cases hn
  | cons rule rules =>
    refine iff_of_false nofun fun hsound => ?_
    have hnone := hbroken.2 ⟨hsound.port, hsound.storage, hsound.database, hsound.costLeast, hsound.costMost, hsound.fetchDelay,
      hsound.counterDelay⟩
    rw [h] at hnone
    cases hnone

/-- What is loaded is what could be decoded, if that is sound. -/
theorem load_eq_ok_iff {s : Sources} {c : Settings} : load s = .ok c ↔ decode s = .ok c ∧ c.Sound := by
  rw [← check_eq_ok_iff, load]
  cases hdecode : decode s with
  | error f => exact iff_of_false nofun fun h => nomatch h.1
  | ok d =>
    show (d.check >>= fun _ => .ok d) = .ok c ↔ _
    cases hcheck : d.check with
    | error f =>
      refine iff_of_false nofun fun h => ?_
      rw [← Except.ok.inj h.1, hcheck] at h
      cases h.2
    | ok _ =>
      refine ⟨fun h => ⟨h, ?_⟩, fun h => h.1⟩
      rw [← Except.ok.inj h]
      exact hcheck

/-- Settings from the environment are independent of each other and sound, in two parts. No variable stands for the whole table
of the cache.
1. Settings are loaded exactly if they are sound and each of them is what its own variable says, or the default where the
   variable is empty or not set.
2. Whatever else differs between two environments that settings are loaded from, a setting whose variable says the same is the
   same. -/
theorem environment_settings_independent_and_sound {env : List (Text × Text)}
    (hcache : textOf env (utf8 "ROLECALL_CACHE") = []) :
    (∀ c : Settings, load { environment := env } = .ok c ↔
      (∀ x : Variable, x.setting? env = some (c.get x)) ∧ c.Sound) ∧
    ∀ (env' : List (Text × Text)) (c c' : Settings), textOf env' (utf8 "ROLECALL_CACHE") = [] →
      load { environment := env } = .ok c → load { environment := env' } = .ok c' →
      ∀ x : Variable, textOf env' x.name = textOf env x.name → c'.get x = c.get x := by
  have hname : variableName "cache" = utf8 "ROLECALL_CACHE" := by decide +kernel
  have hloaded : ∀ {env : List (Text × Text)}, textOf env (utf8 "ROLECALL_CACHE") = [] → ∀ {c : Settings},
      load { environment := env } = .ok c ↔ (∀ x : Variable, x.setting? env = some (c.get x)) ∧ c.Sound := by
    intro env hcache c
    rw [load_eq_ok_iff, decode_eq_ok_iff (hname ▸ hcache)]
  refine ⟨fun c => hloaded hcache, fun env' c c' hcache' hc hc' x hsame => ?_⟩
  have hfirst := ((hloaded hcache).1 hc).1 x
  have hsecond := ((hloaded hcache').1 hc').1 x
  rw [Variable.setting?, hsame] at hsecond
  exact Option.some.inj (hsecond.symm.trans hfirst)

/-- An environment with some of the variables. -/
def someVariables (cost : Text) : List (Text × Text) :=
  [("ROLECALL_PORT", "9090"), ("ROLECALL_STORAGE", "SQLite"), ("ROLECALL_CACHE_REDIS_URL", "redis://localhost:6379/0"),
   ("ROLECALL_BCRYPT_COST", cost), ("ROLECALL_FETCH_DELAY", "5ms"), ("ROLECALL_SEED", "false"), ("ROLECALL_LOG_LEVEL", "debug")]

/-- The settings that it gives. -/
def someSettings (bcryptCost : Int) : Settings :=
  { port := "9090", storage := "sqlite", databasePath := "rolecall.db", redisUrl := "redis://localhost:6379/0"
    cacheSpace := "rolecall:user", cacheTtl := 10 * Span.minute, secret := [], bcryptCost, cookieSecure := true
    logLevel := "debug", fetchDelay := 5 * Span.millisecond, counterDelay := 10 * Span.microsecond, seed := false }

/-- The cost is raised from the least to the most, and no other setting changes. -/
theorem cost_raised_alone :
    load { environment := someVariables "4" } = .ok (someSettings 4) ∧
    load { environment := someVariables "0xE" } = .ok (someSettings 14) ∧
    ∀ x : Variable, x ≠ .bcryptCost → (someSettings 14).get x = (someSettings 4).get x := by
  have hleast := allSettings?_eq_some_iff.1 (by decide +kernel : allSettings? (someVariables "4") = some (someSettings 4))
  have hmost := allSettings?_eq_some_iff.1 (by decide +kernel : allSettings? (someVariables "0xE") = some (someSettings 14))
  have hthreshold : Log.threshold (utf8 "debug") = .ok (-4) := rfl
  have hlevel : ∀ cost, (someSettings cost).level = .ok (-4) := by
    intro cost
    simp only [level, someSettings, hthreshold]
  have hsound : (someSettings 4).Sound ∧ (someSettings 14).Sound :=
    ⟨⟨by decide, .inr rfl, fun _ => by decide, by decide, by decide, by decide, by decide, -4, hlevel 4⟩,
      ⟨by decide, .inr rfl, fun _ => by decide, by decide, by decide, by decide, by decide, -4, hlevel 14⟩⟩
  have hcache : ∀ cost, textOf (someVariables cost) (utf8 "ROLECALL_CACHE") = [] := fun _ => rfl
  have hfirst := environment_settings_independent_and_sound (hcache "4")
  have hsecond := (environment_settings_independent_and_sound (hcache "0xE")).1
  have hload := (hfirst.1 (someSettings 4)).2 ⟨hleast, hsound.1⟩
  have hload' := (hsecond (someSettings 14)).2 ⟨hmost, hsound.2⟩
  refine ⟨hload, hload', fun x hx => hfirst.2 _ _ _ (hcache _) hload hload' x ?_⟩
  cases x <;> first | rfl | exact absurd rfl hx

end Roster.Settings
