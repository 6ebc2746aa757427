import Roster.Proofs.Access
import Roster.Proofs.Json

/-!
# What a token has to look like

The tokens that are accepted, described by what they consist of: three parts in base 64, the first of which names the
algorithm, the second of which makes the claims, and the third of which is the authentication code of the other two. Texts
that are anything else, whatever it is, are all answered alike.
-/

namespace Roster

namespace Text

/-! ## Parts -/

/-- Splitting leaves at least one piece. -/
theorem split_ne_nil (b : UInt8) (t : Text) : split b t ≠ [] := by
  cases t with
  | nil => exact List.cons_ne_nil _ _
  | cons a t =>
    rw [split]
    split
    · exact List.cons_ne_nil _ _
    · split <;> exact List.cons_ne_nil _ _

/-- Another byte belongs to the first piece. -/
theorem split_cons_of_ne {a b : UInt8} (h : a ≠ b) (t : Text) :
    ∃ piece rest, split b t = piece :: rest ∧ split b (a :: t) = (a :: piece) :: rest := by
  obtain ⟨piece, rest, hsplit⟩ := List.exists_cons_of_ne_nil (split_ne_nil b t)
  refine ⟨piece, rest, hsplit, ?_⟩
  rw [split, hsplit, if_neg (by simpa using h)]

/-- The byte itself ends a piece. -/
theorem split_cons_self (b : UInt8) (t : Text) : split b (b :: t) = [] :: split b t := by
  rw [split, if_pos (beq_self_eq_true b)]

/-- A text is in one piece if the separator does not occur in it. -/
theorem split_eq_single {b : UInt8} {t piece : Text} : split b t = [piece] ↔ t = piece ∧ b ∉ piece := by
  constructor
  · intro h
    induction t generalizing piece with
    | nil =>
      obtain rfl := (List.cons.inj h).1
      exact ⟨rfl, List.not_mem_nil⟩
    | cons a t ih =>
      by_cases hab : a = b
      · rw [hab, split_cons_self] at h
        exact absurd (List.cons.inj h).2 (split_ne_nil b t)
      · obtain ⟨first, rest, hsplit, hcons⟩ := split_cons_of_ne hab t
        obtain ⟨rfl, rfl⟩ := List.cons.inj (hcons.symm.trans h)
        obtain ⟨rfl, hmem⟩ := ih hsplit
        exact ⟨rfl, fun hb => (List.mem_cons.mp hb).elim (Ne.symm hab) hmem⟩
  · rintro ⟨rfl, h⟩
    exact split_of_notMem h

/-- The first of several pieces ends at the first separator. -/
theorem split_eq_cons {b : UInt8} {t piece next : Text} {rest : List Text} :
    split b t = piece :: next :: rest ↔ ∃ t', t = piece ++ b :: t' ∧ b ∉ piece ∧ split b t' = next :: rest := by
  constructor
  · intro h
    induction t generalizing piece with
    | nil => exact absurd (List.cons.inj h).2 (List.cons_ne_nil _ _).symm
    | cons a t ih =>
      by_cases hab : a = b
      · rw [hab, split_cons_self] at h
        obtain ⟨rfl, hrest⟩ := List.cons.inj h
        exact ⟨t, by rw [hab]; rfl, List.not_mem_nil, hrest⟩
      · obtain ⟨first, others, hsplit, hcons⟩ := split_cons_of_ne hab t
        obtain ⟨rfl, rfl⟩ := List.cons.inj (hcons.symm.trans h)
        obtain ⟨t', rfl, hmem, hrest⟩ := ih hsplit
        exact ⟨t', rfl, fun hb => (List.mem_cons.mp hb).elim (Ne.symm hab) hmem, hrest⟩
  · rintro ⟨t', rfl, h, hrest⟩
    rw [split_append h, hrest]

/-- A text falls into three pieces exactly if it is three texts without the byte, with the byte between them. -/
theorem split_eq_three {b : UInt8} {t x y z : Text} :
    split b t = [x, y, z] ↔ t = x ++ b :: (y ++ b :: z) ∧ b ∉ x ∧ b ∉ y ∧ b ∉ z := by
  rw [split_eq_cons]
  constructor
  · rintro ⟨t', rfl, hx, h⟩
    obtain ⟨t'', rfl, hy, h⟩ := split_eq_cons.mp h
    obtain ⟨rfl, hz⟩ := split_eq_single.mp h
    exact ⟨rfl, hx, hy, hz⟩
  · rintro ⟨rfl, hx, hy, hz⟩
    exact ⟨_, rfl, hx, split_eq_cons.mpr ⟨z, rfl, hy, split_of_notMem hz⟩⟩

/-- The bytes that a text in base 64 may have: the digits, and line ends, which are skipped. -/
def InBase64 (t : Text) : Prop := ∀ b ∈ t, b = 10 ∨ b = 13 ∨ b ∈ Alphabet.url.digits

/-- Only digits have a value. -/
theorem Alphabet.mem_of_value? {a : Alphabet} {b : UInt8} {n : Nat} (h : a.value? b = some n) : b ∈ a.digits := by
  obtain ⟨hn, hbeq, -⟩ := Array.findIdx?_eq_some_iff_getElem.mp h
  exact eq_of_beq hbeq ▸ Array.getElem_mem hn

/-- Where all digits can be read, each of them can. -/
theorem value?_of_mapM {a : Alphabet} {t : Text} {values : List Nat} (h : t.mapM a.value? = some values) :
    ∀ b ∈ t, ∃ n, a.value? b = some n := by
  induction t generalizing values with
  | nil => exact nofun
  | cons c t ih =>
    rw [List.mapM_cons] at h
    obtain ⟨n, hn, h⟩ := Option.bind_eq_some_iff.mp h
    obtain ⟨rest, hrest, -⟩ := Option.bind_eq_some_iff.mp h
    exact List.forall_mem_cons.mpr ⟨⟨n, hn⟩, ih hrest⟩

/-- What is read from base 64 is written in it. -/
theorem inBase64_of_ofBase64 {t u : Text} (h : ofBase64 .url t = some u) : InBase64 t := by
  intro b hb
  by_cases hline : b = 10 ∨ b = 13
  · exact hline.elim .inl fun h13 => .inr (.inl h13)
  · obtain ⟨h10, h13⟩ := not_or.mp hline
    refine .inr (.inr ?_)
    obtain ⟨values, hvalues, -⟩ := Option.bind_eq_some_iff.mp h
    have hkept : b ∈ t.filter fun b => b != 10 && b != 13 := List.mem_filter.mpr ⟨hb, by simp [h10, h13]⟩
    obtain ⟨n, hn⟩ := value?_of_mapM hvalues b hkept
    exact Alphabet.mem_of_value? hn

/-- Base 64 holds no dot. -/
theorem InBase64.dot_notMem {t : Text} (h : InBase64 t) : Token.dot ∉ t := by
  intro hdot
  have hnot : ¬(Token.dot = 10 ∨ Token.dot = 13 ∨ Token.dot ∈ Alphabet.url.digits) := by decide +kernel
  exact hnot (h _ hdot)

end Text

namespace Json

/-- The text that a value is. -/
def text? : Json → Option Text
  | .string t => some t
  | _ => none

/-- The last text among values. -/
def lastText? (vs : List Json) : Option Text := (vs.filterMap text?).getLast?

/-- A text is read from a string, and from null it is the one that was there. -/
theorem readText_eq_ok {old t : Text} {v : Json} : readText old v = .ok t ↔ v = .null ∧ t = old ∨ v = .string t := by
  cases v <;> simp [readText, mismatch, eq_comm]

/-- Of several texts the last one counts, and nulls do not. -/
theorem foldlM_readText {vs : List Json} {old t : Text} (h : vs.foldlM readText old = .ok t) :
    t = (lastText? vs).getD old := by
  induction vs generalizing old with
  | nil => exact (Except.ok.inj h).symm
  | cons v vs ih =>
    rw [List.foldlM_cons] at h
    cases hv : readText old v with
    | error e =>
      rw [hv] at h
      cases h
    | ok x =>
      rw [hv] at h
      have hrest := ih h
      obtain ⟨rfl, rfl⟩ | rfl := readText_eq_ok.mp hv
      · exact hrest
      · rw [hrest]
        simp [lastText?, text?, List.getLast?_cons]

end Json

namespace Token

open Json (named text? lastText?)

/-! ## Claims -/

/-- The date that a value means. -/
def date? (v : Json) : Option Int := (readDate none v).toOption.join

/-- The date that the last of several values means. -/
def lastDate? (vs : List Json) : Option Int := vs.getLast?.bind date?

/-- The last date is that of the last member. -/
theorem lastDate?_eq (vs : List Json) : (vs.getLast?.map date?).getD none = lastDate? vs := by
  unfold lastDate?
  cases vs.getLast? <;> rfl

/-- Of several dates the last one counts. -/
theorem foldlM_readDate {vs : List Json} {old d : Option Int} (h : vs.foldlM readDate old = .ok d) :
    d = (vs.getLast?.map date?).getD old := by
  induction vs generalizing old with
  | nil => exact (Except.ok.inj h).symm
  | cons v vs ih =>
    rw [List.foldlM_cons] at h
    cases hv : readDate old v with
    | error e =>
      rw [hv] at h
      cases h
    | ok x =>
      rw [hv] at h
      have hread : readDate none v = .ok x := hv
      have hx : date? v = x := by
        rw [date?, hread]
        rfl
      rw [ih h, List.getLast?_cons]
      cases vs.getLast? <;> simp [hx]

/-- Whether a value is a text or a list of texts. -/
def isAudience : Json → Bool
  | .string _ => true
  | .array items => items.all fun v => (text? v).isSome
  | _ => false

/-- Members whose names are those of claims have values of the kinds of the claims. -/
structure WellTyped (members : List (Text × Json)) : Prop where
  texts : ∀ name ∈ [utf8 "role", utf8 "iss", utf8 "sub", utf8 "jti"], ∀ v ∈ named name members,
    v = .null ∨ (text? v).isSome = true
  dates : ∀ name ∈ [utf8 "exp", utf8 "nbf", utf8 "iat"], ∀ v ∈ named name members, v = .null ∨ (date? v).isSome = true
  audience : ∀ v ∈ named "aud" members, v = .null ∨ isAudience v = true

/-- A text can be read from a string and from null, and from nothing else. -/
theorem exists_readText (old : Text) (v : Json) :
    (∃ t, Json.readText old v = .ok t) ↔ v = .null ∨ (text? v).isSome = true := by
  cases v <;> simp [Json.readText, Json.mismatch, text?]

/-- A date can be read from a finite number and from null, and from nothing else. -/
theorem exists_readDate (old : Option Int) (v : Json) :
    (∃ d, readDate old v = .ok d) ↔ v = .null ∨ (date? v).isSome = true := by
  cases v with
  | null => simp [readDate]
  | number literal | string literal =>
    simp only [readDate, date?]
    split
    · split <;> simp [Json.mismatch, Except.toOption]
    · simp [Json.mismatch, Except.toOption]
  | _ => simp [readDate, Json.mismatch, date?, Except.toOption]

/-- An audience can be read from a string, from a list of strings and from null, and from nothing else. -/
theorem exists_readAudience (old : List Text) (v : Json) :
    (∃ ts, readAudience old v = .ok ts) ↔ v = .null ∨ isAudience v = true := by
  cases v with
  | array items =>
    simp only [readAudience, isAudience, reduceCtorEq, false_or]
    induction items with
    | nil => simp [pure, Except.pure]
    | cons v items ih =>
      rw [List.mapM_cons, List.all_cons, Bool.and_eq_true, ← ih]
      cases v with
      | string t =>
        simp only [text?, Option.isSome_some, true_and]
        generalize (List.mapM _ items : Except Json.DecodeError (List Text)) = r
        cases r <;> simp [bind, Except.bind, pure, Except.pure]
      | _ => simp [Json.mismatch, text?, bind, Except.bind]
  | _ => simp [readAudience, Json.mismatch, isAudience]

/-- The names of the claims are not equal up to case. -/
theorem fields_distinct : (fields.map fun f => Text.foldKey f.name).Nodup := by
  decide +kernel

/-- Claims can be read from members of the right kinds. -/
theorem readMembers_wellTyped (c : Claims) (members : List (Text × Json)) :
    (∃ c', Json.readMembers fields c members = .ok c') ↔ WellTyped members := by
  rw [Json.readMembers_ok_iff fields_distinct fun f v => ∃ c', f.read {} v = .ok c']
  · simp only [fields, List.forall_mem_cons, Json.Field.exists_of_read, exists_readText, exists_readDate, exists_readAudience]
    constructor
    · rintro ⟨hrole, hiss, hsub, haud, hexp, hnbf, hiat, hjti, -⟩
      exact ⟨by simpa using ⟨hrole, hiss, hsub, hjti⟩, by simpa using ⟨hexp, hnbf, hiat⟩, haud⟩
    · rintro ⟨htexts, hdates, haud⟩
      simp only [List.forall_mem_cons] at htexts hdates
      obtain ⟨hrole, hiss, hsub, hjti, -⟩ := htexts
      obtain ⟨hexp, hnbf, hiat, -⟩ := hdates
      exact ⟨hrole, hiss, hsub, haud, hexp, hnbf, hiat, hjti, nofun⟩
  · simp only [fields, List.forall_mem_cons, Json.Field.exists_of_read, exists_readText, exists_readDate, exists_readAudience]
    simp

/-- A claim that is a text is the last text of its name, and one that is a date the last value. -/
theorem claims_of_readMembers {members : List (Text × Json)} {c : Claims} (h : Json.readMembers fields {} members = .ok c) :
    c.role = (lastText? (named "role" members)).getD [] ∧ c.subject = (lastText? (named "sub" members)).getD [] ∧
      c.expires = lastDate? (named "exp" members) ∧ c.notBefore = lastDate? (named "nbf" members) := by
  rw [← lastDate?_eq, ← lastDate?_eq]
  refine ⟨Json.foldlM_readText (Json.readMembers_get fields_distinct
      (f := .of "role" Claims.role (fun c x => { c with role := x }) Json.readText) ?_ (Json.Field.reads_of fun _ _ => rfl) ?_ h),
    Json.foldlM_readText (Json.readMembers_get fields_distinct
      (f := .of "sub" Claims.subject (fun c x => { c with subject := x }) Json.readText) ?_
      (Json.Field.reads_of fun _ _ => rfl) ?_ h),
    foldlM_readDate (Json.readMembers_get fields_distinct
      (f := .of "exp" Claims.expires (fun c x => { c with expires := x }) readDate) ?_ (Json.Field.reads_of fun _ _ => rfl) ?_ h),
    foldlM_readDate (Json.readMembers_get fields_distinct
      (f := .of "nbf" Claims.notBefore (fun c x => { c with notBefore := x }) readDate) ?_
      (Json.Field.reads_of fun _ _ => rfl) ?_ h)⟩
  -- what is left to show is that each of the four is among the fields, and that the others leave its part alone
  all_goals first
    | simp only [fields, List.mem_cons, true_or, or_true]; done
    | intro g hg hne
      simp only [fields, List.mem_cons, List.not_mem_nil, or_false] at hg
      rcases hg with rfl | rfl | rfl | rfl | rfl | rfl | rfl | rfl
      all_goals first | exact Json.Field.keeps_of fun _ _ => rfl | exact absurd rfl hne

/-! ## Tokens -/

/-- What a token consists of: the three parts, the header that the first one stands for, and the members of the claims that
the second one stands for. -/
structure Parts where
  head : Text
  body : Text
  code : Text
  header : Json
  members : List (Text × Json)

/-- A token consists of parts that attest, at a moment and to who knows the secret, that its bearer is a user with a role. -/
structure Parts.Attest (a : Parts) (secret : Text) (now : Timestamp) (token : Text) (i : SignIn.Identity) : Prop where
  /-- There are three parts, with dots between them and nowhere else. -/
  parts : token = a.head ++ dot :: (a.body ++ dot :: a.code)
  dots : List.count dot token = 2
  digits : Text.InBase64 a.head ∧ Text.InBase64 a.body ∧ Text.InBase64 a.code
  /-- The header names the algorithm. -/
  header : (Text.ofBase64 .url a.head).map Json.parse = some (.ok a.header)
  finite : finiteNumbers a.header = true
  algorithm : a.header.member? "alg" = some (.string "HS256")
  /-- The last part is the authentication code of the text before it. -/
  code : Text.ofBase64 .url a.code = some (Sha256.authenticate secret (a.head ++ dot :: a.body))
  /-- The claims are members of an object, of the right kinds. -/
  payload : (Text.ofBase64 .url a.body).map Json.parse = some (.ok (.object a.members))
  typed : WellTyped a.members
  /-- The subject is the id of the user in digits. -/
  subject : ∃ digits, lastText? (named "sub" a.members) = some digits ∧ Text.toNat? digits = some i.id.toNat
  /-- The role is the text of the role. -/
  role : lastText? (named "role" a.members) = some i.role.name
  /-- The claims are not yet void, and valid by now. -/
  expires : ∀ e, lastDate? (named "exp" a.members) = some e → now.instant < e * Span.second
  begins : ∀ n, lastDate? (named "nbf" a.members) = some n → n * Span.second ≤ now.instant

/-- A header names an algorithm exactly if it is JSON with finite numbers, one member of which says so. -/
theorem algorithm?_eq_some {header name : Text} :
    algorithm? header = some name ↔
      ∃ v, Json.parse header = .ok v ∧ finiteNumbers v = true ∧ v.member? "alg" = some (.string name) := by
  unfold algorithm?
  cases Json.parse header with
  | error e => simp
  | ok v =>
    simp only [Except.ok.injEq, exists_eq_left']
    split
    · rename_i hfinite
      simp only [hfinite, true_and]
      split
      · rename_i name' hmember
        simp [hmember]
      · rename_i hmember
        simp only [reduceCtorEq, false_iff]
        exact hmember name
    · rename_i hfinite
      simp [hfinite]

/-- Claims are read from null or from the members of an object. -/
theorem claims?_eq_some {payload : Text} {c : Claims} :
    claims? payload = some c ↔ Json.parse payload = .ok .null ∧ c = {} ∨
      ∃ members, Json.parse payload = .ok (.object members) ∧ Json.readMembers fields {} members = .ok c := by
  unfold claims? Json.decode
  cases Json.parse payload with
  | error e => simp [Except.toOption]
  | ok v =>
    cases v with
    | null => simp [Json.readRecord, Except.toOption, eq_comm]
    | object members =>
      simp only [Json.readRecord, Except.ok.injEq, reduceCtorEq, false_and, false_or, Json.object.injEq, exists_eq_left']
      cases Json.readMembers fields {} members <;> simp [Except.mapError, Except.toOption]
    | _ => simp [Json.readRecord, Json.mismatch, Except.toOption]

/-- The tokens that are accepted, part by part. -/
theorem verify?_eq_some {secret token : Text} {now : Timestamp} {c : Claims} :
    verify? secret now token = some c ↔
      ∃ h p g header payload, Text.split dot token = [h, p, g] ∧ Text.ofBase64 .url h = some header ∧
        algorithm? header = some algorithm ∧ Text.ofBase64 .url p = some payload ∧ claims? payload = some c ∧
        Text.ofBase64 .url g = some (Sha256.authenticate secret (h ++ dot :: p)) ∧ timely now c = true := by
  constructor
  · intro hverify
    unfold verify? at hverify
    split at hverify
    · rename_i h p g hsplit
      obtain ⟨header, hheader, hverify⟩ := Option.bind_eq_some_iff.mp hverify
      obtain ⟨name, hname, hverify⟩ := Option.bind_eq_some_iff.mp hverify
      split at hverify
      · cases hverify
      · rename_i hne
        obtain rfl : name = algorithm := by simpa using hne
        obtain ⟨payload, hpayload, hverify⟩ := Option.bind_eq_some_iff.mp hverify
        obtain ⟨c', hclaims, hverify⟩ := Option.bind_eq_some_iff.mp hverify
        obtain ⟨code, hcode, hverify⟩ := Option.bind_eq_some_iff.mp hverify
        split at hverify
        · rename_i hgood
          obtain rfl := Option.some.inj hverify
          rw [Bool.and_eq_true, beq_iff_eq] at hgood
          exact ⟨h, p, g, header, payload, hsplit, hheader, hname, hpayload, hclaims, hgood.1 ▸ hcode, hgood.2⟩
        · cases hverify
    · cases hverify
  · rintro ⟨h, p, g, header, payload, hsplit, hheader, hname, hpayload, hclaims, hcode, htimely⟩
    simp [verify?, hsplit, hheader, hname, hpayload, hclaims, hcode, htimely]

/-- Claims are timely from the moment they name until before they expire. -/
theorem timely_iff {now : Timestamp} {c : Claims} :
    timely now c = true ↔ (∀ e, c.expires = some e → now.instant < e * Span.second) ∧
      ∀ n, c.notBefore = some n → n * Span.second ≤ now.instant := by
  rw [timely, Bool.and_eq_true]
  cases c.expires <;> cases c.notBefore <;> simp

end Token

namespace SignIn

/-- An id is read from its number in digits. -/
theorem readId?_eq_some {t : Text} {id : UInt64} : readId? t = some id ↔ Text.toNat? t = some id.toNat := by
  unfold readId?
  cases Text.toNat? t with
  | none => simp
  | some n =>
    simp only [Option.some.injEq]
    split
    · rename_i hlt
      rw [Option.some.injEq]
      constructor
      · rintro rfl
        exact (UInt64.toNat_ofNat_of_lt hlt).symm
      · rintro rfl
        exact UInt64.ofNat_toNat
    · rename_i hlt
      simp only [reduceCtorEq, false_iff]
      rintro rfl
      exact hlt id.toNat_lt

/-- A token stands for a user exactly if it is verified and its claims name id and role. -/
theorem identity?_eq_some {s : SignIn} {now : Timestamp} {token : Text} {i : Identity} :
    s.identity? now token = some i ↔ ∃ c, Token.verify? s.secret now token = some c ∧
      Text.toNat? c.subject = some i.id.toNat ∧ c.role = i.role.name := by
  constructor
  · intro h
    obtain ⟨c, hc, h⟩ := Option.bind_eq_some_iff.mp h
    obtain ⟨id, hid, h⟩ := Option.bind_eq_some_iff.mp h
    obtain ⟨role, hrole, h⟩ := Option.bind_eq_some_iff.mp h
    obtain rfl := Option.some.inj h
    exact ⟨c, hc, readId?_eq_some.mp hid, Role.name_of_parse? hrole⟩
  · rintro ⟨c, hc, hid, hrole⟩
    rw [identity?, hc]
    simp [readId?_eq_some.mpr hid, hrole, Role.parse?_name]

/-- A token stands for a user with a role if it consists of parts that attest it. -/
theorem identity?_iff_attested {s : SignIn} {now : Timestamp} {token : Text} {i : Identity} :
    s.identity? now token = some i ↔ ∃ a : Token.Parts, a.Attest s.secret now token i := by
  rw [identity?_eq_some]
  constructor
  · rintro ⟨c, hverify, hsubject, hrole⟩
    obtain ⟨h, p, g, header, payload, hsplit, hheader, hname, hpayload, hclaims, hcode, htimely⟩ :=
      Token.verify?_eq_some.mp hverify
    obtain ⟨hparts, hh, hp, hg⟩ := Text.split_eq_three.mp hsplit
    obtain ⟨v, hv, hfinite, hmember⟩ := Token.algorithm?_eq_some.mp hname
    obtain ⟨-, rfl⟩ | ⟨members, hmembers, hread⟩ := Token.claims?_eq_some.mp hclaims
    · cases hsubject
    · obtain ⟨hrole', hsubject', hexp, hnbf⟩ := Token.claims_of_readMembers hread
      obtain ⟨hexpires, hbegins⟩ := Token.timely_iff.mp htimely
      refine ⟨⟨h, p, g, v, members⟩, ?_⟩
      refine
        { parts := hparts
          dots := ?_
          digits := ⟨Text.inBase64_of_ofBase64 hheader, Text.inBase64_of_ofBase64 hpayload, Text.inBase64_of_ofBase64 hcode⟩
          header := Option.map_eq_some_iff.mpr ⟨header, hheader, hv⟩
          finite := hfinite
          algorithm := hmember
          code := hcode
          payload := Option.map_eq_some_iff.mpr ⟨payload, hpayload, hmembers⟩
          typed := (Token.readMembers_wellTyped {} members).mp ⟨c, hread⟩
          subject := ?_
          role := ?_
          expires := hexp ▸ hexpires
          begins := hnbf ▸ hbegins }
      · rw [hparts]
        simp [List.count_eq_zero_of_not_mem, hh, hp, hg]
      · cases hlast : Json.lastText? (Json.named "sub" members) with
        | none =>
          rw [hsubject', hlast] at hsubject
          cases hsubject
        | some digits =>
          rw [hsubject', hlast] at hsubject
          exact ⟨digits, rfl, hsubject⟩
      · cases hlast : Json.lastText? (Json.named "role" members) with
        | none =>
          rw [hrole', hlast] at hrole
          cases hi : i.role <;> rw [hi] at hrole <;> cases hrole
        | some role =>
          rw [hrole', hlast] at hrole
          exact congrArg some hrole
  · rintro ⟨a, ha⟩
    obtain ⟨header, hheader, hv⟩ := Option.map_eq_some_iff.mp ha.header
    obtain ⟨payload, hpayload, hmembers⟩ := Option.map_eq_some_iff.mp ha.payload
    obtain ⟨c, hread⟩ := (Token.readMembers_wellTyped {} a.members).mpr ha.typed
    obtain ⟨hrole, hsubject, hexp, hnbf⟩ := Token.claims_of_readMembers hread
    obtain ⟨digits, hdigits, hid⟩ := ha.subject
    refine ⟨c, Token.verify?_eq_some.mpr ⟨a.head, a.body, a.code, header, payload, ?_, hheader, ?_, hpayload, ?_, ha.code, ?_⟩,
      ?_, ?_⟩
    · exact Text.split_eq_three.mpr ⟨ha.parts, ha.digits.1.dot_notMem, ha.digits.2.1.dot_notMem, ha.digits.2.2.dot_notMem⟩
    · exact Token.algorithm?_eq_some.mpr ⟨a.header, hv, ha.finite, ha.algorithm⟩
    · exact Token.claims?_eq_some.mpr (.inr ⟨a.members, hmembers, hread⟩)
    · exact Token.timely_iff.mpr ⟨hexp ▸ ha.expires, hnbf ▸ ha.begins⟩
    · rw [hsubject, hdigits]
      exact hid
    · rw [hrole, ha.role]
      rfl

end SignIn

namespace World

/-- Whoever sends what, the answer is the identity that the parts of a token attest, or else that the sender is not
authorized. -/
theorem token_attested_or_unauthorized (s : SignIn) (w : World) (token : Text) :
    (∀ i, (w.attempt (s.validate token)).1 = .ok i ↔ ∃ a : Token.Parts, a.Attest s.secret w.now token i) ∧
      ∀ f, (w.attempt (s.validate token)).1 = .error f → f = .unauthorized := by
  rw [attempt_validate]
  constructor
  · intro i
    rw [← SignIn.identity?_iff_attested]
    cases s.identity? w.now token <;> simp
  · intro f hf
    cases hi : s.identity? w.now token with
    | none =>
      rw [hi] at hf
      exact (Except.error.inj hf).symm
    | some i =>
      rw [hi] at hf
      cases hf

end World

end Roster
