import Roster.Proofs.EventStreams
import Roster.Proofs.FreshTokens
import Roster.Proofs.Partitions
import Roster.Proofs.StoredUsers

/-!
# The roster shows everyone once

The page is read back as its tags, and these as sections with their list items (`Text.outline`). Stored users have known
roles, so the groups of the roles, one after the other, have every stored user once, and the sections of the page are those of
the roles that somebody holds. The page and the stream are made from the same groups, so they are written with the same sections.

What a client reads of the stream are these sections exactly if no stored user has a carriage return in name or email
(`stream_shows_everyone_iff`). Escaping leaves it as it is, and in a stream it ends a line.
-/

namespace Roster

open Program

/-! ## Sections among tags -/

namespace Text

/-- The sections among tags: opening tags with the list items up to the closing ones. -/
def outline : List (Text × Text) → List (Text × List (Text × Text))
  | [] => []
  | opening :: rest =>
    if tagName opening.1 == utf8 "section" then
      (opening.1, listItems (rest.takeWhile fun e => e.1 != utf8 "/section")) :: outline rest
    else outline rest

/-- Tags that open no section are passed over. -/
theorem outline_append {es : List (Text × Text)} (h : ∀ e ∈ es, tagName e.1 ≠ utf8 "section") (rest : List (Text × Text)) :
    outline (es ++ rest) = outline rest := by
  induction es with
  | nil => rfl
  | cons e es ih =>
    rw [List.cons_append, outline, if_neg (by simpa using h e List.mem_cons_self)]
    exact ih fun e' he' => h e' (List.mem_cons_of_mem e he')

/-- A section and what follows it. -/
theorem outline_section {tag text : Text} (htag : tagName tag = utf8 "section") {inner : List (Text × Text)}
    (hinner : ∀ e ∈ inner, tagName e.1 ≠ utf8 "section" ∧ e.1 ≠ utf8 "/section") (rest : List (Text × Text)) :
    outline ((tag, text) :: (inner ++ (utf8 "/section", []) :: rest)) = (tag, listItems inner) :: outline rest := by
  have hitems : (inner ++ (utf8 "/section", []) :: rest).takeWhile (fun e => e.1 != utf8 "/section") = inner := by
    rw [List.takeWhile_append_of_pos fun e he => bne_iff_ne.2 (hinner e he).2]
    simp
  have hclosing : tagName (utf8 "/section") ≠ utf8 "section" := by decide
  rw [outline, if_pos (beq_iff_eq.2 htag), hitems, outline_append fun e he => (hinner e he).1, outline,
    if_neg (by simpa using hclosing)]

/-- A piece of a page that begins with a tag, and its tags. -/
structure Tagged (t : Text) (es : List (Text × Text)) : Prop where
  begins : t = [] ∨ t.head? = some (byte '<')
  tags : tags t = es

namespace Tagged

variable {s t : Text} {es es' : List (Text × Text)}

theorem nil : Tagged [] [] := ⟨.inl rfl, rfl⟩

/-- Two tagged texts in a row have the tags of both. -/
theorem append (hs : Tagged s es) (ht : Tagged t es') : Tagged (s ++ t) (es ++ es') := by
  rcases ht.begins with rfl | hbegins
  · obtain rfl : [] = es' := ht.tags
    rwa [List.append_nil, List.append_nil]
  · obtain ⟨rest, rfl⟩ := List.head?_eq_some_iff.1 hbegins
    refine ⟨.inr ?_, ?_⟩
    · rcases hs.begins with rfl | hbegins'
      · rfl
      · obtain ⟨rest', rfl⟩ := List.head?_eq_some_iff.1 hbegins'
        rfl
    · rw [tags_append, hs.tags, ht.tags]

/-- Tagged pieces in a row have the tags of each. -/
theorem flatMap {α : Type} {f : α → Text} {g : α → List (Text × Text)} (h : ∀ a, Tagged (f a) (g a)) (l : List α) :
    Tagged (l.flatMap f) (l.flatMap g) := by
  induction l with
  | nil => exact .nil
  | cons a l ih => exact (h a).append ih

end Tagged

end Text

/-! ## The outline of the page -/

namespace Page

open Text

/-- The tag that opens the section of a role. -/
def sectionTag (role : Role) : Text := utf8 "section id=\"role-" ++ role.name ++ utf8 "\""

/-- The tags of a section before its list items. -/
def titleTags (role : Role) : List (Text × Text) :=
  [(utf8 "h2", role.name), (utf8 "/h2", []), (utf8 "p", role.describe), (utf8 "/p", []), (utf8 "ul", [])]

/-- The tags of a list item. -/
def itemTags (u : User) : List (Text × Text) := [entry u, (utf8 "/li", [])]

/-- The tags inside a section. -/
def innerTags (role : Role) (us : List User) : List (Text × Text) :=
  titleTags role ++ (us.flatMap itemTags ++ [(utf8 "/ul", [])])

/-- The items of users have two tags each. -/
theorem tagged_items (us : List User) : Tagged (us.flatMap item) (us.flatMap itemTags) := by
  refine .flatMap (fun u => ⟨.inr ?_, tags_item u⟩) us
  rw [item_eq]
  rfl

/-- A section has its tag, the tags inside it, and the tag that ends it. -/
theorem tagged_sectionOf (role : Role) (us : List User) :
    Tagged (sectionOf role us) ((sectionTag role, []) :: (innerTags role us ++ [(utf8 "/section", [])])) := by
  have hopening : Tagged (utf8 "<section id=\"role-" ++ role.name ++ utf8 "\"><h2>" ++ escapeHtml role.name ++
      utf8 "</h2><p>" ++ escapeHtml role.describe ++ utf8 "</p><ul>") ((sectionTag role, []) :: titleTags role) := by
    cases role <;> exact ⟨.inr (by decide +kernel), by decide +kernel⟩
  have hclosing : Tagged (utf8 "</ul></section>") [(utf8 "/ul", []), (utf8 "/section", [])] :=
    ⟨.inr (by decide), by decide +kernel⟩
  have hsection := (hopening.append (tagged_items us)).append hclosing
  simp only [sectionOf, innerTags, List.append_assoc, List.cons_append, List.nil_append] at hsection ⊢
  exact hsection

/-- The title of a section neither opens nor ends one, and has no list item. -/
theorem titleTags_plain (role : Role) :
    ∀ e ∈ titleTags role, tagName e.1 ≠ utf8 "li" ∧ tagName e.1 ≠ utf8 "section" ∧ e.1 ≠ utf8 "/section" := by
  cases role <;> decide

/-- Nothing inside a section opens or ends one. -/
theorem innerTags_plain (role : Role) (us : List User) :
    ∀ e ∈ innerTags role us, tagName e.1 ≠ utf8 "section" ∧ e.1 ≠ utf8 "/section" := by
  have hitem : ∀ u, tagName (entry u).1 ≠ utf8 "section" ∧ (entry u).1 ≠ utf8 "/section" := by
    intro u
    have hname : tagName (entry u).1 = utf8 "li" := tagName_itemTag u
    refine ⟨by rw [hname]; decide, fun h => ?_⟩
    rw [h] at hname
    exact absurd hname (by decide)
  intro e he
  rcases List.mem_append.1 he with htitle | he
  · exact (titleTags_plain role e htitle).2
  · rcases List.mem_append.1 he with hitems | hclosing
    · obtain ⟨u, -, he⟩ := List.mem_flatMap.1 hitems
      rcases List.mem_cons.1 he with rfl | he
      · exact hitem u
      · obtain rfl := List.mem_singleton.1 he
        decide
    · obtain rfl := List.mem_singleton.1 hclosing
      decide

/-- The list items inside a section are those of its users. -/
theorem listItems_innerTags (role : Role) (us : List User) : listItems (innerTags role us) = us.map entry := by
  have hitems := (renders_items us).adds [(utf8 "/ul", [])]
  rw [(tagged_items us).tags] at hitems
  rw [innerTags, listItems_append fun e he => (titleTags_plain role e he).1, hitems]
  exact List.append_nil _

/-- The tag of a section is one. -/
theorem tagName_sectionTag (role : Role) : tagName (sectionTag role) = utf8 "section" := by
  cases role <;> decide

/-- The tags of the section of a role, if it has one. -/
def sectionTags (g : Groups) (role : Role) : List (Text × Text) :=
  match g.get? role.name with
  | some us => (sectionTag role, []) :: (innerTags role us ++ [(utf8 "/section", [])])
  | none => []

/-- The sections of roles, as they are read from a page. -/
def outlineOf (g : Groups) (roles : List Role) : List (Text × List (Text × Text)) :=
  roles.filterMap fun role => (g.get? role.name).map fun us => (sectionTag role, us.map entry)

/-- The outline of sections in a row has those roles that somebody holds, each with its users. -/
theorem outline_sectionTags (g : Groups) (roles : List Role) (rest : List (Text × Text)) :
    outline (roles.flatMap (sectionTags g) ++ rest) = outlineOf g roles ++ outline rest := by
  induction roles with
  | nil => rfl
  | cons role roles ih =>
    rw [List.flatMap_cons, List.append_assoc, sectionTags, outlineOf]
    cases hus : g.get? role.name with
    | none =>
      rw [List.filterMap_cons_none (by rw [hus]; rfl)]
      exact ih
    | some us =>
      rw [List.filterMap_cons_some (by rw [hus]; rfl)]
      simp only [List.cons_append, List.append_assoc, List.nil_append]
      rw [outline_section (tagName_sectionTag role) (innerTags_plain role us), ih, listItems_innerTags]
      rfl

/-- The sections that are read from the sections of a page. -/
theorem outline_sections (g : Groups) (rest : List (Text × Text)) :
    outline (tags (sections g) ++ rest) = outlineOf g Role.all ++ outline rest := by
  obtain ⟨notice, hnotice, hplain⟩ : ∃ es, Tagged (if g.isEmpty then utf8 "<p class=\"empty\">No users yet.</p>" else []) es ∧
      ∀ e ∈ es, tagName e.1 ≠ utf8 "section" := by
    split
    · exact ⟨_, ⟨.inr (by decide +kernel), rfl⟩, by decide +kernel⟩
    · exact ⟨[], .nil, nofun⟩
  have hopening : Tagged (utf8 "<div id=\"roster\">") [(utf8 "div id=\"roster\"", [])] := ⟨.inr (by decide), by decide +kernel⟩
  have hclosing : Tagged (utf8 "</div>") [(utf8 "/div", [])] := ⟨.inr (by decide), by decide +kernel⟩
  have hsections : Tagged (sections g)
      ([(utf8 "div id=\"roster\"", [])] ++ notice ++ Role.all.flatMap (sectionTags g) ++ [(utf8 "/div", [])]) := by
    refine ((hopening.append hnotice).append (.flatMap (fun role => ?_) Role.all)).append hclosing
    rw [sectionTags]
    cases g.get? role.name with
    | none => exact .nil
    | some us => exact tagged_sectionOf role us
  rw [hsections.tags, List.append_assoc, List.append_assoc, List.append_assoc, outline_append (by decide),
    outline_append hplain, outline_sectionTags, outline_append (by decide)]

/-- The sections that are read from the whole page are the same. -/
theorem outline_page (viewer : Text) (g : Groups) : outline (tags (render viewer g)) = outlineOf g Role.all := by
  have hhead : Tagged (head viewer) (tags (head viewer)) := ⟨.inr rfl, rfl⟩
  have hsections : Tagged (sections g) (tags (sections g)) := ⟨.inr rfl, rfl⟩
  have htail : Tagged tail (tags tail) := ⟨.inr rfl, rfl⟩
  have hpage : tags (render viewer g) = tags (head viewer) ++ (tags (sections g) ++ tags tail) :=
    (hhead.append (hsections.append htail)).tags
  have hend : outline (tags tail) = [] := by decide +kernel
  rw [hpage, outline_append fun e he => (tagName_head viewer e he).2, outline_sections, hend, List.append_nil]

end Page

/-! ## The order of the roster -/

/-- The place of a user's role in the order of the roles. -/
def User.rank (u : User) : Nat := (Role.all.map Role.name).idxOf u.role

/-- A user comes before another: by role, and by id within a role. -/
def User.Before (u v : User) : Prop := u.rank < v.rank ∨ u.rank = v.rank ∧ u.id < v.id

/-- The groups of all stored users, listed by id. -/
def Store.Memory.roster (m : Store.Memory) : Groups := (User.sorted m.users).foldl Groups.add []

namespace Store.Memory

variable (m : Store.Memory)

/-- The group of a role in the roster has those who hold it, by id, if there are any. -/
theorem get?_roster (role : Text) :
    m.roster.get? role =
      if Groups.holders role (User.sorted m.users) = [] then none else some (Groups.holders role (User.sorted m.users)) :=
  Groups.get?_foldl_add _ role

/-- The roster shows the holders of each role, role by role. -/
theorem shown_roster : m.roster.shown = Role.all.flatMap fun role => Groups.holders role.name (User.sorted m.users) := by
  refine List.flatMap_congr fun role _ => ?_
  rw [get?_roster]
  split
  case isTrue hnone => rw [hnone]; rfl
  case isFalse => rfl

/-- Only stored users are shown. -/
theorem mem_of_mem_shown {u : User} (h : u ∈ m.roster.shown) : u ∈ m.users := by
  rw [shown_roster] at h
  obtain ⟨role, -, hu⟩ := List.mem_flatMap.1 h
  exact List.mem_mergeSort.1 (List.mem_of_mem_filter hu)

/-- Everyone whose role is known is shown once. -/
theorem perm_shown (h : ∀ u ∈ m.users, (Role.parse? u.role).isSome = true) : m.roster.shown.Perm m.users := by
  have hroles : (Role.all.map Role.name).Nodup := by decide
  have hknown : ∀ u ∈ User.sorted m.users, u.role ∈ Role.all.map Role.name := by
    intro u hu
    obtain ⟨role, hrole⟩ := Option.isSome_iff_exists.1 (h u ((List.mergeSort_perm _ _).mem_iff.1 hu))
    rw [Role.name_of_parse? hrole]
    cases role <;> decide
  have hperm := perm_flatMap_filter User.role hroles hknown
  rw [List.flatMap_map] at hperm
  rw [shown_roster]
  exact hperm.trans (List.mergeSort_perm _ _)

/-- The rank of a user is the place of its role among the roles. -/
theorem rank_of_mem_holders {role : Role} {us : List User} {u : User} (h : u ∈ Groups.holders role.name us) :
    u.rank = (Role.all.map Role.name).idxOf role.name := by
  rw [User.rank, beq_iff_eq.1 (List.mem_filter.1 h).2]

/-- Users are shown by role and then by id. -/
theorem pairwise_shown {f : Register} (h : Lists m.users f) : m.roster.shown.Pairwise User.Before := by
  have hroles : Role.all.Pairwise fun a b =>
      (Role.all.map Role.name).idxOf a.name < (Role.all.map Role.name).idxOf b.name := by decide
  rw [shown_roster, List.pairwise_flatMap]
  constructor
  · intro role _
    refine (List.pairwise_filter.2 (h.pairwise_sorted.imp fun hlt _ _ => hlt)).imp_of_mem fun hu hv hlt => .inr ⟨?_, hlt⟩
    rw [rank_of_mem_holders hu, rank_of_mem_holders hv]
  · refine hroles.imp fun hlt u hu v hv => .inl ?_
    rw [rank_of_mem_holders hu, rank_of_mem_holders hv]
    exact hlt

/-- The users shown with a role are its holders. -/
theorem filter_shown (role : Role) :
    (m.roster.shown.filter fun u => u.role == role.name) = Groups.holders role.name (User.sorted m.users) := by
  have hother : ∀ role', ((Groups.holders role'.name (User.sorted m.users)).filter fun u => u.role == role.name) =
      if role' = role then Groups.holders role.name (User.sorted m.users) else [] := by
    intro role'
    rw [Groups.holders, List.filter_filter]
    by_cases hsame : role' = role
    · subst hsame
      simp only [Bool.and_self, if_true, Groups.holders]
    · have hname : role.name ≠ role'.name := by
        revert hsame
        cases role <;> cases role' <;> decide
      rw [if_neg hsame, List.filter_eq_nil_iff]
      intro u _ hboth
      rw [Bool.and_eq_true, beq_iff_eq, beq_iff_eq] at hboth
      exact hname (hboth.1.symm.trans hboth.2)
  rw [shown_roster, List.filter_flatMap]
  simp only [hother]
  cases role <;> simp [Role.all]

end Store.Memory

/-! ## What a text shows -/

namespace Page

open Text

/-- A text shows users: with a list item for each of them, once, by role and by id within a role, in sections for the roles that
they hold. -/
structure Shows (t : Text) (us shown : List User) : Prop where
  once : shown.Perm us
  ordered : shown.Pairwise User.Before
  items : listItems (tags t) = shown.map entry
  sections : outline (tags t) =
    (Role.all.filter fun role => us.any fun u => u.role == role.name).map fun role =>
      (sectionTag role, (shown.filter fun u => u.role == role.name).map entry)

/-- A role has a section if there are holders of it. -/
theorem outlineOf_roster (m : Store.Memory) (roles : List Role) :
    outlineOf m.roster roles =
      (roles.filter fun role => m.users.any fun u => u.role == role.name).map fun role =>
        (sectionTag role, (m.roster.shown.filter fun u => u.role == role.name).map entry) := by
  have hheld : ∀ role : Role, (m.users.any fun u => u.role == role.name) = true ↔
      Groups.holders role.name (User.sorted m.users) ≠ [] := by
    intro role
    rw [Groups.holders, ne_eq, List.filter_eq_nil_iff, List.any_eq_true]
    simp only [User.sorted, List.mem_mergeSort, not_forall, not_not, exists_prop]
  induction roles with
  | nil => rfl
  | cons role roles ih =>
    rw [outlineOf, List.filterMap_cons, m.get?_roster, List.filter_cons]
    by_cases hnone : Groups.holders role.name (User.sorted m.users) = []
    · rw [if_pos hnone, if_neg (mt (hheld role).1 (not_not.2 hnone))]
      exact ih
    · rw [if_neg hnone, if_pos ((hheld role).2 hnone), List.map_cons, m.filter_shown]
      exact congrArg (List.cons _) ih

/-- A text with the list items of the roster and its outline shows everyone once, in order. -/
theorem shows_of_read {m : Store.Memory} {f : Register} (hm : Lists m.users f) (hvalid : f.All User.Valid) {t : Text}
    (hitems : listItems (tags t) = m.roster.shown.map entry) (houtline : outline (tags t) = outlineOf m.roster Role.all) :
    Shows t m.users m.roster.shown := by
  refine ⟨m.perm_shown fun u hu => ?_, m.pairwise_shown hm, hitems, houtline.trans (outlineOf_roster m _)⟩
  exact (User.valid_iff.1 (hvalid u.id u ((hm.mem_iff u).1 hu))).2.2.2.2

end Page

/-! ## Carriage returns -/

/-- Escaping neither brings carriage returns nor takes any away. -/
theorem Text.return_mem_escapeHtml_iff {t : Text} : 13 ∈ escapeHtml t ↔ 13 ∈ t := by
  have hbyte : ∀ b, 13 ∈ escapeByte b ↔ b = 13 := by
    intro b
    constructor
    · intro hmem
      unfold escapeByte at hmem
      repeat' split at hmem
      case isFalse.isFalse.isFalse.isFalse.isFalse => exact (List.mem_singleton.1 hmem).symm
      all_goals exact absurd hmem (by decide)
    · rintro rfl
      decide
  rw [escapeHtml, List.mem_flatMap]
  simp only [hbyte, exists_eq_right]

/-- The name or the email of a user has a carriage return. -/
def User.HasReturn (u : User) : Prop := 13 ∈ u.name ∨ 13 ∈ u.email

namespace Page

/-- An item has a carriage return exactly if name or email has one: escaping leaves it. -/
theorem return_mem_item_iff {u : User} : 13 ∈ item u ↔ u.HasReturn := by
  have hkey : 13 ∉ User.key u.id := by
    intro hmem
    exact absurd (List.all_eq_true.1 (Text.all_isDigit_decimal u.id.toNat) 13 hmem) (by decide)
  have hopening : 13 ∉ utf8 "<li id=\"user-" ∧ 13 ∉ utf8 "\" class=\"" ∧ 13 ∉ utf8 "\">" := by decide
  have hclosing : 13 ∉ utf8 " &lt;" ∧ 13 ∉ utf8 "&gt;</li>" := by decide
  have hclass : 13 ∉ (if u.active then utf8 "active" else utf8 "inactive") := by split <;> decide
  simp only [item, User.HasReturn, List.mem_append, Text.return_mem_escapeHtml_iff, hkey, hopening, hclosing, hclass, false_or,
    or_false]

/-- A section has a carriage return exactly if one of its users has. -/
theorem return_mem_sectionOf_iff (role : Role) {us : List User} : 13 ∈ sectionOf role us ↔ ∃ u ∈ us, u.HasReturn := by
  have htitle : 13 ∉ utf8 "<section id=\"role-" ++ role.name ++ utf8 "\"><h2>" ++ Text.escapeHtml role.name ++
      utf8 "</h2><p>" ++ Text.escapeHtml role.describe ++ utf8 "</p><ul>" := by
    cases role <;> decide +kernel
  have hclosing : 13 ∉ utf8 "</ul></section>" := by decide
  rw [sectionOf, List.mem_append, List.mem_append, List.mem_flatMap]
  simp only [htitle, hclosing, false_or, or_false, return_mem_item_iff]

/-- The sections have a carriage return exactly if a user they show has one. -/
theorem return_mem_sections_iff {g : Groups} : 13 ∈ sections g ↔ ∃ u ∈ g.shown, u.HasReturn := by
  have hopening : 13 ∉ utf8 "<div id=\"roster\">" ∧ 13 ∉ utf8 "</div>" := by decide
  have hnotice : 13 ∉ (if g.isEmpty then utf8 "<p class=\"empty\">No users yet.</p>" else []) := by
    split
    · decide
    · exact List.not_mem_nil
  rw [sections, List.mem_append, List.mem_append, List.mem_append, List.mem_flatMap]
  simp only [hopening, hnotice, false_or, or_false, Groups.shown, List.mem_flatMap]
  constructor
  · rintro ⟨role, hrole, hmem⟩
    cases hus : g.get? role.name with
    | none =>
      simp only [hus] at hmem
      cases hmem
    | some us =>
      simp only [hus] at hmem
      obtain ⟨u, hu, hreturn⟩ := (return_mem_sectionOf_iff role).1 hmem
      exact ⟨u, ⟨role, hrole, by rwa [hus]⟩, hreturn⟩
  · rintro ⟨u, ⟨role, hrole, hu⟩, hreturn⟩
    refine ⟨role, hrole, ?_⟩
    cases hus : g.get? role.name with
    | none =>
      rw [hus] at hu
      cases hu
    | some us =>
      rw [hus] at hu
      exact (return_mem_sectionOf_iff role).2 ⟨u, hu, hreturn⟩

end Page

/-! ## The answers -/

/-- Whatever roles users have, the page has groups of them. -/
theorem Http.pageGroups_groupUsers (us : List User) : pageGroups (groupUsers us false) = .ok (us.foldl Groups.add []) := by
  cases us with
  | nil => rfl
  | cons u us =>
    have hall : ((u :: us).filter fun u => u.active || !false) = u :: us := by
      simp only [Bool.not_false, Bool.or_true, List.filter_true]
    rw [groupUsers, hall]
    rfl

/-- In memory the roster is grouped as it is stored, and nothing changes. -/
theorem World.attempt_rosterGroups {w : World} {m : Store.Memory} (hs : w.storage = .memory m) (hf : w.failing = []) :
    w.attempt Http.rosterGroups = (.ok m.roster, w) := by
  have hfind : answer .findAll w = (.ok m.users, w) := by
    simp only [answer, onStore, failure?, hf, hs, List.lookup_nil]
  rw [attempt, run, Http.run_rosterGroups, run_bind, Users.run_groupByRole, run_call, hfind]
  exact congrArg (·, w) (Http.pageGroups_groupUsers (User.sorted m.users))

/-- Where users in memory can be listed, what follows the groups of the roster goes on with them. -/
theorem World.run_rosterGroups_bind {α : Type} {w : World} {m : Store.Memory} (hs : w.storage = .memory m)
    (hf : w.failing = []) (next : Except Fault Groups → Act α) :
    w.run (Http.rosterGroups.run.bind next) = w.run (next (.ok m.roster)) := by
  have hgroups := attempt_rosterGroups hs hf
  unfold attempt run at *
  rw [run_bind, hgroups]

/-- In memory nothing changes when it is found out who is asking. -/
theorem World.authenticate_memory {w : World} {m : Store.Memory} (hs : w.storage = .memory m) (hf : w.failing = [])
    (s : SignIn) (token : Text) : (w.attempt (s.authenticate token)).2 = w := by
  have hfind : ∀ id, answer (.findById id) w = (.ok (m.find? id), w) := answer_findById hs (by rw [failure?, hf]; rfl)
  have hnow : answer .now w = (w.now, w) := rfl
  rw [attempt, run, SignIn.run_authenticate, run_call, hnow]
  cases s.identity? w.now token with
  | none => rfl
  | some i =>
    dsimp only
    rw [run_call, hfind]
    cases m.find? i.id with
    | none => rfl
    | some u =>
      dsimp only
      split <;> rfl

namespace Http

/-- A request to get what is at a path. -/
structure Request.Gets (r : Request) (path : List Text) : Prop where
  target : r.rawTarget ≠ utf8 "*"
  clean : cleanPath r.target.escapedPath = r.target.escapedPath
  method : r.method = utf8 "GET"
  path : pathSegments r.target.escapedPath = path

/-- A request that gets a path takes the route of that path. -/
theorem Request.Gets.route?_eq {r : Request} {path : List Text} (h : r.Gets path) :
    r.route? = findRoute? (utf8 "GET") path := by
  rw [route?_of_clean h.target h.clean (by rw [h.method]; decide), h.method, h.path]

/-- What surrounds the routes writes nothing to the body. -/
theorem pieces_serve {r : Request} {w : World} {id : Text} (hid : w.run (requestId r) = (id, w)) (s : Site) :
    (w.run (serve s r)).2.pieces = (w.run (dispatch s r id)).2.pieces := by
  unfold World.run at hid ⊢
  rw [serve, Program.bind_eq, run_bind, hid]
  simp only [Act.ask, Program.ask, Program.bind_eq, call_bind, done_bind, run_call, run_bind]
  rfl

theorem writeAll_cons (piece : Text) (rest : List Text) :
    writeAll (piece :: rest) = .call (.write piece) fun
      | .ok _ => writeAll rest
      | .error f => .done (.error f) := by
  refine congrArg (Program.call _) (funext fun r => ?_)
  cases r <;> rfl

/-- A client that takes everything is sent all the pieces. -/
theorem run_writeAll {w : World} (h : w.writesLeft = none) (pieces : List Text) :
    w.run (writeAll pieces) = (.ok (), { w with pieces := pieces.reverse ++ w.pieces }) := by
  induction pieces generalizing w with
  | nil => rfl
  | cons piece rest ih =>
    rw [World.run, writeAll_cons, run_call, World.answer_write h, List.reverse_cons, List.append_assoc]
    exact ih (w := { w with pieces := piece :: w.pieces }) h

/-- The page is written whole. -/
theorem run_showPage {w : World} (h : w.writesLeft = none) (viewer : Text) (g : Groups) :
    (w.run (showPage viewer (.ok g))).1.status = 200 ∧
      (w.run (showPage viewer (.ok g))).2 = { w with pieces := (Page.pieces viewer g).reverse ++ w.pieces } := by
  have hwritten := run_writeAll h (Page.pieces viewer g)
  unfold World.run at hwritten ⊢
  rw [showPage, Program.bind_eq, run_bind, hwritten]
  exact ⟨rfl, rfl⟩

section Answers

variable {s : Site} {w : World} {m : Store.Memory} {a : Arrival} {viewer : User}

/-- An endpoint for everybody who is signed in goes on with the user who is asking. -/
theorem run_dispatch_guarded {r : Request} {e : Endpoint} {segment : Text} (hroute : r.route? = some (e, segment))
    (haudience : e.audience = .signedIn) (hviewer : (w.attempt (s.signIn.authenticate (requestToken r))).1 = .ok viewer)
    (id : Text) :
    w.run (dispatch s r id) = (w.attempt (s.signIn.authenticate (requestToken r))).2.run
      (e.serve s { request := r, segment, requestId := id, user := some viewer }) := by
  rw [dispatch_of_route hroute, Endpoint.serveGuarded, haudience]
  dsimp only
  rw [run_orFault, hviewer]

/-- Over a store in memory it does so in the same world. -/
theorem run_dispatch_signedIn (hs : w.storage = .memory m) (hf : w.failing = []) {r : Request} {e : Endpoint} {segment : Text}
    (hroute : r.route? = some (e, segment)) (haudience : e.audience = .signedIn)
    (hviewer : (w.attempt (s.signIn.authenticate (requestToken r))).1 = .ok viewer) (id : Text) :
    w.run (dispatch s r id) = w.run (e.serve s { request := r, segment, requestId := id, user := some viewer }) := by
  rw [run_dispatch_guarded hroute haudience hviewer, World.authenticate_memory hs hf]

/-- The page that is answered with. -/
theorem serve_page (hs : w.storage = .memory m) (hf : w.failing = []) (hwrites : w.writesLeft = none) (hpieces : w.pieces = [])
    {r : Request} (hr : r.Gets [utf8 "/"]) (hviewer : (w.attempt (s.signIn.authenticate (requestToken r))).1 = .ok viewer) :
    (w.run (serve s r)).1.status = 200 ∧ (w.run (serve s r)).2.body = Page.render viewer.name m.roster := by
  have hroute : r.route? = some (.rosterPage, []) := hr.route?_eq.trans (by decide +kernel)
  obtain ⟨id, hid⟩ := run_requestId r w
  obtain ⟨hstatus, hworld⟩ := run_showPage hwrites viewer.name m.roster
  have hpage : w.run (dispatch s r id) = w.run (showPage viewer.name (.ok m.roster)) := by
    rw [run_dispatch_signedIn hs hf hroute rfl hviewer]
    exact World.run_rosterGroups_bind hs hf (showPage viewer.name)
  rw [(run_serve_of_id hid s).1, World.body, pieces_serve hid, hpage, hworld, hpieces, List.append_nil, List.reverse_reverse]
  exact ⟨hstatus, rfl⟩

/-- The stream that is answered with. -/
theorem serve_stream (hs : w.storage = .memory m) (hf : w.failing = []) (hpatience : w.patience = .ok ())
    (hwrites : w.writesLeft = none) (hpieces : w.pieces = []) {r : Request} (hr : r.Gets [utf8 "roster", utf8 "stream"])
    (hviewer : (w.attempt (s.signIn.authenticate (requestToken r))).1 = .ok viewer) :
    (w.run (serve s r)).1.status = 200 ∧ ∃ counts : List (Nat × Nat), (w.run (serve s r)).2.body =
      EventStream.patching (Page.sections m.roster) counts := by
  have hroute : r.route? = some (.rosterStream, []) := hr.route?_eq.trans (by decide +kernel)
  obtain ⟨id, hid⟩ := run_requestId r w
  have hstream : w.run (dispatch s r id) = w.run (showStream (streamJob r.target) s.counterDelay (.ok m.roster)) := by
    rw [run_dispatch_signedIn hs hf hroute rfl hviewer]
    exact World.run_rosterGroups_bind hs hf (showStream (streamJob r.target) s.counterDelay)
  obtain ⟨counts, hbody⟩ := body_showStream hpatience hwrites hpieces (streamJob r.target) s.counterDelay m.roster
  refine ⟨?_, counts, ?_⟩
  · rw [(run_serve_of_id hid s).1, hstream]
    exact (run_showStream hpatience hwrites _ _ m.roster).1
  · rw [World.body, pieces_serve hid, hstream]
    exact hbody

end Answers

/-- For whatever operations on users and sign-in have left in memory there is a fragment that shows the stored users, everyone
once, such that:
1. Everybody who is signed in gets the page with it, and the page shows the same users in the same order and sections.
2. Everybody who is signed in, and waits for it, gets a stream that is written with this fragment and with nothing else to put
   into the page. It puts just this fragment there exactly if no name and no email has a carriage return. -/
theorem stream_shows_everyone_iff {faults : Call → Fault → Prop} {t : SignIn} {cached : Bool} {w : World} {m : Store.Memory}
    (harises : World.Arises faults t cached w) (hmemory : w.storage = .memory m) (s : Site) :
    ∃ fragment shown, Page.Shows fragment m.users shown ∧
    (∀ (a : Arrival) (viewer : User), a.request.Gets [utf8 "/"] → a.writesLeft = none →
      ((a.enter w).attempt (s.signIn.authenticate (requestToken a.request))).1 = .ok viewer →
      let answer := (a.enter w).run (serve s a.request)
      answer.1.status = 200 ∧ answer.2.body = Page.head viewer.name ++ fragment ++ Page.tail ∧
        Page.Shows answer.2.body m.users shown) ∧
    (∀ (a : Arrival) (viewer : User), a.request.Gets [utf8 "roster", utf8 "stream"] → a.writesLeft = none →
      (a.enter w).patience = .ok () →
      ((a.enter w).attempt (s.signIn.authenticate (requestToken a.request))).1 = .ok viewer →
      let answer := (a.enter w).run (serve s a.request)
      answer.1.status = 200 ∧ (∃ counts, answer.2.body = EventStream.patching fragment counts) ∧
        (EventStream.patches answer.2.body = [fragment] ↔ ∀ u ∈ m.users, 13 ∉ u.name ∧ 13 ∉ u.email)) := by
  obtain ⟨⟨f, hholds, hvalid⟩, hfailing⟩ := harises.sane
  rw [hmemory] at hholds
  have hshows : Page.Shows (Page.sections m.roster) m.users m.roster.shown := by
    refine Page.shows_of_read hholds hvalid (Page.renders_sections m.roster).listItems_tags ?_
    have houtline := Page.outline_sections m.roster []
    rwa [List.append_nil, Text.outline, List.append_nil] at houtline
  refine ⟨Page.sections m.roster, m.roster.shown, hshows, ?_, ?_⟩
  · intro a viewer hgets hwrites hviewer answer
    obtain ⟨hstatus, hbody⟩ := serve_page (w := a.enter w) hmemory hfailing hwrites rfl hgets hviewer
    refine ⟨hstatus, ?_, ?_⟩
    · rw [show answer.2.body = _ from hbody, Page.render, Page.pieces]
      simp only [List.flatten_cons, List.flatten_nil, List.append_nil, List.append_assoc]
    · rw [show answer.2.body = _ from hbody]
      exact Page.shows_of_read hholds hvalid (Page.renders_page viewer.name m.roster).listItems_tags
        (Page.outline_page viewer.name m.roster)
  · intro a viewer hgets hwrites hpatience hviewer answer
    obtain ⟨hstatus, counts, hbody⟩ := serve_stream (w := a.enter w) hmemory hfailing hpatience hwrites rfl hgets hviewer
    rw [show answer.2.body = _ from hbody]
    refine ⟨hstatus, ⟨counts, rfl⟩, ?_⟩
    rw [EventStream.patches_patching_iff, Page.return_mem_sections_iff]
    simp only [hshows.once.mem_iff, User.HasReturn, not_exists, not_and, not_or]

/-- A request for a path by somebody with a token. -/
def arrivalWith (token path : Text) : Arrival :=
  { request :=
      { method := "GET", rawTarget := path, target := { path, escapedPath := path, query := [] }
        headers := [⟨"Authorization", utf8 "Bearer " ++ token⟩] } }

/-- The token of such an arrival is the one in its header field. -/
theorem requestToken_arrivalWith (token path : Text) : requestToken (arrivalWith token path).request = token := by
  have hvalue : valueOf? (arrivalWith token path).request.headers "Authorization" = some (utf8 "Bearer " ++ token) := rfl
  rw [requestToken, hvalue, Option.bind_some, Text.strip?_append]

/-- Such an arrival gets the page. -/
theorem gets_page (token : Text) : (arrivalWith token "/").request.Gets [utf8 "/"] := by
  refine ⟨?_, ?_, rfl, ?_⟩
  · show utf8 "/" ≠ utf8 "*"
    decide
  · show cleanPath (utf8 "/") = utf8 "/"
    decide +kernel
  · show pathSegments (utf8 "/") = [utf8 "/"]
    decide +kernel

/-- Such an arrival gets the stream. -/
theorem gets_stream (token : Text) : (arrivalWith token "/roster/stream").request.Gets [utf8 "roster", utf8 "stream"] := by
  refine ⟨?_, ?_, rfl, ?_⟩
  · show utf8 "/roster/stream" ≠ utf8 "*"
    decide
  · show cleanPath (utf8 "/roster/stream") = utf8 "/roster/stream"
    decide +kernel
  · show pathSegments (utf8 "/roster/stream") = [utf8 "roster", utf8 "stream"]
    decide +kernel

/-- Whoever brings a token that has just been issued to a stored user is recognised as that user. -/
theorem attempt_authenticate_issued {s : Site} {w : World} {m : Store.Memory} (hmemory : w.storage = .memory m)
    (hfailing : w.failing = []) (hclock : w.now.unix.natAbs < 2 ^ 62) {id : UInt64} {role : Role} {u : User}
    (hfound : m.find? id = some u) (hactive : u.active = true) {a : Arrival} (hdelay : a.delay = 0)
    (htoken : requestToken a.request = Token.issue s.signIn.secret w.now role.name (User.key id)) :
    (a.enter w).attempt (s.signIn.authenticate (requestToken a.request)) = (.ok u, a.enter w) := by
  have hnow : (a.enter w).now = w.now := by
    show ({ instant := w.clock + a.delay } : Timestamp) = { instant := w.clock }
    rw [hdelay, Int.add_zero]
  have hidentity := s.signIn.identity?_issue_at_once hclock id role
  rw [← htoken, ← hnow] at hidentity
  exact World.attempt_authenticate_memory hmemory hfailing hidentity hfound hactive

/-- A site that keeps passwords as they are. -/
def plainSite : Site :=
  { signIn := { secret := "key", passwords := { hash := fun _ p => .ok p, accepts := fun h p => h == p }, cached := true }
    cached := true, cookieSecure := true, counterDelay := 0 }

/-- Three users, of whom one is not active. -/
def trio : List User :=
  [{ id := 4, name := "Bob", email := "bob@example.com", role := "viewer", active := false },
   { id := 9, name := "Ann", email := "ann@example.com", role := "admin" },
   { id := 2, name := "Cy", email := "cy@example.com", role := "viewer" }]

/-- An empty roster that has been seeded with them. -/
def trioWorld : World := (World.attempt { clock := 0 } ((Operation.seed trio).task plainSite.signIn true)).2

/-- The token of the second. -/
def trioToken : Text := Token.issue plainSite.signIn.secret trioWorld.now Role.admin.name (User.key 9)

theorem trioWorld_storage : trioWorld.storage = .memory ⟨trio.reverse⟩ := rfl

/-- Whoever brings the token of the second is recognised. -/
theorem attempt_authenticate_trio {a : Arrival} (hdelay : a.delay = 0) (htoken : requestToken a.request = trioToken) :
    (a.enter trioWorld).attempt (plainSite.signIn.authenticate (requestToken a.request)) = (.ok trio[1], a.enter trioWorld) :=
  attempt_authenticate_issued trioWorld_storage rfl (by decide +kernel) (by decide +kernel) rfl hdelay htoken

/-- Three users have been seeded. One of them gets the page and the stream, which show all of them. -/
theorem seeded_roster_on_page_and_stream :
    let page := ((arrivalWith trioToken "/").enter trioWorld).run (serve plainSite (arrivalWith trioToken "/").request)
    let stream := ((arrivalWith trioToken "/roster/stream").enter trioWorld).run
      (serve plainSite (arrivalWith trioToken "/roster/stream").request)
    ∃ fragment shown, Page.Shows fragment trio.reverse shown ∧
      page.1.status = 200 ∧ page.2.body = Page.head "Ann" ++ fragment ++ Page.tail ∧
      Page.Shows page.2.body trio.reverse shown ∧
      stream.1.status = 200 ∧ EventStream.patches stream.2.body = [fragment] := by
  have hstart : World.Arises (fun _ _ => False) plainSite.signIn true { clock := 0 } := .start .nil rfl
  have harises : World.Arises (fun _ _ => False) plainSite.signIn true trioWorld :=
    .operation _ hstart (World.runs_attempt _ _ _)
  have hreturns : ∀ u ∈ trio.reverse, 13 ∉ u.name ∧ 13 ∉ u.email := by decide +kernel
  have hviewer : ∀ path, (((arrivalWith trioToken path).enter trioWorld).attempt
      (plainSite.signIn.authenticate (requestToken (arrivalWith trioToken path).request))).1 = .ok trio[1] := fun path =>
    congrArg Prod.fst (attempt_authenticate_trio rfl (requestToken_arrivalWith trioToken path))
  obtain ⟨fragment, shown, hshows, hpages, hstreams⟩ := stream_shows_everyone_iff harises trioWorld_storage plainSite
  obtain ⟨hstatus, hbody, hbodyShows⟩ := hpages (arrivalWith trioToken "/") _ (gets_page _) rfl (hviewer "/")
  obtain ⟨hstatus', -, hpatch⟩ := hstreams (arrivalWith trioToken "/roster/stream") _ (gets_stream _) rfl rfl
    (hviewer "/roster/stream")
  exact ⟨fragment, shown, hshows, hstatus, hbody, hbodyShows, hstatus', hpatch.2 hreturns⟩

/-- A user whose name has a carriage return. -/
def brokenName : User := { id := 1, name := "A\rB", email := "ab@example.com", role := "admin" }

/-- An empty roster after this user has been saved. -/
def brokenNameWorld : World := (World.attempt { clock := 0 } ((Operation.save brokenName).task plainSite.signIn true)).2

/-- The token of this user. -/
def brokenNameToken : Text := Token.issue plainSite.signIn.secret brokenNameWorld.now Role.admin.name (User.key 1)

/-- The roster of the one user has one group. -/
theorem roster_brokenName : (⟨[brokenName]⟩ : Store.Memory).roster = [(utf8 "admin", [brokenName])] := by
  rw [Store.Memory.roster, User.sorted, List.mergeSort_singleton]
  rfl

/-- What is read of the sections that show this user ends in the middle of the name. -/
theorem patches_brokenName :
    EventStream.patches (StreamEvent.elements (Page.sections [(utf8 "admin", [brokenName])])).written =
      [utf8 "<div id=\"roster\"><section id=\"role-admin\"><h2>admin</h2><p>Administrator with full access</p><ul>" ++
        utf8 "<li id=\"user-1\" class=\"active\">A"] := by
  decide +kernel

/-- A user has been saved whose name has a carriage return. The page shows this user, but what the stream puts into the page
ends with the carriage return, in the middle of the name, and has no list item. -/
theorem carriage_return_cuts_stream :
    let page := ((arrivalWith brokenNameToken "/").enter brokenNameWorld).run
      (serve plainSite (arrivalWith brokenNameToken "/").request)
    let stream := ((arrivalWith brokenNameToken "/roster/stream").enter brokenNameWorld).run
      (serve plainSite (arrivalWith brokenNameToken "/roster/stream").request)
    brokenNameWorld.storage = .memory ⟨[brokenName]⟩ ∧
    page.1.status = 200 ∧ Text.listItems (Text.tags page.2.body) = [Page.entry brokenName] ∧
    stream.1.status = 200 ∧ ∃ cut, EventStream.patches stream.2.body = [cut] ∧ Text.listItems (Text.tags cut) = [] := by
  dsimp only
  have hmemory : brokenNameWorld.storage = .memory ⟨[brokenName]⟩ := rfl
  have hfailing : brokenNameWorld.failing = [] := rfl
  have hclock : brokenNameWorld.now.unix.natAbs < 2 ^ 62 := by decide +kernel
  have hfound : (⟨[brokenName]⟩ : Store.Memory).find? 1 = some brokenName := by decide +kernel
  have hviewer : ∀ path, (((arrivalWith brokenNameToken path).enter brokenNameWorld).attempt
      (plainSite.signIn.authenticate (requestToken (arrivalWith brokenNameToken path).request))).1 = .ok brokenName := fun path =>
    congrArg Prod.fst (attempt_authenticate_issued hmemory hfailing hclock hfound rfl rfl
      (requestToken_arrivalWith brokenNameToken path))
  obtain ⟨hstatus, hbody⟩ := serve_page (w := (arrivalWith brokenNameToken "/").enter brokenNameWorld) hmemory hfailing rfl rfl
    (gets_page _) (hviewer "/")
  obtain ⟨hstatus', counts, hbody'⟩ := serve_stream (w := (arrivalWith brokenNameToken "/roster/stream").enter brokenNameWorld)
    hmemory hfailing rfl rfl rfl (gets_stream _) (hviewer "/roster/stream")
  rw [roster_brokenName] at hbody hbody'
  refine ⟨hmemory, hstatus, ?_, hstatus', ?_⟩
  · rw [hbody]
    exact (Page.renders_page brokenName.name _).listItems_tags
  · rw [hbody', EventStream.patches_patching, patches_brokenName]
    exact ⟨_, rfl, by decide +kernel⟩

end Http

end Roster
