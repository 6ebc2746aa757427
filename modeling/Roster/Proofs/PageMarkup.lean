import Roster.Page
import Roster.Proofs.Stores
import Roster.Proofs.Tokens

/-!
# What is markup on a page

A page is read back as a browser reads it: as tags, each with the text that follows it (`tags`), and in these texts character
references stand for characters (`unescapeHtml`). Escaped texts hold no byte that could begin or end a tag or a quoted
attribute, so names and emails leave the markup of a page as it is, and the text of each list item is read back as it was.

Pages are put together from pieces that begin with a tag, and the list items of a page are those of its pieces (`Renders`).
-/

namespace Roster

namespace Text

/-! ## Escaped texts -/

/-- Whether a byte can begin or end a tag or a quoted attribute. -/
def isMarkup (b : UInt8) : Bool := b == byte '<' || b == byte '>' || b == byte '"' || b == byte '\''

/-- The bytes of a text that are markup, in order. -/
def markup (t : Text) : Text := t.filter isMarkup

/-- The markup of two texts in a row is that of the first and then that of the second. -/
theorem markup_append (s t : Text) : markup (s ++ t) = markup s ++ markup t := List.filter_append ..

/-- The markup of pieces in a row is that of each piece. -/
theorem markup_flatMap {α : Type} (f : α → Text) (l : List α) : markup (l.flatMap f) = l.flatMap fun a => markup (f a) :=
  List.filter_flatMap ..

/-- The names of character references with the bytes that they stand for. -/
def references : List (Text × UInt8) :=
  [("amp", byte '&'), ("lt", byte '<'), ("gt", byte '>'), ("#34", byte '"'), ("#39", byte '\'')]

/-- A byte is written as a reference, with an ampersand before the name and a semicolon after it. Neither of them occurs in the
name, nor does any markup. -/
structure Refers (name : Text) (b : UInt8) : Prop where
  named : references.lookup name = some b
  written : escapeByte b = byte '&' :: (name ++ [byte ';'])
  ampersand : byte '&' ∉ name
  semicolon : byte ';' ∉ name
  markup : markup name = []

/-- Every reference of the table stands for its byte, and for no other. -/
theorem refers_of_mem : ∀ e ∈ references, Refers e.1 e.2 := by
  have hall : ∀ e ∈ references, references.lookup e.1 = some e.2 ∧ escapeByte e.2 = byte '&' :: (e.1 ++ [byte ';']) ∧
      byte '&' ∉ e.1 ∧ byte ';' ∉ e.1 ∧ markup e.1 = [] := by decide
  intro e he
  obtain ⟨hnamed, hwritten, hampersand, hsemicolon, hmarkup⟩ := hall e he
  exact ⟨hnamed, hwritten, hampersand, hsemicolon, hmarkup⟩

/-- A byte is written as a reference, or it is neither markup nor an ampersand and stands for itself. -/
theorem escapeByte_cases (b : UInt8) :
    (∃ name, Refers name b) ∨ (b ≠ byte '&' ∧ isMarkup b = false ∧ escapeByte b = [b]) := by
  by_cases h : ∃ e ∈ references, e.2 = b
  · obtain ⟨e, he, rfl⟩ := h
    exact .inl ⟨e.1, refers_of_mem e he⟩
  · right
    simp only [references, List.mem_cons, List.not_mem_nil, or_false, exists_eq_or_imp, exists_eq_left, not_or] at h
    obtain ⟨hamp, hlt, hgt, hdouble, hsingle⟩ := h
    simp [escapeByte, isMarkup, Ne.symm hamp, Ne.symm hlt, Ne.symm hgt, Ne.symm hdouble, Ne.symm hsingle]

/-- An escaped text holds no markup. -/
theorem markup_escapeHtml (t : Text) : markup (escapeHtml t) = [] := by
  rw [escapeHtml, markup_flatMap, List.flatMap_eq_nil_iff]
  intro b _
  rcases escapeByte_cases b with ⟨name, hname⟩ | ⟨_, hplain, hb⟩
  · have hwhole : markup (byte '&' :: (name ++ [byte ';'])) = markup name := by
      rw [← List.singleton_append, markup_append, markup_append]
      exact List.append_nil (markup name)
    rw [hname.written, hwhole, hname.markup]
  · rw [hb, markup, List.filter_singleton, hplain]
    rfl

/-- An escaped text has no byte that is markup. -/
theorem notMem_escapeHtml {b : UInt8} (hb : isMarkup b = true) (t : Text) : b ∉ escapeHtml t := by
  intro hmem
  have hmarkup : b ∈ markup (escapeHtml t) := List.mem_filter.2 ⟨hmem, hb⟩
  rw [markup_escapeHtml] at hmarkup
  cases hmarkup

/-- Texts are escaped byte by byte. -/
theorem escapeHtml_append (s t : Text) : escapeHtml (s ++ t) = escapeHtml s ++ escapeHtml t := List.flatMap_append

/-! ## Cutting texts -/

/-- A text is cut at the first place where the byte stands. -/
theorem cut?_append {b : UInt8} {s : Text} (h : b ∉ s) (t : Text) : cut? b (s ++ b :: t) = some (s, t) := by
  induction s with
  | nil => simp [cut?]
  | cons a s ih =>
    obtain ⟨ha, hs⟩ := not_or.1 (mt List.mem_cons.2 h)
    simp [cut?, Ne.symm ha, ih hs]

/-- Splitting leaves at least one piece. -/
theorem exists_split (b : UInt8) (t : Text) : ∃ piece rest, split b t = piece :: rest := by
  cases t with
  | nil => exact ⟨_, _, rfl⟩
  | cons a t =>
    rw [split]
    split
    · exact ⟨_, _, rfl⟩
    · split <;> exact ⟨_, _, rfl⟩

/-- The first piece goes on to the left as far as the byte does not occur. -/
theorem split_append_left {b : UInt8} {s : Text} (h : b ∉ s) {t piece : Text} {rest : List Text}
    (ht : split b t = piece :: rest) : split b (s ++ t) = (s ++ piece) :: rest := by
  induction s with
  | nil => exact ht
  | cons a s ih =>
    obtain ⟨ha, hs⟩ := not_or.1 (mt List.mem_cons.2 h)
    simp [split, Ne.symm ha, ih hs]

/-- The pieces on both sides of an occurrence of the byte. -/
theorem split_append_cons (b : UInt8) (s t : Text) : split b (s ++ b :: t) = split b s ++ split b t := by
  induction s with
  | nil => simp [split]
  | cons a s ih =>
    obtain ⟨piece, rest, hs⟩ := exists_split b s
    by_cases ha : a = b
    · simp [split, ha, ih]
    · simp [split, ha, ih, hs]

/-! ## Character references -/

/-- A piece that follows an ampersand: with a semicolon after a name it is a reference, otherwise it stands for itself. -/
def resolve (piece : Text) : Text :=
  match cut? (byte ';') piece with
  | some (name, after) =>
    match references.lookup name with
    | some b => b :: after
    | none => byte '&' :: piece
  | none => byte '&' :: piece

/-- A text of a page with characters in place of their references. -/
def unescapeHtml (t : Text) : Text :=
  match split (byte '&') t with
  | [] => []
  | first :: rest => first ++ rest.flatMap resolve

/-- A byte that begins no reference is read as it is. -/
theorem unescapeHtml_cons {b : UInt8} (h : b ≠ byte '&') (t : Text) : unescapeHtml (b :: t) = b :: unescapeHtml t := by
  obtain ⟨first, rest, ht⟩ := exists_split (byte '&') t
  have hcons : split (byte '&') (b :: t) = (b :: first) :: rest :=
    split_append_left (mt List.mem_singleton.1 h.symm) ht
  rw [unescapeHtml, unescapeHtml, hcons, ht]
  rfl

/-- A reference is read as the byte it stands for. -/
theorem Refers.unescapeHtml {name : Text} {b : UInt8} (h : Refers name b) (t : Text) :
    unescapeHtml (byte '&' :: (name ++ byte ';' :: t)) = b :: unescapeHtml t := by
  obtain ⟨first, rest, ht⟩ := exists_split (byte '&') t
  have hname : byte '&' ∉ name ++ [byte ';'] := by
    rw [List.mem_append, List.mem_singleton]
    exact not_or.2 ⟨h.ampersand, by decide⟩
  have hpieces : split (byte '&') (byte '&' :: (name ++ byte ';' :: t)) = [] :: (name ++ byte ';' :: first) :: rest := by
    have hleft := split_append_left hname ht
    rw [List.append_assoc, List.append_assoc] at hleft
    rw [split, if_pos (beq_self_eq_true _)]
    exact congrArg (List.cons []) hleft
  have hresolve : resolve (name ++ byte ';' :: first) = b :: first := by
    rw [resolve, cut?_append h.semicolon]
    simp only [h.named]
  rw [Text.unescapeHtml, Text.unescapeHtml, hpieces, ht]
  simp only [List.nil_append, List.flatMap_cons, hresolve, List.cons_append]

/-- Escaping is undone. -/
theorem unescapeHtml_escapeHtml (t : Text) : unescapeHtml (escapeHtml t) = t := by
  induction t with
  | nil => decide
  | cons b t ih =>
    rw [escapeHtml, List.flatMap_cons]
    rcases escapeByte_cases b with ⟨name, hname⟩ | ⟨hamp, _, hb⟩
    · rw [hname.written, List.cons_append, List.append_assoc, List.singleton_append, hname.unescapeHtml]
      exact congrArg (List.cons b) ih
    · rw [hb, List.singleton_append, unescapeHtml_cons hamp]
      exact congrArg (List.cons b) ih

/-! ## Tags -/

/-- The tags of a page in order, without their angle brackets, each with the text that follows it up to the next one. -/
def tags (t : Text) : List (Text × Text) :=
  (split (byte '<') t).tail.map fun piece => (cut? (byte '>') piece).getD (piece, [])

/-- The name of a tag: what stands before the first blank. -/
def tagName (tag : Text) : Text := tag.takeWhile (· != byte ' ')

/-- The list items among tags: opening tags with the texts up to the closing ones. -/
def listItems : List (Text × Text) → List (Text × Text)
  | opening :: closing :: rest =>
    if tagName opening.1 == utf8 "li" && closing.1 == utf8 "/li" then opening :: listItems (closing :: rest)
    else listItems (closing :: rest)
  | _ => []

/-- The tags of a page that goes on with a tag. -/
theorem tags_append (s t : Text) : tags (s ++ byte '<' :: t) = tags s ++ tags (byte '<' :: t) := by
  obtain ⟨piece, rest, hs⟩ := exists_split (byte '<') s
  have ht : split (byte '<') (byte '<' :: t) = [] :: split (byte '<') t := by
    rw [split, if_pos (beq_self_eq_true _)]
  rw [tags, tags, tags, split_append_cons, hs, ht, List.cons_append, List.tail_cons, List.tail_cons, List.tail_cons,
    List.map_append]

/-- A tag and the text after it. -/
theorem tags_tag {tag text : Text} (hopen : byte '<' ∉ tag) (hclose : byte '>' ∉ tag) (htext : byte '<' ∉ text) :
    tags (byte '<' :: (tag ++ byte '>' :: text)) = [(tag, text)] := by
  have hpiece : byte '<' ∉ tag ++ byte '>' :: text := by
    rw [List.mem_append, List.mem_cons]
    exact not_or.2 ⟨hopen, not_or.2 ⟨by decide, htext⟩⟩
  rw [tags, split, if_pos (beq_self_eq_true _), List.tail_cons, split_of_notMem hpiece, List.map_singleton,
    cut?_append hclose]
  rfl

/-- A tag that is no list item does not count. -/
theorem listItems_cons {e : Text × Text} (h : tagName e.1 ≠ utf8 "li") (rest : List (Text × Text)) :
    listItems (e :: rest) = listItems rest := by
  cases rest with
  | nil => rfl
  | cons e' rest => rw [listItems, beq_eq_false_iff_ne.2 h, Bool.false_and, if_neg Bool.false_ne_true]

/-- Tags that are no list items do not count. -/
theorem listItems_append {es : List (Text × Text)} (h : ∀ e ∈ es, tagName e.1 ≠ utf8 "li") (rest : List (Text × Text)) :
    listItems (es ++ rest) = listItems rest := by
  induction es with
  | nil => rfl
  | cons e es ih =>
    rw [List.cons_append, listItems_cons (h e List.mem_cons_self)]
    exact ih fun e' he' => h e' (List.mem_cons_of_mem e he')

/-- A piece of a page that begins with a tag, and the list items that it adds to any page. -/
structure Renders (t : Text) (items : List (Text × Text)) : Prop where
  begins : t = [] ∨ ∃ rest, t = byte '<' :: rest
  adds : ∀ rest, listItems (tags t ++ rest) = items ++ listItems rest

namespace Renders

variable {s t : Text} {items items' : List (Text × Text)}

theorem nil : Renders [] [] := ⟨.inl rfl, fun _ => rfl⟩

/-- A page in two parts has the list items of both. -/
theorem append (hs : Renders s items) (ht : Renders t items') : Renders (s ++ t) (items ++ items') := by
  obtain rfl | ⟨rest, rfl⟩ := ht.begins
  · have hnone : [] = items' ++ [] := ht.adds []
    rw [List.append_nil] at hnone
    rwa [← hnone, List.append_nil, List.append_nil]
  · refine ⟨?_, fun rest' => ?_⟩
    · obtain rfl | ⟨rest', rfl⟩ := hs.begins
      · exact .inr ⟨rest, rfl⟩
      · exact .inr ⟨_, rfl⟩
    · rw [tags_append, List.append_assoc, hs.adds, ht.adds, List.append_assoc]

/-- Pieces in a row have the list items of each piece. -/
theorem flatMap {α : Type} {f : α → Text} {g : α → List (Text × Text)} (h : ∀ a, Renders (f a) (g a)) (l : List α) :
    Renders (l.flatMap f) (l.flatMap g) := by
  induction l with
  | nil => exact .nil
  | cons a l ih => exact (h a).append ih

/-- Tags other than those of list items add none. -/
theorem of_tags (hbegins : t.head? = some (byte '<')) (htags : ∀ e ∈ tags t, tagName e.1 ≠ utf8 "li") : Renders t [] := by
  obtain ⟨rest, rfl⟩ := List.head?_eq_some_iff.1 hbegins
  exact ⟨.inr ⟨rest, rfl⟩, listItems_append htags⟩

/-- A text that renders items is read back with these items. -/
theorem listItems_tags (h : Renders t items) : listItems (tags t) = items := by
  have hitems : listItems (tags t ++ []) = items ++ [] := h.adds []
  rwa [List.append_nil, List.append_nil] at hitems

end Renders

end Text

/-- A user without name and email. -/
def User.anonymous (u : User) : User := { u with name := [], email := [] }

namespace Groups

/-- The users that a page shows, in the order of the page. -/
def shown (g : Groups) : List User := Role.all.flatMap fun role => (g.get? role.name).getD []

/-- The groups without names and emails. -/
def anonymous (g : Groups) : Groups := g.map fun e => (e.1, e.2.map User.anonymous)

/-- The group of a role among the anonymous users is the group of that role, made anonymous. -/
theorem get?_anonymous (g : Groups) (role : Text) : g.anonymous.get? role = (g.get? role).map (List.map User.anonymous) := by
  induction g with
  | nil => rfl
  | cons e g ih =>
    rw [get?, get?, anonymous, List.map_cons, List.lookup_cons, List.lookup_cons]
    cases role == e.1 with
    | true => rfl
    | false => exact ih

end Groups

/-! ## The page -/

namespace Page

open Text

/-- The tag that opens the list item of a user. -/
def itemTag (u : User) : Text :=
  utf8 "li id=\"user-" ++ User.key u.id ++ utf8 "\" class=\"" ++ (if u.active then utf8 "active" else utf8 "inactive") ++
    utf8 "\""

/-- What the list item of a user says. -/
def label (u : User) : Text := u.name ++ utf8 " <" ++ u.email ++ utf8 ">"

/-- An item is one tag, the escaped label of the user, and the tag that ends it. -/
theorem item_eq (u : User) :
    item u = byte '<' :: (itemTag u ++ byte '>' :: escapeHtml (label u)) ++ utf8 "</li>" := by
  have hopening : utf8 "<li id=\"user-" = byte '<' :: utf8 "li id=\"user-" := by decide
  have hclosing : utf8 "\">" = utf8 "\"" ++ [byte '>'] := by decide
  have hblank : utf8 " &lt;" = escapeHtml (utf8 " <") := by decide
  have hend : utf8 "&gt;</li>" = escapeHtml (utf8 ">") ++ utf8 "</li>" := by decide
  rw [item, hopening, hclosing, hblank, hend, label, escapeHtml_append, escapeHtml_append, escapeHtml_append, itemTag]
  simp only [List.append_assoc, List.cons_append, List.nil_append]

/-- The tag of a list item holds digits and fixed texts only. -/
theorem notMem_itemTag {b : UInt8} (hb : b = byte '<' ∨ b = byte '>') (u : User) : b ∉ itemTag u := by
  have hkey : b ∉ User.key u.id := by
    intro hmem
    have hdigit := List.all_eq_true.1 (all_isDigit_decimal u.id.toNat) b hmem
    rcases hb with rfl | rfl
    · exact absurd hdigit (by decide)
    · exact absurd hdigit (by decide)
  rcases hb with rfl | rfl
  · cases hactive : u.active <;> simp only [itemTag, hactive, List.mem_append, hkey] <;> decide
  · cases hactive : u.active <;> simp only [itemTag, hactive, List.mem_append, hkey] <;> decide

/-- The list item of a user as it is read from a page. -/
def entry (u : User) : Text × Text := (itemTag u, escapeHtml (label u))

/-- The tag of a user is a list item. -/
theorem tagName_itemTag (u : User) : tagName (itemTag u) = utf8 "li" := by
  rw [tagName, itemTag, List.append_assoc, List.append_assoc, List.append_assoc, List.takeWhile_append, if_neg (by decide)]
  decide

/-- An item is read back as its two tags, with the label after the first. -/
theorem tags_item (u : User) : tags (item u) = [entry u, (utf8 "/li", [])] := by
  have hclosing : utf8 "</li>" = byte '<' :: (utf8 "/li" ++ byte '>' :: []) := by decide
  rw [item_eq, hclosing, tags_append, tags_tag (notMem_itemTag (.inl rfl) u) (notMem_itemTag (.inr rfl) u)
    (notMem_escapeHtml (by decide) _), tags_tag (by decide) (by decide) (by decide)]
  rfl

/-- The item of a user has one list item, its own. -/
theorem renders_item (u : User) : Renders (item u) [entry u] := by
  refine ⟨.inr ⟨_, item_eq u⟩, fun rest => ?_⟩
  rw [tags_item, List.cons_append, List.cons_append, listItems, if_pos, listItems_cons (by decide)]
  · rfl
  · rw [entry, tagName_itemTag]
    rfl

/-- The items of users in a row have one list item each. -/
theorem renders_items (us : List User) : Renders (us.flatMap item) (us.map entry) := by
  rw [List.map_eq_flatMap]
  exact .flatMap renders_item us

/-- The section of a role has one list item for each of its users. -/
theorem renders_sectionOf (role : Role) (us : List User) : Renders (sectionOf role us) (us.map entry) := by
  have hopening : Renders (utf8 "<section id=\"role-" ++ role.name ++ utf8 "\"><h2>" ++ escapeHtml role.name ++
      utf8 "</h2><p>" ++ escapeHtml role.describe ++ utf8 "</p><ul>") [] := by
    cases role <;> exact .of_tags (by decide +kernel) (by decide +kernel)
  have hclosing : Renders (utf8 "</ul></section>") [] := .of_tags (by decide) (by decide +kernel)
  have hsection := (hopening.append (renders_items us)).append hclosing
  rwa [List.nil_append, List.append_nil] at hsection

/-- The sections have one list item for each user that is shown. -/
theorem renders_sections (g : Groups) : Renders (sections g) (g.shown.map entry) := by
  have hopening : Renders (utf8 "<div id=\"roster\">") [] := .of_tags (by decide) (by decide +kernel)
  have hnotice : Renders (if g.isEmpty then utf8 "<p class=\"empty\">No users yet.</p>" else []) [] := by
    split
    · exact .of_tags (by decide +kernel) (by decide +kernel)
    · exact .nil
  have hclosing : Renders (utf8 "</div>") [] := .of_tags (by decide) (by decide +kernel)
  have hshown : g.shown.map entry =
      [] ++ [] ++ (Role.all.flatMap fun role => ((g.get? role.name).getD []).map entry) ++ [] := by
    rw [Groups.shown, List.map_flatMap, List.append_nil, List.nil_append, List.nil_append]
  rw [hshown]
  refine ((hopening.append hnotice).append (.flatMap (fun role => ?_) Role.all)).append hclosing
  cases g.get? role.name with
  | none => exact .nil
  | some us => exact renders_sectionOf role us

/-- Before the sections there are neither list items nor sections. -/
theorem tagName_head (viewer : Text) : ∀ e ∈ tags (head viewer), tagName e.1 ≠ utf8 "li" ∧ tagName e.1 ≠ utf8 "section" := by
  obtain ⟨before, hbefore⟩ : ∃ t, t =
      utf8 "<!DOCTYPE html>\n<html lang=\"en\"><head><meta charset=\"utf-8\"><title>Roster</title>" ++
      utf8 "<script type=\"module\" src=\"" ++ script ++ utf8 "\"></script>" ++
      utf8 "</head><body data-signals=\"\x7bcount: 0, workers: 0\x7d\">" ++ utf8 "<header><h1>Roster</h1>" := ⟨_, rfl⟩
  obtain ⟨after, hafter⟩ : ∃ t, byte '<' :: t =
      utf8 "</p></header>" ++ utf8 "<button data-on-click=\"@get('/roster/stream')\">Refresh</button>" ++
      utf8 "<p>Counter: <span id=\"counter\" data-text=\"$count\">0</span>" ++
      utf8 " (<span data-text=\"$workers\">0</span> workers finished)</p>" := ⟨_, rfl⟩
  have hmiddle : utf8 "<header><h1>Roster</h1><p>Signed in as " =
      utf8 "<header><h1>Roster</h1>" ++ byte '<' :: (utf8 "p" ++ byte '>' :: utf8 "Signed in as ") := by decide +kernel
  have htext : byte '<' ∉ utf8 "Signed in as " ++ escapeHtml viewer := by
    rw [List.mem_append]
    exact not_or.2 ⟨by decide, notMem_escapeHtml (by decide) viewer⟩
  have hhead : head viewer =
      before ++ byte '<' :: (utf8 "p" ++ byte '>' :: (utf8 "Signed in as " ++ escapeHtml viewer)) ++ byte '<' :: after := by
    rw [hafter, hbefore, head, hmiddle]
    simp only [List.append_assoc, List.cons_append]
  rw [hhead, tags_append, tags_append, tags_tag (by decide) (by decide) htext, hafter, hbefore]
  simp only [List.forall_mem_append, List.forall_mem_singleton]
  refine ⟨⟨by decide +kernel, ?_⟩, by decide +kernel⟩
  show tagName (utf8 "p") ≠ utf8 "li" ∧ tagName (utf8 "p") ≠ utf8 "section"
  decide

/-- The head of a page has no list item, whatever the name of the viewer. -/
theorem renders_head (viewer : Text) : Renders (head viewer) [] :=
  .of_tags rfl fun e he => (tagName_head viewer e he).1

/-- The list items of a page are those of its sections. -/
theorem renders_page (viewer : Text) (g : Groups) : Renders (render viewer g) (g.shown.map entry) := by
  have htail : Renders tail [] := .of_tags (by decide) (by decide +kernel)
  have hpage := (renders_head viewer).append ((renders_sections g).append htail)
  rw [List.append_nil, List.nil_append] at hpage
  rw [render, pieces, List.flatten_cons, List.flatten_cons, List.flatten_singleton]
  exact hpage

/-! ## The markup of the page -/

/-- Name and email add no markup to an item. -/
theorem markup_item (u : User) : markup (item u) = markup (item u.anonymous) := by
  simp only [item, markup_append, markup_escapeHtml, User.anonymous]
  rfl

/-- Names and emails add no markup to a section. -/
theorem markup_sectionOf (role : Role) (us : List User) :
    markup (sectionOf role us) = markup (sectionOf role (us.map User.anonymous)) := by
  have hitems : markup (us.flatMap item) = markup ((us.map User.anonymous).flatMap item) := by
    rw [markup_flatMap, markup_flatMap, List.flatMap_map]
    exact List.flatMap_congr fun u _ => markup_item u
  simp only [sectionOf, markup_append, hitems]

/-- Names and emails add no markup to the sections. -/
theorem markup_sections (g : Groups) : markup (sections g) = markup (sections g.anonymous) := by
  have hempty : g.anonymous.isEmpty = g.isEmpty := List.isEmpty_map
  rw [sections, sections, hempty]
  simp only [markup_append, markup_flatMap]
  congr 2
  refine List.flatMap_congr fun role _ => ?_
  rw [Groups.get?_anonymous]
  cases g.get? role.name with
  | none => rfl
  | some us => exact markup_sectionOf role us

/-- The name of the viewer adds no markup to the head. -/
theorem markup_head (viewer : Text) : markup (head viewer) = markup (head []) := by
  simp only [head, markup_append, markup_escapeHtml]

/-- The markup of a page is that of the page for anonymous users. -/
theorem markup_page (viewer : Text) (g : Groups) : markup (render viewer g) = markup (render [] g.anonymous) := by
  simp only [render, pieces, List.flatten_cons, markup_append]
  rw [markup_head viewer, markup_sections g]

/-- What users are called cannot inject markup into a page or its sections. The markup is the same as without viewer, names and
emails, and the list items are those of the users that are shown, whose texts are read back as name and email. -/
theorem user_data_is_no_markup (viewer : Text) (g : Groups) :
    markup (render viewer g) = markup (render [] g.anonymous) ∧
    markup (sections g) = markup (sections g.anonymous) ∧
    (listItems (tags (render viewer g))).map (fun e => unescapeHtml e.2) = g.shown.map label ∧
    (listItems (tags (sections g))).map (fun e => unescapeHtml e.2) = g.shown.map label := by
  have hread : ((g.shown.map entry).map fun e => unescapeHtml e.2) = g.shown.map label := by
    rw [List.map_map]
    exact List.map_congr_left fun u _ => unescapeHtml_escapeHtml (label u)
  rw [(renders_page viewer g).listItems_tags, (renders_sections g).listItems_tags]
  exact ⟨markup_page viewer g, markup_sections g, hread, hread⟩

end Page

end Roster
