import Roster.Proofs.ClientOptions
import Roster.Proofs.HashSecrecy
import Roster.Proofs.Json
import Roster.Proofs.PageMarkup
import Roster.Proofs.Statuses

/-!
# Streams of events

A stream is read back as its client reads it: line by line, with lines that end at a line feed, at a carriage return or at both
together, and an event ending at a blank line (`EventStream.events`). Events are written with line feeds at the ends of their
lines, so a written event is read as it was if none of its texts has a line end of either kind. Carriage returns are not looked
for when a piece of the page is written: a piece that has one does not come back.

What the stream of the roster writes is one event with the sections of the page and then events for the count only. Whatever is
read of the first, the others come after it.
-/

namespace Roster

open Program

namespace Text

/-- Splitting at a byte is undone by joining with it. -/
theorem join_split (b : UInt8) (t : Text) : join [b] (split b t) = t := by
  induction t with
  | nil => rfl
  | cons a t ih =>
    obtain ⟨piece, rest, ht⟩ := exists_split b t
    rw [ht] at ih
    by_cases ha : a = b
    · rw [ha, split, if_pos (beq_self_eq_true b), ht]
      exact congrArg (List.cons b) ih
    · rw [split, if_neg (by simpa using ha), ht]
      show join [b] ((a :: piece) :: rest) = _
      rw [← ih]
      cases rest <;> rfl

/-- A byte of a joined text comes from between the pieces or from one of them. -/
theorem mem_join {sep : Text} {pieces : List Text} {x : UInt8} (h : x ∈ join sep pieces) :
    x ∈ sep ∨ ∃ piece ∈ pieces, x ∈ piece := by
  induction pieces with
  | nil => cases h
  | cons piece rest ih =>
    cases rest with
    | nil =>
      have hjoin : join sep [piece] = piece := List.append_nil piece
      rw [hjoin] at h
      exact .inr ⟨piece, List.mem_cons_self, h⟩
    | cons next rest =>
      have hjoin : join sep (piece :: next :: rest) = piece ++ (sep ++ join sep (next :: rest)) := rfl
      rw [hjoin, List.mem_append, List.mem_append] at h
      rcases h with h | h | h
      · exact .inr ⟨piece, List.mem_cons_self, h⟩
      · exact .inl h
      · refine (ih h).imp_right ?_
        rintro ⟨other, hother, hx⟩
        exact ⟨other, List.mem_cons_of_mem piece hother, hx⟩

/-- A piece of a text has bytes of that text, and not the one at which it is cut. -/
theorem of_mem_split {b : UInt8} {t piece : Text} (h : piece ∈ split b t) {x : UInt8} (hx : x ∈ piece) : x ≠ b ∧ x ∈ t := by
  induction t generalizing piece with
  | nil =>
    obtain rfl := List.mem_singleton.1 h
    cases hx
  | cons a t ih =>
    have hlater : ∀ piece' ∈ split b t, x ∈ piece' → x ≠ b ∧ x ∈ a :: t := fun _ h' hx' =>
      ⟨(ih h' hx').1, List.mem_cons_of_mem a (ih h' hx').2⟩
    obtain ⟨first, rest, ht⟩ := exists_split b t
    rw [split] at h
    by_cases ha : a = b
    · rw [if_pos (beq_iff_eq.2 ha)] at h
      rcases List.mem_cons.1 h with rfl | h
      · cases hx
      · exact hlater piece h hx
    · rw [if_neg (by simpa using ha), ht] at h
      rcases List.mem_cons.1 h with rfl | h
      · rcases List.mem_cons.1 hx with rfl | hx
        · exact ⟨ha, List.mem_cons_self⟩
        · exact hlater first (ht ▸ List.mem_cons_self) hx
      · exact hlater piece (ht ▸ List.mem_cons_of_mem first h) hx

/-! ## Lines -/

/-- A text with a line feed at the end of every line, where carriage returns end lines as well. -/
def lineFed : Text → Text
  | 13 :: 10 :: t => 10 :: lineFed t
  | 13 :: t => 10 :: lineFed t
  | b :: t => b :: lineFed t
  | [] => []

/-- The lines of a text, as far as they end. -/
def lines (t : Text) : List Text := (split 10 (lineFed t)).dropLast

/-- A carriage return that no line feed follows is a line end of its own. -/
theorem lineFed_return {t : Text} (h : ∀ rest, t ≠ 10 :: rest) : lineFed (13 :: t) = 10 :: lineFed t := by
  rw [lineFed]
  exact h

theorem lineFed_cons {b : UInt8} (hb : b ≠ 13) (t : Text) : lineFed (b :: t) = b :: lineFed t := by
  rw [lineFed]
  · rintro _ rfl
    exact absurd rfl hb
  · rintro rfl
    exact absurd rfl hb

/-- A text without carriage returns has its lines ended already. -/
theorem lineFed_of_notMem {t : Text} (h : 13 ∉ t) : lineFed t = t := by
  induction t with
  | nil => rfl
  | cons b t ih =>
    obtain ⟨hb, ht⟩ := not_or.1 (mt List.mem_cons.2 h)
    rw [lineFed_cons (Ne.symm hb), ih ht]

/-- No carriage return is left. -/
theorem return_notMem_lineFed (t : Text) : 13 ∉ lineFed t := by
  fun_induction lineFed t with
  | case1 t ih => exact List.not_mem_cons_of_ne_of_not_mem (by decide) ih
  | case2 t _ ih => exact List.not_mem_cons_of_ne_of_not_mem (by decide) ih
  | case3 b t _ hb ih => exact List.not_mem_cons_of_ne_of_not_mem (fun h => hb h.symm) ih
  | case4 => exact List.not_mem_nil

/-- A line feed ends what stands before it, also where that ends with a carriage return. -/
theorem lineFed_append (t : Text) : ∃ fed, ∀ rest, lineFed (t ++ 10 :: rest) = fed ++ 10 :: lineFed rest := by
  fun_induction lineFed t with
  | case1 t ih =>
    obtain ⟨fed, hfed⟩ := ih
    exact ⟨10 :: fed, fun rest => congrArg (List.cons 10) (hfed rest)⟩
  | case2 t hfeed ih =>
    cases t with
    | nil => exact ⟨[], fun rest => rfl⟩
    | cons b t =>
      obtain ⟨fed, hfed⟩ := ih
      refine ⟨10 :: fed, fun rest => ?_⟩
      have hb : ∀ rest', (b :: t) ++ 10 :: rest ≠ 10 :: rest' := by
        rintro rest' heq
        obtain ⟨rfl, -⟩ := List.cons.inj heq
        exact hfeed t rfl
      exact (lineFed_return hb).trans (congrArg (List.cons 10) (hfed rest))
  | case3 b t _ hb ih =>
    obtain ⟨fed, hfed⟩ := ih
    exact ⟨b :: fed, fun rest => (lineFed_cons hb _).trans (congrArg (List.cons b) (hfed rest))⟩
  | case4 => exact ⟨[], fun rest => rfl⟩

/-- The lines before a line feed, and those after it. -/
theorem lines_append (t rest : Text) : lines (t ++ 10 :: rest) = lines (t ++ [10]) ++ lines rest := by
  obtain ⟨fed, hfed⟩ := lineFed_append t
  have hlines : ∀ rest, lines (t ++ 10 :: rest) = split 10 fed ++ lines rest := by
    intro rest
    obtain ⟨piece, pieces, hrest⟩ := exists_split 10 (lineFed rest)
    rw [lines, lines, hfed, split_append_cons, List.dropLast_append_of_ne_nil]
    rw [hrest]
    exact List.cons_ne_nil _ _
  rw [hlines rest, hlines [], show lines [] = [] from rfl, List.append_nil]

/-- A text without an end of a line is one line. -/
theorem lines_of_line {t : Text} (hfeed : 10 ∉ t) (hreturn : 13 ∉ t) (rest : Text) :
    lines (t ++ 10 :: rest) = t :: lines rest := by
  have hfed : lineFed (t ++ [10]) = t ++ [10] := by
    refine lineFed_of_notMem ?_
    rw [List.mem_append]
    exact not_or.2 ⟨hreturn, by decide⟩
  have hline : lines (t ++ [10]) = [t] := by
    rw [lines, hfed, split_append hfeed]
    rfl
  rw [lines_append, hline]
  rfl

theorem return_notMem_lines {t line : Text} (h : line ∈ lines t) : 13 ∉ line := fun hmem =>
  return_notMem_lineFed t (of_mem_split ((List.dropLast_sublist _).subset h) hmem).2

end Text

/-! ## Events -/

/-- An event of a stream: its name and the lines of its data. -/
structure StreamEvent where
  name : Text := []
  data : List Text := []

namespace StreamEvent

/-- An event as it is written. -/
def written (e : StreamEvent) : Text :=
  utf8 "event: " ++ e.name ++ [10] ++ (e.data.flatMap fun l => utf8 "data: " ++ l ++ [10]) ++ [10, 10]

/-- An event with data whose texts have no ends of lines. -/
structure Lined (e : StreamEvent) : Prop where
  name : 10 ∉ e.name ∧ 13 ∉ e.name
  data : ∀ l ∈ e.data, 10 ∉ l ∧ 13 ∉ l
  nonempty : e.data ≠ []

/-- The event that puts a piece into a page. -/
def elements (html : Text) : StreamEvent :=
  { name := "datastar-patch-elements", data := (Text.split 10 html).map (utf8 "elements " ++ ·) }

/-- The event that tells the state of a count. -/
def signals (count workers : Nat) : StreamEvent :=
  { name := "datastar-patch-signals"
    data := [utf8 "signals " ++ (Json.object [("count", .nat count), ("workers", .nat workers)]).render] }

/-- The piece that an event puts into a page, if it is one of those. -/
def patch? (e : StreamEvent) : Option Text :=
  if e.name == utf8 "datastar-patch-elements" then
    some (Text.join [10] (e.data.filterMap (Text.strip? (utf8 "elements "))))
  else none

theorem patch?_elements (html : Text) : (elements html).patch? = some html := by
  have hlines : ((Text.split 10 html).map (utf8 "elements " ++ ·)).filterMap (Text.strip? (utf8 "elements ")) =
      Text.split 10 html := by
    rw [List.filterMap_map]
    refine Eq.trans (List.filterMap_congr fun l _ => ?_) List.filterMap_some
    exact Text.strip?_append _ l
  rw [patch?, elements, if_pos (beq_self_eq_true _), hlines, Text.join_split]

theorem patch?_signals (count workers : Nat) : (signals count workers).patch? = none := by
  have hname : ((signals count workers).name == utf8 "datastar-patch-elements") = false := by
    show (utf8 "datastar-patch-signals" == utf8 "datastar-patch-elements") = false
    decide
  rw [patch?, hname, if_neg Bool.false_ne_true]

/-- A piece has no carriage return if the data it is put together from have none. -/
theorem return_notMem_patch {e : StreamEvent} (h : ∀ l ∈ e.data, 13 ∉ l) {html : Text} (hpatch : e.patch? = some html) :
    13 ∉ html := by
  intro hmem
  rw [patch?] at hpatch
  split at hpatch
  · obtain rfl := Option.some.inj hpatch
    rcases Text.mem_join hmem with hfeed | ⟨piece, hpiece, hmem⟩
    · exact absurd hfeed (by decide)
    · obtain ⟨l, hl, hstrip⟩ := List.mem_filterMap.1 hpiece
      refine h l hl ?_
      rw [Text.eq_of_strip? hstrip]
      exact List.mem_append_right _ hmem
  · cases hpatch

/-- A piece of the page without carriage returns is sent in lines. -/
theorem lined_elements {html : Text} (h : 13 ∉ html) : (elements html).Lined := by
  refine ⟨?_, fun l hl => ?_, ?_⟩
  · show 10 ∉ utf8 "datastar-patch-elements" ∧ 13 ∉ utf8 "datastar-patch-elements"
    decide
  · obtain ⟨piece, hpiece, rfl⟩ := List.mem_map.1 hl
    rw [List.mem_append, List.mem_append]
    exact ⟨not_or.2 ⟨by decide, fun hmem => (Text.of_mem_split hpiece hmem).1 rfl⟩,
      not_or.2 ⟨by decide, fun hmem => h (Text.of_mem_split hpiece hmem).2⟩⟩
  · obtain ⟨piece, rest, hsplit⟩ := Text.exists_split 10 html
    rw [elements, hsplit]
    exact List.cons_ne_nil _ _

/-- The state of a count holds digits and fixed texts only. -/
theorem notMem_signals {b : UInt8} (hb : b = 10 ∨ b = 13) (count workers : Nat) :
    ∀ l ∈ (signals count workers).data, b ∉ l := by
  have hdecimal : ∀ n, b ∉ Text.decimal n := by
    intro n hmem
    have hdigit := List.all_eq_true.1 (Text.all_isDigit_decimal n) b hmem
    rcases hb with rfl | rfl
    · exact absurd hdigit (by decide)
    · exact absurd hdigit (by decide)
  have hrender : (Json.object [("count", .nat count), ("workers", .nat workers)]).render =
      utf8 "\x7b\"count\":" ++ Text.decimal count ++ utf8 ",\"workers\":" ++ Text.decimal workers ++ utf8 "\x7d" := by
    have hobject : ∀ ms, (Json.object ms).render = Text.byte '\x7b' :: Json.renderMembers ms ++ [Text.byte '\x7d'] :=
      fun _ => rfl
    have hnat : ∀ n, (Json.nat n).render = Text.decimal n := fun _ => rfl
    have hcount : Json.renderText (utf8 "count") = utf8 "\"count\"" := by decide +kernel
    have hworkers : Json.renderText (utf8 "workers") = utf8 "\"workers\"" := by decide +kernel
    rw [hobject, Json.renderMembers_cons, Json.renderMembers_single, hnat, hnat, hcount, hworkers]
    simp only [List.append_assoc, List.cons_append]
    rfl
  intro l hl
  obtain rfl := List.mem_singleton.1 hl
  rw [hrender]
  simp only [List.mem_append, hdecimal, or_false]
  rcases hb with rfl | rfl <;> decide

theorem lined_signals (count workers : Nat) : (signals count workers).Lined := by
  refine ⟨?_, fun l hl => ?_, List.cons_ne_nil _ _⟩
  · show 10 ∉ utf8 "datastar-patch-signals" ∧ 13 ∉ utf8 "datastar-patch-signals"
    decide
  · exact ⟨notMem_signals (.inl rfl) count workers l hl, notMem_signals (.inr rfl) count workers l hl⟩

end StreamEvent

/-! ## Reading a stream -/

namespace EventStream

/-- The name of the field that a line sets, and its value: what stands before the first colon and after it, without a space at
the start. -/
def field (line : Text) : Text × Text :=
  match Text.cut? (Text.byte ':') line with
  | some (name, value) => (name, (Text.strip? (utf8 " ") value).getD value)
  | none => (line, [])

/-- The events of lines, one being under way. A blank line ends it; without data it is dropped, and so is one that does not
end. Fields other than the name and the data have no part in it. -/
def read (e : StreamEvent) : List Text → List StreamEvent
  | [] => []
  | line :: rest =>
    if line.isEmpty then if e.data.isEmpty then read {} rest else e :: read {} rest
    else if (field line).1 == utf8 "event" then read { e with name := (field line).2 } rest
    else if (field line).1 == utf8 "data" then read { e with data := e.data ++ [(field line).2] } rest
    else read e rest

/-- The events of a stream. -/
def events (t : Text) : List StreamEvent := read {} t.lines

/-- The pieces that a stream puts into the page. -/
def patches (t : Text) : List Text := (events t).filterMap StreamEvent.patch?

theorem read_blank (e : StreamEvent) (rest : List Text) :
    read e ([] :: rest) = if e.data.isEmpty then read {} rest else e :: read {} rest := rfl

theorem read_name (e : StreamEvent) (name : Text) (rest : List Text) :
    read e ((utf8 "event: " ++ name) :: rest) = read { e with name } rest := rfl

theorem read_data (e : StreamEvent) (ls rest : List Text) :
    read e (ls.map (utf8 "data: " ++ ·) ++ rest) = read { e with data := e.data ++ ls } rest := by
  induction ls generalizing e with
  | nil => rw [List.append_nil, List.map_nil, List.nil_append]
  | cons l ls ih =>
    have hread : read e ((utf8 "data: " ++ l) :: (ls.map (utf8 "data: " ++ ·) ++ rest)) =
        read { e with data := e.data ++ [l] } (ls.map (utf8 "data: " ++ ·) ++ rest) := rfl
    rw [List.map_cons, List.cons_append, hread, ih, List.append_assoc, List.singleton_append]

/-- At a blank line reading begins anew. -/
theorem read_append (e : StreamEvent) (before rest : List Text) :
    read e (before ++ [] :: rest) = read e (before ++ [[]]) ++ read {} rest := by
  induction before generalizing e with
  | nil =>
    rw [List.nil_append, List.nil_append, read_blank, read_blank]
    split <;> rfl
  | cons line before ih =>
    rw [List.cons_append, List.cons_append, read, read]
    split
    · split
      · exact ih {}
      · exact congrArg (List.cons e) (ih {})
    · split
      · exact ih _
      · split <;> exact ih _

/-- The value of a field has bytes of its line. -/
theorem mem_field {line : Text} {x : UInt8} (h : x ∈ (field line).2) : x ∈ line := by
  unfold field at h
  cases hcut : Text.cut? (Text.byte ':') line with
  | none =>
    rw [hcut] at h
    cases h
  | some parts =>
    obtain ⟨name, value⟩ := parts
    rw [hcut] at h
    have hvalue : x ∈ value := by
      cases hstrip : Text.strip? (utf8 " ") value with
      | none => simpa only [hstrip, Option.getD_none] using h
      | some tail =>
        rw [Text.eq_of_strip? hstrip]
        simp only [hstrip, Option.getD_some] at h
        exact List.mem_append_right _ h
    rw [Text.eq_of_cut? hcut]
    exact List.mem_append_right _ (List.mem_cons_of_mem _ hvalue)

/-- Data that are read have no carriage returns if the lines have none. -/
theorem return_notMem_read {ls : List Text} (hls : ∀ l ∈ ls, 13 ∉ l) {e : StreamEvent} (he : ∀ l ∈ e.data, 13 ∉ l) :
    ∀ e' ∈ read e ls, ∀ l ∈ e'.data, 13 ∉ l := by
  induction ls generalizing e with
  | nil =>
    intro e' he'
    cases he'
  | cons line rest ih =>
    obtain ⟨hline, hrest⟩ := List.forall_mem_cons.1 hls
    have hvalue : 13 ∉ (field line).2 := fun hmem => hline (mem_field hmem)
    have hfresh : ∀ l ∈ ({} : StreamEvent).data, 13 ∉ l := fun l hl => absurd hl List.not_mem_nil
    rw [read]
    split
    · split
      · exact ih hrest hfresh
      · rw [List.forall_mem_cons]
        exact ⟨he, ih hrest hfresh⟩
    · split
      · exact ih hrest he
      · split
        · refine ih hrest fun l hl => ?_
          rcases List.mem_append.1 hl with hl | hl
          · exact he l hl
          · rw [List.mem_singleton.1 hl]
            exact hvalue
        · exact ih hrest he

/-- No piece that is read from a stream has a carriage return. -/
theorem return_notMem_patches {t html : Text} (h : html ∈ patches t) : 13 ∉ html := by
  obtain ⟨e, he, hpatch⟩ := List.mem_filterMap.1 h
  have hlines : ∀ l ∈ t.lines, 13 ∉ l := fun l hl => Text.return_notMem_lines hl
  exact StreamEvent.return_notMem_patch (return_notMem_read hlines (fun l hl => absurd hl List.not_mem_nil) e he) hpatch

/-- Whatever is read of a written event, what follows it is read as it would be without it. -/
theorem events_written_append (e : StreamEvent) (t : Text) : events (e.written ++ t) = events e.written ++ events t := by
  have hlines : ∀ t, (e.written ++ t).lines = Text.lines
      (utf8 "event: " ++ e.name ++ [10] ++ (e.data.flatMap fun l => utf8 "data: " ++ l ++ [10]) ++ [10]) ++ [] :: t.lines := by
    intro t
    rw [StreamEvent.written, List.append_assoc, List.cons_append, List.singleton_append, Text.lines_append]
    exact congrArg (_ ++ ·) (Text.lines_of_line List.not_mem_nil List.not_mem_nil t)
  have hwritten := hlines []
  rw [List.append_nil] at hwritten
  rw [events, events, events, hlines, hwritten, read_append]
  rfl

/-- The lines of a written event. -/
theorem lines_written {e : StreamEvent} (h : e.Lined) :
    e.written.lines = (utf8 "event: " ++ e.name) :: (e.data.map (utf8 "data: " ++ ·) ++ [[], []]) := by
  have hend : ∀ {b : UInt8}, b = 10 ∨ b = 13 → b ∉ utf8 "event: " ∧ b ∉ utf8 "data: " := by
    rintro b (rfl | rfl) <;> decide
  have hdata : ∀ (ls : List Text) (t : Text), (∀ l ∈ ls, 10 ∉ l ∧ 13 ∉ l) →
      Text.lines ((ls.flatMap fun l => utf8 "data: " ++ l ++ [10]) ++ t) = ls.map (utf8 "data: " ++ ·) ++ t.lines := by
    intro ls t hls
    induction ls with
    | nil => rfl
    | cons l ls ih =>
      obtain ⟨hl, hls⟩ := List.forall_mem_cons.1 hls
      have htext : ((l :: ls).flatMap fun l => utf8 "data: " ++ l ++ [10]) ++ t =
          (utf8 "data: " ++ l) ++ 10 :: ((ls.flatMap fun l => utf8 "data: " ++ l ++ [10]) ++ t) := by
        rw [List.flatMap_cons]
        simp only [List.append_assoc, List.cons_append, List.nil_append]
      rw [htext, Text.lines_of_line, ih hls]
      · rfl
      · rw [List.mem_append]
        exact not_or.2 ⟨(hend (.inl rfl)).2, hl.1⟩
      · rw [List.mem_append]
        exact not_or.2 ⟨(hend (.inr rfl)).2, hl.2⟩
  have htext : e.written =
      (utf8 "event: " ++ e.name) ++ 10 :: ((e.data.flatMap fun l => utf8 "data: " ++ l ++ [10]) ++ [10, 10]) := by
    rw [StreamEvent.written]
    simp only [List.append_assoc, List.cons_append, List.nil_append]
  rw [htext, Text.lines_of_line, hdata e.data _ h.data]
  · rfl
  · rw [List.mem_append]
    exact not_or.2 ⟨(hend (.inl rfl)).1, h.name.1⟩
  · rw [List.mem_append]
    exact not_or.2 ⟨(hend (.inr rfl)).1, h.name.2⟩

/-- An event whose texts have no ends of lines is read back as it was. -/
theorem events_written {e : StreamEvent} (h : e.Lined) : events e.written = [e] := by
  have hdata : (([] : List Text) ++ e.data).isEmpty = false := by
    rw [List.nil_append, List.isEmpty_eq_false_iff]
    exact h.nonempty
  rw [events, lines_written h, read_name, read_data, read_blank, if_neg (by rw [hdata]; exact Bool.false_ne_true)]
  rfl

/-- A stream that puts a piece into the page and then tells about a count. -/
def patching (html : Text) (counts : List (Nat × Nat)) : Text :=
  (StreamEvent.elements html :: counts.map fun c => StreamEvent.signals c.1 c.2).flatMap StreamEvent.written

variable (html : Text) (counts : List (Nat × Nat))

/-- Whatever is read of the piece, what is told about the count is read as it was written. -/
theorem events_patching : events (patching html counts) =
    events (StreamEvent.elements html).written ++ counts.map fun c => StreamEvent.signals c.1 c.2 := by
  have hcounts : events ((counts.map fun c => StreamEvent.signals c.1 c.2).flatMap StreamEvent.written) =
      counts.map fun c => StreamEvent.signals c.1 c.2 := by
    induction counts with
    | nil => rfl
    | cons c counts ih =>
      rw [List.map_cons, List.flatMap_cons, events_written_append, events_written (StreamEvent.lined_signals c.1 c.2), ih]
      rfl
  rw [patching, List.flatMap_cons, events_written_append, hcounts]

/-- Only the event with the piece puts anything into the page. -/
theorem patches_patching : patches (patching html counts) = patches (StreamEvent.elements html).written := by
  have hsignals : (counts.map fun c => StreamEvent.signals c.1 c.2).filterMap StreamEvent.patch? = [] := by
    rw [List.filterMap_eq_nil_iff, List.forall_mem_map]
    exact fun c _ => StreamEvent.patch?_signals c.1 c.2
  rw [patches, events_patching, List.filterMap_append, hsignals, List.append_nil]
  rfl

/-- The piece is read from such a stream, and no other, exactly if it has no carriage return. -/
theorem patches_patching_iff : patches (patching html counts) = [html] ↔ 13 ∉ html := by
  constructor
  · intro h
    exact return_notMem_patches (h ▸ List.mem_singleton_self html)
  · intro h
    rw [patches_patching, patches, events_written (StreamEvent.lined_elements h),
      List.filterMap_cons_some (StreamEvent.patch?_elements html), List.filterMap_nil]

end EventStream

/-! ## What a program writes -/

/-- A call that writes nothing to the body but pieces of a kind. -/
def Call.Emits (P : Text → Prop) (c : Call) : Prop := ∀ piece, c = .write piece → P piece

/-- A call that writes nothing to the body. -/
def Call.Silent (c : Call) : Prop := ∀ piece, c ≠ .write piece

namespace World

/-- What concerns the client: whether it has given up, until when it waits, how much it takes and what it has been sent. -/
def client (w : World) : Bool × Option Instant × Option Nat × List Text := (w.canceled, w.deadline, w.writesLeft, w.pieces)

/-- Only writing changes any of that. -/
theorem answer_client {c : Call} (h : c.Silent) (w : World) : (answer c w).2.client = w.client := by
  cases c with
  | findById _ | findByEmail _ | save _ | delete _ | findAll =>
    refine onStore_keeps World.client ?_
    split <;> rfl
  | cacheGet _ | cacheSet _ _ | cacheRemove _ => exact onCache_keeps World.client fun _ => rfl
  | wait d => exact wait_keeps World.client (fun _ _ => rfl) w d
  | write piece => exact absurd rfl (h piece)
  | mayTry client => exact mayTry_keeps World.client (fun _ _ => rfl) w client
  | _ => rfl

/-- A program adds to the body pieces of the kind that it writes. -/
theorem pieces_run {α : Type} {P : Text → Prop} {p : Act α} (hp : Only (Call.Emits P) p) (w : World) :
    ∃ new, (w.run p).2.pieces = new ++ w.pieces ∧ ∀ piece ∈ new, P piece := by
  refine hp.run_keeps (K := fun v : World => ∃ new, v.pieces = new ++ w.pieces ∧ ∀ piece ∈ new, P piece) ?_ ⟨[], rfl, nofun⟩
  rintro c v hc ⟨new, hnew, hkind⟩
  by_cases hwrite : ∃ piece, c = .write piece
  · obtain ⟨piece, rfl⟩ := hwrite
    show ∃ new, (v.write piece).2.pieces = new ++ w.pieces ∧ ∀ piece ∈ new, P piece
    unfold write
    split
    · exact ⟨new, hnew, hkind⟩
    · refine ⟨piece :: new, congrArg (List.cons piece) hnew, fun t ht => ?_⟩
      rcases List.mem_cons.1 ht with rfl | ht
      · exact hc t rfl
      · exact hkind t ht
  · have hsame : (answer c v).2.pieces = v.pieces :=
      congrArg (fun x => x.2.2.2) (answer_client (fun piece h => hwrite ⟨piece, h⟩) v)
    rw [hsame]
    exact ⟨new, hnew, hkind⟩

/-- A piece is written whose number is not limited. -/
theorem answer_write {w : World} (h : w.writesLeft = none) (piece : Text) :
    answer (.write piece) w = (.ok (), { w with pieces := piece :: w.pieces }) := by
  have hleft : { w with writesLeft := none, pieces := piece :: w.pieces } = { w with pieces := piece :: w.pieces } := by
    rw [← h]
  rw [← hleft]
  simp only [answer, write, h]
  rfl

end World

/-! ## The stream of the roster -/

namespace Http

/-- Events for a count, as they are written. -/
def tells (t : Text) : Prop := ∃ count workers, t = (StreamEvent.signals count workers).written

theorem patchCount_emits (count workers : Nat) : Only (Call.Emits tells) (patchCount count workers) := by
  refine Only.bind ⟨nofun, fun r => ?_⟩ fun _ => trivial
  cases r with
  | error f => trivial
  | ok _ =>
    refine ⟨?_, fun r => ?_⟩
    · rintro piece ⟨⟩
      exact ⟨count, workers, rfl⟩
    · cases r <;> trivial

theorem noteUnsent_emits (P : Text → Prop) (activity : Text) (r : Except Fault Unit) :
    Only (Call.Emits P) (noteUnsent activity r) := by
  cases r with
  | ok _ => trivial
  | error f => exact ⟨nofun, fun _ => trivial⟩

theorem event_eq (e : StreamEvent) :
    event e.name e.data = .call .patience fun
      | .error f => .done (.error f)
      | .ok _ => .call (.write e.written) fun
        | .ok _ => .done (.ok ())
        | .error f => .done (.error (.during "failed to write to response writer" f)) := by
  refine congrArg (Program.call _) (funext fun r => ?_)
  cases r with
  | error f => rfl
  | ok _ =>
    refine congrArg (Program.call _) (funext fun r => ?_)
    cases r <;> rfl

/-- An event is sent to a client that waits for it. -/
theorem run_event {w : World} (hpatience : w.patience = .ok ()) (hwrites : w.writesLeft = none) (e : StreamEvent) :
    w.run (event e.name e.data) = (.ok (), { w with pieces := e.written :: w.pieces }) := by
  have hasked : World.answer .patience w = (.ok (), w) := congrArg (·, w) hpatience
  rw [World.run, event_eq, run_call, hasked]
  dsimp only
  rw [run_call, World.answer_write hwrites]
  rfl

/-- So is a piece of the page. -/
theorem run_patchElements {w : World} (hpatience : w.patience = .ok ()) (hwrites : w.writesLeft = none) (html : Text) :
    w.run (patchElements html) = (.ok (), { w with pieces := (StreamEvent.elements html).written :: w.pieces }) := by
  have hevent := run_event hpatience hwrites (StreamEvent.elements html)
  unfold World.run patchElements at *
  rw [Program.bind_eq, run_bind]
  exact congrArg (fun x : Except Fault Unit × World => (x.1.mapError _, x.2)) hevent

/-- Counts for a stream: tells about every report and about the end. -/
def tellCount (job : Nat × Nat) (delay : Span) : Act Unit := do
  let count ← Counter.count job.1 job.2 delay fun r => do
    noteUnsent "patch counter progress" (← patchCount r.total r.finished)
  noteUnsent "patch counter result" (← patchCount count job.1)

/-- Telling a count sends signals only. -/
theorem tellCount_emits (job : Nat × Nat) (delay : Span) : Only (Call.Emits tells) (tellCount job delay) := by
  refine (Counter.count_only (fun _ => nofun) _ _ _ fun r => ?_).bind fun count => ?_
  · exact (patchCount_emits _ _).bind fun _ => noteUnsent_emits _ _ _
  · exact (patchCount_emits _ _).bind fun _ => noteUnsent_emits _ _ _

/-- Once the sections have been sent, the stream counts. -/
theorem run_showStream {w : World} (hpatience : w.patience = .ok ()) (hwrites : w.writesLeft = none) (job : Nat × Nat)
    (delay : Span) (g : Groups) :
    (w.run (showStream job delay (.ok g))).1.status = 200 ∧
    (w.run (showStream job delay (.ok g))).2 =
      (World.run { w with pieces := (StreamEvent.elements (Page.sections g)).written :: w.pieces }
        (tellCount job delay)).2 := by
  have hsent := run_patchElements hpatience hwrites (Page.sections g)
  unfold World.run at hsent ⊢
  rw [showStream, Program.bind_eq, run_bind, hsent, tellCount]
  simp only [Program.bind_eq, run_bind]
  exact ⟨rfl, rfl⟩

/-- Texts that tell a count are written signals. -/
theorem exists_signals {ts : List Text} (h : ∀ t ∈ ts, tells t) :
    ∃ counts : List (Nat × Nat), ts = counts.map fun c => (StreamEvent.signals c.1 c.2).written := by
  induction ts with
  | nil => exact ⟨[], rfl⟩
  | cons t ts ih =>
    obtain ⟨count, workers, rfl⟩ := h t List.mem_cons_self
    obtain ⟨counts, rfl⟩ := ih fun t' ht' => h t' (List.mem_cons_of_mem _ ht')
    exact ⟨(count, workers) :: counts, rfl⟩

/-- The body of the stream: an event with the sections of the page, and events for the count. -/
theorem body_showStream {w : World} (hpatience : w.patience = .ok ()) (hwrites : w.writesLeft = none) (hpieces : w.pieces = [])
    (job : Nat × Nat) (delay : Span) (g : Groups) :
    ∃ counts : List (Nat × Nat), (w.run (showStream job delay (.ok g))).2.body =
      EventStream.patching (Page.sections g) counts := by
  obtain ⟨-, hworld⟩ := run_showStream hpatience hwrites job delay g
  obtain ⟨new, hnew, hkind⟩ := World.pieces_run (tellCount_emits job delay)
    { w with pieces := (StreamEvent.elements (Page.sections g)).written :: w.pieces }
  obtain ⟨counts, hcounts⟩ := exists_signals fun t ht => hkind t (List.mem_reverse.1 ht)
  refine ⟨counts, ?_⟩
  rw [World.body, hworld, hnew, hpieces, List.reverse_append, hcounts, EventStream.patching, List.flatMap_cons,
    List.flatMap_map]
  rfl

end Http

end Roster
