import Roster.Text.Rune
import Roster.Yaml.Piece

/-!
# Places in a YAML text

A cursor stands at a place of a text and moves forward only. It counts characters, lines and columns, all
from zero. Line ends are of several kinds; a carriage return and a line feed together are one.

The text is decoded as far as the cursor has looked. Whoever wants to look at characters says first how
many it needs; that is when a flaw of the text comes to light.
-/

namespace Roster.Yaml

/-- A place in a text. -/
structure Mark where
  index : Nat := 0
  line : Nat := 0
  column : Nat := 0
deriving Repr, DecidableEq, Inhabited

/-- Why a text is not YAML. The line is shown unless it is zero. -/
structure ReadError where
  problem : Text
  line : Nat := 0
deriving Repr, DecidableEq

/-- The message of a refused text. -/
def ReadError.message (e : ReadError) : Text :=
  utf8 "yaml: " ++ (if e.line == 0 then [] else utf8 "line " ++ Text.decimal e.line ++ utf8 ": ") ++ e.problem

/-- The line that an error shows: that of the construct it was met in, or else that of the place where it
was met. The first line is never shown. -/
def shownLine (start place : Mark) : Nat := if start.line != 0 then start.line else place.line

/-- Whether a character ends a line. -/
def isBreak (c : Char) : Bool :=
  c == '\n' || c == '\r' || c.toNat == 0x85 || c.toNat == 0x2028 || c.toNat == 0x2029

/-- A space or a tab. -/
def isBlank (c : Char) : Bool := c == ' ' || c == '\t'

/-- Whether nothing but a blank, a line end or the end of the text stands at a place. -/
def isVoid : Option Char → Bool
  | some c => isBlank c || isBreak c
  | none => true

/-- Whether characters start with a mark between documents. -/
def startsDocumentMark : List Char → Bool
  | '-' :: '-' :: '-' :: rest => isVoid rest.head?
  | '.' :: '.' :: '.' :: rest => isVoid rest.head?
  | _ => false

/-- What is left of a text, and the place where that starts. -/
structure Cursor where
  /-- Characters that have been decoded. -/
  ready : List Char := []
  /-- How many these are. -/
  count : Nat := 0
  /-- Pieces that have not been decoded. -/
  pieces : List Piece
  /-- What is wrong with the text after the decoded characters. -/
  problem : Option Text := none
  /-- A flaw that was met while looking ahead only. -/
  refused : Option Text := none
  /-- Whether the decoded characters began with a byte order mark when the last piece was decoded. -/
  marked : Bool := false
  mark : Mark := {}
  /-- Line ends since the last character that was no blank. -/
  newlines : Nat := 0
  /-- A bound for the number of moves that are left. -/
  size : Nat
deriving Repr

namespace Cursor

/-- A cursor at the start of a text. -/
def start (t : Text) : Cursor := { pieces := Piece.all t, size := t.length + 2 }

/-- Decodes pieces until a number of characters is ready, as far as the text goes. -/
def fill (n : Nat) : List Piece → Cursor → Cursor
  | [], c => { c with pieces := [] }
  | p :: rest, c =>
    let c := { c with
      ready := c.ready ++ p.chars
      count := c.count + p.chars.length
      pieces := rest
      problem := p.problem }
    if p.problem.isSome || n ≤ c.count then c else fill n rest c

/-- Looks ahead over a number of characters, as far as the text goes. The answer is also the flaw that comes
to light when a piece has to be decoded for that. -/
def reach (c : Cursor) (n : Nat) : Option Text × Cursor :=
  if n ≤ c.count then (none, c)
  else if c.problem.isSome then (c.problem, c)
  else
    let c := fill n c.pieces c
    (c.problem, { c with marked := c.ready.head? == some (Char.ofNat 0xFEFF) })

/-- Looks ahead over a number of characters; past the end of the text there is nothing to see. -/
def need (c : Cursor) (n : Nat) : Except ReadError Cursor :=
  match c.reach n with
  | (some problem, _) => .error { problem }
  | (none, c) => .ok c

/-- The character at the cursor. -/
def head? (c : Cursor) : Option Char := c.ready.head?

/-- The character after the one at the cursor. -/
def second? (c : Cursor) : Option Char := c.ready.tail.head?

/-- Moves over a character of the same line. -/
def step (c : Cursor) : Cursor :=
  match c.ready with
  | [] => c
  | ch :: rest =>
    { c with
      ready := rest
      count := c.count - 1
      mark := { c.mark with index := c.mark.index + 1, column := c.mark.column + 1 }
      newlines := if isBlank ch then c.newlines else 0 }

/-- Moves over characters of the same line. -/
def skip (c : Cursor) : Nat → Cursor
  | 0 => c
  | n + 1 => c.step.skip n

/-- Moves to the next line, given how many characters the line end has. -/
def newline (c : Cursor) (n : Nat) : Cursor :=
  { c with
    ready := c.ready.drop n
    count := c.count - n
    mark := { index := c.mark.index + n, line := c.mark.line + 1, column := 0 }
    newlines := c.newlines + 1 }

/-- Moves over a line end; the answer is what it means in a text. -/
def takeBreak (c : Cursor) : List Char × Cursor :=
  match c.ready with
  | '\r' :: '\n' :: _ => (['\n'], c.newline 2)
  | b :: _ =>
    if b.toNat == 0x2028 || b.toNat == 0x2029 then ([b], c.newline 1)
    else if isBreak b then (['\n'], c.newline 1)
    else ([], c)
  | [] => ([], c)

/-- Whether the cursor stands at the end of a line. -/
def atBreak (c : Cursor) : Bool := c.head?.any isBreak

/-- Whether the cursor stands at a blank. -/
def atBlank (c : Cursor) : Bool := c.head?.any isBlank

/-- Whether the cursor stands at the end of a line or of the text. -/
def atEnd (c : Cursor) : Bool := c.head?.all isBreak

/-- Whether the cursor stands at a mark between documents. -/
def atDocumentMark (c : Cursor) : Bool := c.mark.column == 0 && startsDocumentMark c.ready

/-- An error met at the cursor, in a construct that started at a mark. -/
def error {α : Type} (c : Cursor) (start : Mark) (problem : Text) : Except ReadError α :=
  let line := shownLine start c.mark
  .error { problem, line := if line == 0 then 0 else line + 1 }

/-- Moves over a line end, looking past it first. -/
def passBreak (c : Cursor) : Except ReadError (List Char × Cursor) := do
  let c ← c.need 2
  pure c.takeBreak

/-- Takes characters of a class, none of which ends a line, one after the other; `acc` holds those taken
before, the last one first. -/
def takeOver (p : Char → Bool) : Nat → List Char → Cursor → Except ReadError (List Char × Cursor)
  | 0, acc, c => .ok (acc.reverse, c)
  | fuel + 1, acc, c => do
    let c ← c.need 1
    match c.head? with
    | some ch => if p ch then takeOver p fuel (ch :: acc) c.step else pure (acc.reverse, c)
    | none => pure (acc.reverse, c)

/-- Takes the characters of a class at the cursor. -/
def takeAll (c : Cursor) (p : Char → Bool) : Except ReadError (List Char × Cursor) := takeOver p c.size [] c

/-- Moves over the characters of a class at the cursor. -/
def skipAll (c : Cursor) (p : Char → Bool) : Except ReadError Cursor := (c.takeAll p).map Prod.snd

/-- Moves over a comment up to the end of its line, if one stands at the cursor. -/
def skipComment (c : Cursor) : Except ReadError Cursor :=
  if c.head? == some '#' then c.skipAll fun ch => !isBreak ch else .ok c

/-! ## Comments -/

/-- How far the cursor looks ahead for a comment. -/
def sight : Nat := 512

/-- Looks ahead over a number of characters; a flaw of the text is only noted. The answer is also whether
there was none. -/
def glance (c : Cursor) (n : Nat) : Bool × Cursor :=
  match c.reach n with
  | (some problem, c) => (false, { c with refused := c.refused.or (some problem) })
  | (none, c) => (true, c)

/-- The place of the first character ahead, from the `i`-th on, that is not of a class; none if there is
none in sight. -/
def lookPast (p : Char → Bool) : Nat → (i : Nat) → Cursor → Option Nat × Cursor
  | 0, _, c => (none, c)
  | fuel + 1, i, c =>
    match c.glance (i + 1) with
    | (false, c) => (none, c)
    | (true, c) => if c.ready[i]?.any p then lookPast p fuel (i + 1) c else (some i, c)

/-- Moves to the end of the line that holds the character with an index. -/
def passTo (index : Nat) : Nat → Cursor → Except ReadError Cursor
  | 0, c => .ok c
  | fuel + 1, c => do
    let c ← c.need 1
    match c.head? with
    | none => pure c
    | some ch =>
      if isBreak ch then
        if index ≤ c.mark.index then pure c
        else do
          let (_, c) ← c.passBreak
          passTo index fuel c
      else passTo index fuel c.step

/-- Moves over a comment that follows on the same line, unless the line has just begun. -/
def lineComment (c : Cursor) : Except ReadError Cursor :=
  if c.newlines > 0 then .ok c
  else
    match lookPast isBlank sight 0 c with
    | (some i, c) => if c.ready[i]? == some '#' then passTo (c.mark.index + i) c.size c else .ok c
    | (none, c) => .ok c

/-- Blanks, line feeds and carriage returns. -/
def isGap (c : Char) : Bool := isBlank c || c == '\n' || c == '\r'

/-- Moves over the comment at the cursor and over those on lines after it, with nothing but blanks and
empty lines between them. The cursor stays at the end of the last one. -/
def comments : Nat → (i : Nat) → Cursor → Except ReadError Cursor
  | 0, _, c => .ok c
  | fuel + 1, i, c => do
    match lookPast isGap (sight - i) i c with
    | (some k, c) =>
      if c.ready[k]? == some '#' then
        let c ← passTo (c.mark.index + k) c.size c
        if c.head?.any isGap then comments fuel 1 c else pure (c.glance 2).2
      else pure c
    | (none, c) => pure c

/-- Moves over the comments at the cursor. -/
def skipComments (c : Cursor) : Except ReadError Cursor := comments c.size 0 c

end Cursor

end Roster.Yaml
