import Roster.Yaml.Scalar
import Std.Data.HashMap

/-!
# Tokens of a YAML text

The scanner cuts a text into tokens. Where a collection is written by indentation alone it inserts tokens
for its start and end. A scalar turns out to be the key of a mapping only when the colon after it is met;
so the scanner remembers where such a key may have started and inserts the missing tokens there, ahead of
tokens that nobody has taken yet.
-/

namespace Roster.Yaml

/-- The kinds of tokens. -/
inductive TokenKind where
  | streamStart
  | streamEnd
  | versionDirective (major minor : Nat)
  | tagDirective (handle full : Text)
  | documentStart
  | documentEnd
  | blockSequenceStart
  | blockMappingStart
  | blockEnd
  | flowSequenceStart
  | flowSequenceEnd
  | flowMappingStart
  | flowMappingEnd
  | blockEntry
  | flowEntry
  | key
  | value
  | alias (name : Text)
  | anchor (name : Text)
  | tag (handle suffix : Text)
  | scalar (plain : Bool) (value : Text)
deriving Repr, DecidableEq

/-- A token, where it starts and where it ends. -/
structure Token where
  kind : TokenKind
  start : Mark
  stop : Mark
deriving Repr, DecidableEq

/-- A place where the key of a mapping may have started. -/
structure KeyPlace where
  possible : Bool := false
  /-- Whether nothing but a key can stand there. -/
  required : Bool := false
  /-- The number of the token that the key would start with. -/
  number : Nat := 0
  mark : Mark := {}
deriving Repr, Inhabited

/-- The state of the scanner. -/
structure Scanner where
  cursor : Cursor
  /-- Tokens that have not been taken yet. -/
  queue : List Token := []
  /-- How many tokens have been taken. -/
  taken : Nat := 0
  /-- The column of the innermost collection that is written by indentation, and those around it. -/
  indent : Int := -1
  outer : List Int := []
  /-- How many collections these are. -/
  levels : Nat := 0
  /-- How many brackets are open. -/
  depth : Nat := 0
  /-- Places of possible keys, one for the text outside all brackets and one for each open bracket. -/
  keys : Array KeyPlace := #[{}]
  /-- Which of these places belongs to the token with a number. -/
  keyOf : Std.HashMap Nat Nat := {}
  /-- Whether a key may start at the cursor. -/
  keyAllowed : Bool := true
  started : Bool := false

namespace Scanner

/-- A scanner that may fail. -/
abbrev Result := Except ReadError Scanner

/-- An error at the cursor, in a construct that started at a mark. -/
def fail {α : Type} (s : Scanner) (start : Mark) (problem : Text) : Except ReadError α :=
  s.cursor.error start problem

/-- Appends a token that starts at a mark and ends at the cursor. -/
def push (s : Scanner) (kind : TokenKind) (start : Mark) : Scanner :=
  { s with queue := s.queue ++ [⟨kind, start, s.cursor.mark⟩] }

/-- Appends a token without extent. -/
def pushAt (s : Scanner) (kind : TokenKind) (mark : Mark) : Scanner :=
  { s with queue := s.queue ++ [⟨kind, mark, mark⟩] }

/-- Inserts a token without extent in front of the token with a number. -/
def insert (s : Scanner) (number : Nat) (kind : TokenKind) (mark : Mark) : Scanner :=
  let i := number - s.taken
  { s with queue := s.queue.take i ++ ⟨kind, mark, mark⟩ :: s.queue.drop i }

/-- Moves the cursor over characters and appends the token that they make. -/
def token (s : Scanner) (n : Nat) (kind : TokenKind) : Scanner :=
  { s with cursor := s.cursor.skip n }.push kind s.cursor.mark

/-- The innermost place of a possible key. -/
def key (s : Scanner) : KeyPlace := s.keys.back?.getD {}

/-- Sets the innermost place of a possible key. -/
def setKey (s : Scanner) (k : KeyPlace) : Scanner := { s with keys := s.keys.pop.push k }

/-- Gives a place up. -/
def clearKey (s : Scanner) : Scanner :=
  { s.setKey { s.key with possible := false } with keyOf := s.keyOf.erase s.key.number }

/-- Whether a place can still be that of a key: keys stay on one line and are not long. -/
def isFresh (s : Scanner) (k : KeyPlace) : Bool :=
  k.mark.line ≥ s.cursor.mark.line && s.cursor.mark.index ≤ k.mark.index + 1024

/-- The error that a key has no colon. -/
def colonMissing {α : Type} (s : Scanner) (k : KeyPlace) : Except ReadError α :=
  s.fail k.mark "could not find expected ':'"

/-- Whether the place with an index is that of a possible key. A place that has grown stale is given up,
unless only a key can stand there. -/
def keyHolds (s : Scanner) (i : Nat) : Except ReadError (Bool × Scanner) :=
  match s.keys[i]? with
  | none => .ok (false, s)
  | some k =>
    if !k.possible then .ok (false, s)
    else if s.isFresh k then .ok (true, s)
    else if k.required then s.colonMissing k
    else .ok (false, { s with keys := s.keys.setIfInBounds i { k with possible := false } })

/-- Gives up the possible key. -/
def dropKey (s : Scanner) : Result :=
  if !s.key.possible then .ok s
  else if s.key.required then s.colonMissing s.key
  else .ok s.clearKey

/-- Remembers the cursor as the place of a possible key. -/
def saveKey (s : Scanner) : Result := do
  if s.keyAllowed then
    let required := s.depth == 0 && s.indent == s.cursor.mark.column
    let number := s.taken + s.queue.length
    let s ← s.dropKey
    let s := s.setKey { possible := true, required, number, mark := s.cursor.mark }
    pure { s with keyOf := s.keyOf.insert number (s.keys.size - 1) }
  else pure s

/-- How many collections may stand inside each other. -/
def maxDepth : Nat := 10000

/-- The problem of collections inside each other that are too many. -/
def tooDeep : Text := utf8 "exceeded max depth of " ++ Text.decimal maxDepth

/-- Ends the collections that are indented further than a column. -/
def unroll (column : Int) (mark : Mark) : Nat → Scanner → Scanner
  | 0, s => s
  | fuel + 1, s =>
    if s.depth == 0 && s.indent > column then
      let s := s.pushAt .blockEnd mark
      unroll column mark fuel
        { s with indent := s.outer.headD (-1), outer := s.outer.tail, levels := s.levels - 1 }
    else s

/-- Ends every collection that is indented further than a column. -/
def unrollTo (s : Scanner) (column : Int) (mark : Mark) : Scanner := unroll column mark (s.levels + 1) s

/-- Starts a collection at a column, if it is indented further than the one around it. -/
def roll (s : Scanner) (column : Nat) (number : Option Nat) (kind : TokenKind) (mark : Mark) : Result :=
  if s.depth == 0 && s.indent < column then
    let s := { s with outer := s.indent :: s.outer, indent := column, levels := s.levels + 1 }
    if s.levels > maxDepth then s.fail s.key.mark tooDeep
    else
      match number with
      | some n => .ok (s.insert n kind mark)
      | none => .ok (s.pushAt kind mark)
  else .ok s

/-! ## Blanks, comments and directives -/

/-- Moves over blanks, comments and line ends. A byte order mark may start a line. -/
def toToken : Nat → Scanner → Result
  | 0, s => .ok s
  | fuel + 1, s => do
    let c ← s.cursor.need 1
    let c := if c.mark.column == 0 && c.marked then c.step else c
    let tabs := s.depth > 0 || !s.keyAllowed
    let c ← c.skipAll fun b => b == ' ' || (tabs && b == '\t')
    let c ← if c.head? == some '#' then c.skipComments else pure c
    if c.atBreak then do
      let (_, c) ← c.passBreak
      toToken fuel { s with cursor := c, keyAllowed := s.depth == 0 || s.keyAllowed }
    else pure { s with cursor := c }

/-- Letters, digits, underscores and dashes. -/
def isWord (c : Char) : Bool := c.isAlphanum || c == '_' || c == '-'

/-- Bytes of characters. -/
def bytes (cs : List Char) : Text := Text.ofChars cs

/-- Refuses what is not a comment at the end of a directive. -/
def endDirective (start : Mark) (c : Cursor) : Except ReadError Cursor := do
  let c ← c.skipAll isBlank
  let c ← c.skipComment
  if !c.atEnd then c.error start "did not find expected comment or line break"
  else if c.atBreak then return (← c.passBreak).2
  else pure c

/-- Reads the number of a version. -/
def versionNumber (start : Mark) : Nat → List Char → Cursor → Except ReadError (Nat × Cursor)
  | 0, _, c => c.error start "found extremely long version number"
  | fuel + 1, digits, c => do
    let c ← c.need 1
    match c.head? with
    | some d =>
      if d.isDigit then
        if fuel == 0 then c.error start "found extremely long version number"
        else versionNumber start fuel (d :: digits) c.step
      else finish digits c
    | none => finish digits c
where
  /-- The number that the digits denote. -/
  finish (digits : List Char) (c : Cursor) : Except ReadError (Nat × Cursor) :=
    if digits.isEmpty then c.error start "did not find expected version number"
    else .ok ((Text.toNat? (bytes digits.reverse)).getD 0, c)

/-! ## Tags -/

/-- Characters of a tag. -/
def isTagChar (c : Char) : Bool :=
  isWord c ||
    [';', '/', '?', ':', '@', '&', '=', '+', '$', ',', '.', '!', '~', '*', '\'', '(', ')', '[', ']',
     '%'].contains c

/-- Reads the bytes of a character that is written as percent signs and codes; `left` is the number of
bytes to come, none before the first of them. -/
def taggedBytes (start : Mark) :
    Nat → (left : Option Nat) → Text → Cursor → Except ReadError (Text × Cursor)
  | 0, _, acc, c => .ok (acc, c)
  | fuel + 1, left, acc, c => do
    if left == some 0 then pure (acc, c)
    else
      let c ← c.need 3
      match c.ready with
      | '%' :: a :: b :: _ =>
        match hexNumber? 0 [a, b] with
        | none => c.error start "did not find URI escaped octet"
        | some n =>
          let octet := n.toUInt8
          match left with
          | none =>
            let width := Encoding.leadWidth octet
            if width == 0 then c.error start "found an incorrect leading UTF-8 octet"
            else taggedBytes start fuel (some (width - 1)) (octet :: acc) (c.skip 3)
          | some k =>
            if octet &&& 0xC0 != 0x80 then c.error start "found an incorrect trailing UTF-8 octet"
            else taggedBytes start fuel (some (k - 1)) (octet :: acc) (c.skip 3)
      | _ => c.error start "did not find URI escaped octet"

/-- Reads the characters of a tag; `acc` holds the bytes read before, the last one first. -/
def tagBytes (start : Mark) : Nat → Text → Cursor → Except ReadError (Text × Cursor)
  | 0, acc, c => .ok (acc.reverse, c)
  | fuel + 1, acc, c => do
    let c ← c.need 1
    match c.head? with
    | some ch =>
      if ch == '%' then do
        let (acc, c) ← taggedBytes start 5 none acc c
        tagBytes start fuel acc c
      else if isTagChar ch then tagBytes start fuel (Text.byte ch :: acc) c.step
      else pure (acc.reverse, c)
    | none => pure (acc.reverse, c)

/-- Reads a tag that may be empty only after something else. -/
def takeTag (start : Mark) (mayBeEmpty : Bool) (c : Cursor) : Except ReadError (Text × Cursor) := do
  let (t, c) ← tagBytes start c.size [] c
  if t.isEmpty && !mayBeEmpty then c.error start "did not find expected tag URI" else pure (t, c)

/-- Reads the handle of a tag: a mark, or a word between two marks. -/
def tagHandle (start : Mark) (directive : Bool) (c : Cursor) : Except ReadError (List Char × Cursor) := do
  let c ← c.need 1
  if c.head? != some '!' then c.error start "did not find expected '!'"
  else
    let (word, c) ← c.step.takeAll isWord
    if c.head? == some '!' then pure ('!' :: word ++ ['!'], c.step)
    else if directive && !word.isEmpty then c.error start "did not find expected '!'"
    else pure ('!' :: word, c)

/-- Reads a directive. -/
def directive (s : Scanner) : Result := do
  let start := s.cursor.mark
  let (name, c) ← s.cursor.step.takeAll isWord
  if name.isEmpty then c.error start "could not find expected directive name"
  if !isVoid c.head? then c.error start "found unexpected non-alphabetical character"
  if name == "YAML".toList then
    let c ← c.skipAll isBlank
    let (major, c) ← versionNumber start 3 [] c
    if c.head? != some '.' then c.error start "did not find expected digit or '.' character"
    let (minor, c) ← versionNumber start 3 [] c.step
    let s := { s with cursor := c }.push (.versionDirective major minor) start
    pure { s with cursor := ← endDirective start c }
  else if name == "TAG".toList then
    let c ← c.skipAll isBlank
    let (handle, c) ← tagHandle start true c
    let c ← c.need 1
    if !c.atBlank then c.error start "did not find expected whitespace"
    let c ← c.skipAll isBlank
    let (full, c) ← takeTag start false c
    let c ← c.need 1
    if !isVoid c.head? then c.error start "did not find expected whitespace or line break"
    let s := { s with cursor := c }.push (.tagDirective (bytes handle) full) start
    pure { s with cursor := ← endDirective start c }
  else c.error start "found unknown directive name"

/-! ## Tokens one by one -/

/-- Ends everything at the end of the text. -/
def streamEnd (s : Scanner) : Result := do
  let c := s.cursor
  let c := if c.mark.column == 0 then c
    else { c with mark := { c.mark with line := c.mark.line + 1, column := 0 } }
  let s ← (({ s with cursor := c } : Scanner).unrollTo (-1) c.mark).dropKey
  pure ({ s with keyAllowed := false }.push .streamEnd c.mark)

/-- A mark between documents, or a directive, at the start of a line. -/
def betweenDocuments (s : Scanner) (act : Scanner → Result) : Result := do
  let s ← (s.unrollTo (-1) s.cursor.mark).dropKey
  act { s with keyAllowed := false }

/-- An opening bracket. -/
def openBracket (s : Scanner) (kind : TokenKind) : Result := do
  let s ← s.saveKey
  let number := s.taken + s.queue.length
  let s := { s with depth := s.depth + 1, keys := s.keys.push { number, mark := s.cursor.mark } }
  if s.depth > maxDepth then s.fail s.cursor.mark tooDeep
  else pure ({ s with keyAllowed := true }.token 1 kind)

/-- A closing bracket. -/
def closeBracket (s : Scanner) (kind : TokenKind) : Result := do
  let s ← s.dropKey
  let s := if s.depth == 0 then s
    else { s with depth := s.depth - 1, keyOf := s.keyOf.erase s.key.number, keys := s.keys.pop }
  pure ({ s with keyAllowed := false }.token 1 kind)

/-- A comma between brackets. -/
def flowEntry (s : Scanner) : Result := do
  let s ← s.dropKey
  pure ({ s with keyAllowed := true }.token 1 .flowEntry)

/-- The dash of a sequence. -/
def blockEntry (s : Scanner) : Result := do
  if s.depth == 0 && !s.keyAllowed then
    s.fail s.cursor.mark "block sequence entries are not allowed in this context"
  let s ← s.roll s.cursor.mark.column none .blockSequenceStart s.cursor.mark
  let s ← s.dropKey
  pure ({ s with keyAllowed := true }.token 1 .blockEntry)

/-- The question mark in front of a key. -/
def explicitKey (s : Scanner) : Result := do
  if s.depth == 0 && !s.keyAllowed then
    s.fail s.cursor.mark "mapping keys are not allowed in this context"
  let s ← s.roll s.cursor.mark.column none .blockMappingStart s.cursor.mark
  let s ← s.dropKey
  pure ({ s with keyAllowed := s.depth == 0 }.token 1 .key)

/-- The colon after a key. -/
def value (s : Scanner) : Result := do
  let k := s.key
  let (holds, s) ← s.keyHolds (s.keys.size - 1)
  if holds then
    let s := s.insert k.number .key k.mark
    let s ← s.roll k.mark.column (some k.number) .blockMappingStart k.mark
    pure ({ s.clearKey with keyAllowed := false }.token 1 .value)
  else
    if s.depth == 0 && !s.keyAllowed then
      s.fail s.cursor.mark "mapping values are not allowed in this context"
    let s ← s.roll s.cursor.mark.column none .blockMappingStart s.cursor.mark
    pure ({ s with keyAllowed := s.depth == 0 }.token 1 .value)

/-- An anchor or an alias. -/
def anchor (s : Scanner) (kind : Text → TokenKind) : Result := do
  let s ← s.saveKey
  let start := s.cursor.mark
  let (name, c) ← s.cursor.step.takeAll isWord
  let ends := isVoid c.head? || c.head?.any ['?', ':', ',', ']', '\x7d', '%', '@', Char.ofNat 96].contains
  if name.isEmpty || !ends then
    c.error start "did not find expected alphabetic or numeric character"
  else pure ({ s with cursor := c, keyAllowed := false }.push (kind (bytes name)) start)

/-- Reads handle and suffix of a tag. -/
def tagParts (start : Mark) (c : Cursor) : Except ReadError (Text × Text × Cursor) := do
  let c ← c.need 2
  if c.second? == some '<' then do
    let (uri, c) ← takeTag start false (c.skip 2)
    if c.head? != some '>' then c.error start "did not find the expected '>'"
    pure ([], uri, c.step)
  else do
    let (handle, c) ← tagHandle start false c
    if handle.length > 1 && handle.getLast? == some '!' then do
      let (suffix, c) ← takeTag start false c
      pure (bytes handle, suffix, c)
    else do
      let (rest, c) ← takeTag start true c
      let suffix := bytes handle.tail ++ rest
      pure (if suffix.isEmpty then ([], utf8 "!", c) else (utf8 "!", suffix, c))

/-- A tag. -/
def tag (s : Scanner) : Result := do
  let s ← s.saveKey
  let start := s.cursor.mark
  let (handle, suffix, c) ← tagParts start s.cursor
  let c ← c.need 1
  if !isVoid c.head? then c.error start "did not find expected whitespace or line break"
  pure ({ s with cursor := c, keyAllowed := false }.push (.tag handle suffix) start)

/-- A scalar in quotes. -/
def quoted (s : Scanner) (single : Bool) : Result := do
  let s ← s.saveKey
  let start := s.cursor.mark
  let c := s.cursor.step
  let (t, c) ← scanQuoted single start c.size [] c
  pure ({ s with cursor := c, keyAllowed := false }.push (.scalar false (bytes t)) start)

/-- A plain scalar. -/
def plain (s : Scanner) : Result := do
  let s ← s.saveKey
  let start := s.cursor.mark
  let (t, broken, c) ←
    scanPlain (s.depth > 0) (s.indent + 1) start s.cursor.size [] {} s.cursor
  pure ({ s with cursor := c, keyAllowed := broken }.push (.scalar true (bytes t)) start)

/-- A block scalar. -/
def block (s : Scanner) (literal : Bool) : Result := do
  let s ← s.dropKey
  let start := s.cursor.mark
  let (t, c) ← scanBlock literal s.indent s.cursor
  pure ({ s with cursor := c, keyAllowed := true }.push (.scalar false (bytes t)) start)

/-- Characters that no plain scalar starts with, at least if a blank follows. -/
def isIndicator (c : Char) : Bool :=
  ['-', '?', ':', ',', '[', ']', '\x7b', '\x7d', '#', '&', '*', '!', '|', '>', '\'', '"', '%', '@',
   Char.ofNat 96].contains c

/-- Whether a plain scalar starts at the cursor. -/
def startsPlain (s : Scanner) (c : Char) (next : Option Char) : Bool :=
  !(isBlank c || isBreak c || isIndicator c) || (c == '-' && !next.any isBlank) ||
    (s.depth == 0 && (c == '?' || c == ':') && !isVoid next)

/-- Reads the token that starts with a character. -/
def inside (s : Scanner) (c : Char) (next : Option Char) : Result :=
  if c == '[' then s.openBracket .flowSequenceStart
  else if c == '\x7b' then s.openBracket .flowMappingStart
  else if c == ']' then s.closeBracket .flowSequenceEnd
  else if c == '\x7d' then s.closeBracket .flowMappingEnd
  else if c == ',' then s.flowEntry
  else if c == '-' && isVoid next then s.blockEntry
  else if c == '?' && (s.depth > 0 || isVoid next) then s.explicitKey
  else if c == ':' && (s.depth > 0 || isVoid next) then s.value
  else if c == '*' then s.anchor .alias
  else if c == '&' then s.anchor .anchor
  else if c == '!' then s.tag
  else if c == '|' && s.depth == 0 then s.block true
  else if c == '>' && s.depth == 0 then s.block false
  else if c == '\'' then s.quoted true
  else if c == '"' then s.quoted false
  else if s.startsPlain c next then s.plain
  else s.fail s.cursor.mark "found character that cannot start any token"

/-- Moves over a comment that follows a token on its line. The dash of a sequence has none. -/
def passLineComment (s : Scanner) : Result := do
  if (s.queue.getLast?.map Token.kind) == some .blockEntry then pure s
  else pure { s with cursor := ← s.cursor.lineComment }

/-- Reads the next token, or several where collections start or end. -/
def fetch (s : Scanner) : Result := do
  let s := { s with cursor := ← s.cursor.need 1 }
  if !s.started then pure ({ s with started := true }.push .streamStart s.cursor.mark)
  else
    let mark := s.cursor.mark
    let s ← toToken s.cursor.size s
    let s := s.unrollTo s.cursor.mark.column mark
    let s := { s with cursor := ← s.cursor.need 4 }
    match s.cursor.head? with
    | none => s.streamEnd
    | some c =>
      if s.cursor.mark.column == 0 && c == '%' then s.betweenDocuments directive
      else if s.cursor.atDocumentMark then
        s.betweenDocuments fun s => pure (s.token 3 (if c == '-' then .documentStart else .documentEnd))
      else (← s.inside c s.cursor.second?).passLineComment

/-- Whether two tokens follow the one at the front and that one is not a possible key any more. -/
def isFilled (s : Scanner) : Except ReadError (Bool × Scanner) := do
  if s.queue.length ≤ 2 then pure (false, s)
  else
    match s.keyOf[s.taken]? with
    | none => pure (true, s)
    | some i => do
      let (holds, s) ← s.keyHolds i
      pure (!holds, s)

/-- Reads tokens until enough of them are there. -/
def fill : Nat → Scanner → Result
  | 0, s => .ok s
  | fuel + 1, s => do
    let (filled, s) ← s.isFilled
    if filled then pure s else fill fuel (← s.fetch)

/-- The token at the front. -/
def front (s : Scanner) : Except ReadError (Token × Scanner) := do
  let s ← fill (s.cursor.size + 4) s
  match s.queue with
  | t :: _ => pure (t, s)
  | [] => pure (⟨.streamEnd, s.cursor.mark, s.cursor.mark⟩, s)

/-- Takes the token at the front away. -/
def pop (s : Scanner) : Scanner := { s with queue := s.queue.tail, taken := s.taken + 1 }

end Scanner

end Roster.Yaml
