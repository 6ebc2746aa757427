import Roster.Yaml.Cursor

/-!
# Scalars of a YAML text

The four ways to write a scalar: plain, in single or double quotes, and as an indented block. Line ends
inside a scalar are folded: a single one becomes a space, and of several the first is dropped.

Characters that have been read are kept with the last one first.
-/

namespace Roster.Yaml

/-- Blanks and line ends that have been passed over and may turn out to be part of a scalar. -/
structure Gap where
  blanks : List Char := []
  /-- The first line end. -/
  first : List Char := []
  /-- The further line ends. -/
  more : List Char := []
  /-- Whether there was a line end. -/
  broken : Bool := false

/-- What a gap means once the scalar goes on. -/
def Gap.fold (g : Gap) : List Char :=
  if !g.broken then g.blanks
  else if g.first == ['\n'] then if g.more.isEmpty then [' '] else g.more
  else g.more ++ g.first

/-- Takes the blanks and line ends at the cursor. `check` may refuse a cursor that stands at a blank
before the first word of a line. -/
def takeGap (check : Cursor → Except ReadError Unit) :
    Nat → Gap → Cursor → Except ReadError (Gap × Cursor)
  | 0, g, c => .ok (g, c)
  | fuel + 1, g, c => do
    let c ← c.need 1
    match c.head? with
    | none => pure (g, c)
    | some b =>
      if isBlank b then
        if g.broken then do
          check c
          takeGap check fuel g c.step
        else takeGap check fuel { g with blanks := b :: g.blanks } c.step
      else if isBreak b then do
        let (ending, c) ← c.passBreak
        if g.broken then takeGap check fuel { g with more := ending ++ g.more } c
        else takeGap check fuel { g with blanks := [], first := ending, broken := true } c
      else pure (g, c)

/-! ## Plain scalars -/

/-- Whether a character ends the run of a plain scalar, given the next one. -/
def endsPlain (flow : Bool) (c : Char) (next : Option Char) : Bool :=
  isBlank c || isBreak c || (c == ':' && isVoid next) ||
    (flow && [',', '?', '[', ']', '\x7b', '\x7d'].contains c)

/-- Reads the run of characters of a plain scalar up to a blank or an indicator; the gap before it becomes
part of the scalar. -/
def plainRun (flow : Bool) :
    Nat → List Char → Gap → Cursor → Except ReadError (List Char × Gap × Cursor)
  | 0, acc, g, c => .ok (acc, g, c)
  | fuel + 1, acc, g, c => do
    match c.head? with
    | none => pure (acc, g, c)
    | some ch =>
      if endsPlain flow ch c.second? then pure (acc, g, c)
      else plainRun flow fuel (ch :: (g.fold ++ acc)) {} (← c.step.need 2)

/-- Reads a plain scalar; the answer also tells whether it ended with a line end. -/
def scanPlain (flow : Bool) (indent : Int) (start : Mark) :
    Nat → List Char → Gap → Cursor → Except ReadError (List Char × Bool × Cursor)
  | 0, acc, g, c => .ok (acc.reverse, g.broken, c)
  | fuel + 1, acc, g, c => do
    let c ← c.need 4
    if c.atDocumentMark || c.head? == some '#' then pure (acc.reverse, g.broken, c)
    else
      let (acc, g, c) ← plainRun flow c.size acc g c
      if !(c.atBlank || c.atBreak) then pure (acc.reverse, g.broken, c)
      else
        let check := fun (c : Cursor) =>
          if (c.mark.column : Int) < indent && c.head? == some '\t' then
            c.error start "found a tab character that violates indentation"
          else .ok ()
        let (g, c) ← takeGap check c.size g c
        if !flow && (c.mark.column : Int) < indent then pure (acc.reverse, g.broken, c)
        else scanPlain flow indent start fuel acc g c

/-! ## Quoted scalars -/

/-- What an escape letter stands for. -/
def escape? (c : Char) : Option Char :=
  match c with
  | '0' => some (Char.ofNat 0)
  | 'a' => some (Char.ofNat 7)
  | 'b' => some (Char.ofNat 8)
  | 't' | '\t' => some '\t'
  | 'n' => some '\n'
  | 'v' => some (Char.ofNat 11)
  | 'f' => some (Char.ofNat 12)
  | 'r' => some '\r'
  | 'e' => some (Char.ofNat 27)
  | ' ' | '"' | '\'' | '\\' => some c
  | 'N' => some (Char.ofNat 0x85)
  | '_' => some (Char.ofNat 0xA0)
  | 'L' => some (Char.ofNat 0x2028)
  | 'P' => some (Char.ofNat 0x2029)
  | _ => none

/-- How many hexadecimal digits follow an escape letter. -/
def codeLength (c : Char) : Nat :=
  if c == 'x' then 2 else if c == 'u' then 4 else if c == 'U' then 8 else 0

/-- The value of a hexadecimal digit. -/
def hexDigit? (c : Char) : Option Nat := if c.toNat < 128 then Text.hexValue? c.toNat.toUInt8 else none

/-- The number that hexadecimal digits denote. -/
def hexNumber? : Nat → List Char → Option Nat
  | n, [] => some n
  | n, c :: rest => (hexDigit? c).bind fun d => hexNumber? (n * 16 + d) rest

/-- Reads an escape whose backslash is at the cursor. -/
def takeEscape (start : Mark) (c : Cursor) : Except ReadError (Char × Cursor) := do
  match c.second? with
  | none => c.error start "found unknown escape character"
  | some e =>
    let n := codeLength e
    if n == 0 then
      match escape? e with
      | some ch => pure (ch, c.skip 2)
      | none => c.error start "found unknown escape character"
    else
      let after ← (c.skip 2).need n
      let digits := after.ready.take n
      match hexNumber? 0 digits with
      | some v =>
        if digits.length < n then after.error start "did not find expected hexdecimal number"
        else if (0xD800 ≤ v && v ≤ 0xDFFF) || v > 0x10FFFF then
          after.error start "found invalid Unicode character escape code"
        else pure (Char.ofNat v, after.skip n)
      | none => after.error start "did not find expected hexdecimal number"

/-- Reads characters between quotes up to a blank, a line end or the closing quote. The flag tells
whether the run ended with an escaped line end. -/
def quotedRun (single : Bool) (start : Mark) :
    Nat → List Char → Cursor → Except ReadError (List Char × Bool × Cursor)
  | 0, acc, c => .ok (acc, false, c)
  | fuel + 1, acc, c => do
    match c.head? with
    | none => pure (acc, false, c)
    | some b =>
      if isBlank b || isBreak b then pure (acc, false, c)
      else if single then
        if b != '\'' then quotedRun single start fuel (b :: acc) (← c.step.need 2)
        else if c.second? == some '\'' then quotedRun single start fuel (b :: acc) (← (c.skip 2).need 2)
        else pure (acc, false, c)
      else if b == '"' then pure (acc, false, c)
      else if b == '\\' then
        if c.second?.any isBreak then do
          let c ← c.need 3
          pure (acc, true, (c.step.takeBreak).2)
        else do
          let (ch, c) ← takeEscape start c
          quotedRun single start fuel (ch :: acc) (← c.need 2)
      else quotedRun single start fuel (b :: acc) (← c.step.need 2)

/-- Reads a quoted scalar after its opening quote. -/
def scanQuoted (single : Bool) (start : Mark) :
    Nat → List Char → Cursor → Except ReadError (List Char × Cursor)
  | 0, acc, c => .ok (acc.reverse, c)
  | fuel + 1, acc, c => do
    let c ← c.need 4
    if c.atDocumentMark then c.error start "found unexpected document indicator"
    else if c.head?.isNone then c.error start "found unexpected end of stream"
    else do
      let (acc, escaped, c) ← quotedRun single start c.size acc c
      let c ← c.need 1
      if c.head? == some (if single then '\'' else '"') then pure (acc.reverse, c.step)
      else
        let (g, c) ← takeGap (fun _ => .ok ()) c.size { broken := escaped } c
        scanQuoted single start fuel (g.fold ++ acc) c

/-! ## Block scalars -/

/-- What becomes of the line ends at the end of a block. -/
inductive Chomp where
  | strip
  | clip
  | keep
deriving DecidableEq

/-- The sign that chooses what becomes of the last line ends. -/
def chomp? (c : Cursor) : Option Chomp :=
  if c.head? == some '+' then some .keep else if c.head? == some '-' then some .strip else none

/-- The digit that fixes the indentation of a block; zero if there is none. -/
def indentDigit (start : Mark) (c : Cursor) : Except ReadError (Nat × Cursor) :=
  match c.head? with
  | some d =>
    if d == '0' then c.error start "found an indentation indicator equal to 0"
    else if d.isDigit then .ok (d.toNat - 48, c.step)
    else .ok (0, c)
  | none => .ok (0, c)

/-- Reads the signs after the indicator of a block, in either order. -/
def blockHeader (start : Mark) (c : Cursor) : Except ReadError (Chomp × Nat × Cursor) := do
  let c ← c.need 1
  match chomp? c with
  | some chomp => do
    let (n, c) ← indentDigit start (← c.step.need 1)
    pure (chomp, n, c)
  | none => do
    let (n, c) ← indentDigit start c
    if n == 0 then pure (.clip, 0, c)
    else
      let c ← c.need 1
      match chomp? c with
      | some chomp => pure (chomp, n, c.step)
      | none => pure (.clip, n, c)

/-- Moves over the spaces that indent a line, up to a column if that is known. -/
def skipIndent (indent : Nat) : Nat → Cursor → Except ReadError Cursor
  | 0, c => .ok c
  | fuel + 1, c => do
    let c ← c.need 1
    if (indent == 0 || c.mark.column < indent) && c.head? == some ' ' then skipIndent indent fuel c.step
    else pure c

/-- Takes indentation and empty lines. `indent` is zero as long as it is not known; `widest` is the
greatest indentation met. -/
def blockBreaks (start : Mark) (indent : Nat) :
    Nat → (widest : Nat) → List Char → Cursor → Except ReadError (Nat × List Char × Cursor)
  | 0, widest, breaks, c => .ok (widest, breaks, c)
  | fuel + 1, widest, breaks, c => do
    let c ← skipIndent indent c.size c
    let widest := max widest c.mark.column
    if (indent == 0 || c.mark.column < indent) && c.head? == some '\t' then
      c.error start "found a tab character where an indentation space is expected"
    else if c.atBreak then do
      let (ending, c) ← c.passBreak
      blockBreaks start indent fuel widest (ending ++ breaks) c
    else pure (widest, breaks, c)

/-- The lines of a block so far: the text, the line end of the last line, the empty lines after it, and
whether that line started with a blank. -/
structure Block where
  text : List Char := []
  ending : List Char := []
  breaks : List Char := []
  indented : Bool := false

/-- Reads the lines of a block. -/
def blockLines (literal : Bool) (start : Mark) (indent : Nat) :
    Nat → Block → Cursor → Except ReadError (Block × Cursor)
  | 0, b, c => .ok (b, c)
  | fuel + 1, b, c =>
    if c.mark.column != indent || c.head?.isNone then .ok (b, c)
    else do
      let blank := c.atBlank
      let joint :=
        if !literal && !b.indented && !blank && b.ending == ['\n'] then if b.breaks.isEmpty then [' '] else []
        else b.ending
      let (line, c) ← c.takeAll fun ch => !isBreak ch
      let text := line.reverse ++ (b.breaks ++ (joint ++ b.text))
      let (ending, c) ← c.passBreak
      let (_, breaks, c) ← blockBreaks start indent c.size 0 [] c
      blockLines literal start indent fuel { text, ending, breaks, indented := blank } c

/-- Reads a block scalar whose indicator is at the cursor; `parent` is the indentation around it. -/
def scanBlock (literal : Bool) (parent : Int) (c : Cursor) : Except ReadError (List Char × Cursor) := do
  let start := c.mark
  let (chomp, given, c) ← blockHeader start c.step
  let c ← c.skipAll isBlank
  let c ← c.skipComment
  if !c.atEnd then c.error start "did not find expected comment or line break"
  let (_, c) ← if c.atBreak then c.passBreak else pure ([], c)
  let known := if given == 0 then 0 else if parent ≥ 0 then parent.toNat + given else given
  let (widest, breaks, c) ← blockBreaks start known c.size 0 [] c
  let indent := if known == 0 then max (max widest (parent + 1).toNat) 1 else known
  let (b, c) ← blockLines literal start indent c.size { breaks } c
  let tail :=
    match chomp with
    | .strip => []
    | .clip => b.ending
    | .keep => b.breaks ++ b.ending
  pure ((tail ++ b.text).reverse, c)

end Roster.Yaml
