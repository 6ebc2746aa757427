import Roster.Yaml.Token

/-!
# Events of a YAML text

Tokens taken together make events: the start and the end of a document, of a sequence or of a mapping, a
scalar, or an alias that repeats a node. Where a node is left out, an empty scalar stands in its place.

The reader of events is a machine: its state says what may come next, and a stack holds the states to go
back to.
-/

namespace Roster.Yaml

/-- What a node may carry in front: an anchor by which it can be repeated, and a tag in full form. Each is
empty if it is not given. -/
structure Properties where
  anchor : Text := []
  tag : Text := []
deriving Repr, DecidableEq

/-- The kinds of events. -/
inductive EventKind where
  | streamStart
  | streamEnd
  | documentStart
  | documentEnd
  | alias (name : Text)
  | scalar (p : Properties) (plain : Bool) (value : Text)
  | sequenceStart (p : Properties)
  | sequenceEnd
  | mappingStart (p : Properties)
  | mappingEnd
deriving Repr, DecidableEq

/-- An event and where it starts. -/
structure Event where
  kind : EventKind
  start : Mark
deriving Repr, DecidableEq

/-- What may come next. -/
inductive Expected where
  | streamStart
  | documentStart
  | documentContent
  | documentEnd
  | blockNode
  | blockSequenceStart
  | blockSequenceItem
  | indentlessItem
  | blockMappingStart
  | blockMappingKey
  | blockMappingValue
  | flowSequenceStart
  | flowSequenceItem
  | flowPairKey
  | flowPairValue
  | flowPairEnd
  | flowMappingStart
  | flowMappingKey
  | flowMappingValue
  | flowMappingNoValue
  | nothing
deriving Repr, DecidableEq

/-- The state of the reader of events. -/
structure EventReader where
  scanner : Scanner
  expected : Expected := .streamStart
  /-- What may come after the node that is being read, and after those around it. -/
  after : List Expected := []
  /-- Where the collections start that are being read. -/
  starts : List Mark := []
  /-- Handles of tags and what they stand for. -/
  handles : List (Text × Text) := []

namespace Event

/-- A computation that reads tokens. -/
abbrev Read := StateT EventReader (Except ReadError)

/-- The token at the front. -/
def peek : Read Token := do
  let r ← get
  let (t, scanner) ← (r.scanner.front : Except ReadError _)
  set { r with scanner }
  pure t

/-- Takes the token at the front away. -/
def skip : Read Unit := modify fun r => { r with scanner := r.scanner.pop }

/-- Takes the token at the front away and looks at the next. -/
def next : Read Token := do
  skip
  peek

/-- Sets what may come next. -/
def expect (e : Expected) : Read Unit := modify fun r => { r with expected := e }

/-- Sets what may come after the node that is read next. -/
def returnTo (e : Expected) : Read Unit := modify fun r => { r with after := e :: r.after }

/-- Goes back to what may come after the node that has been read. -/
def back : Read Unit :=
  modify fun r => { r with expected := r.after.headD .nothing, after := r.after.tail }

/-- Notes where a collection starts. -/
def enter (m : Mark) : Read Unit := modify fun r => { r with starts := m :: r.starts }

/-- Forgets where the innermost collection starts. -/
def leave : Read Unit := modify fun r => { r with starts := r.starts.tail }

/-- An error at a token. -/
def fail {α : Type} (problem : Text) (t : Token) : Read α := throw { problem, line := t.start.line }

/-- An error at a mark, in a construct that started at another. -/
def failIn {α : Type} (start : Mark) (problem : Text) (place : Mark) : Read α :=
  throw { problem, line := shownLine start place }

/-- An error at a token, in the innermost collection. -/
def failInside {α : Type} (problem : Text) (t : Token) : Read α := do
  failIn ((← get).starts.headD {}) problem t.start

/-- The empty scalar at a mark, after which the given may come. -/
def empty (e : Expected) (m : Mark) : Read Event := do
  expect e
  pure ⟨.scalar {} true [], m⟩

/-! ## Nodes -/

/-- The full form of a tag; `start` is where the node starts. -/
def fullTag (start : Mark) (t : Token) : Read Text := do
  match t.kind with
  | .tag handle suffix =>
    if handle.isEmpty then pure suffix
    else
      match (← get).handles.lookup handle with
      | some full => pure (full ++ suffix)
      | none => failIn start "found undefined tag handle" t.start
  | _ => pure []

/-- Reads tag and anchor in either order; the answer holds the token after them. A tag handle is looked
up only after the anchor has been read. -/
def properties (t : Token) : Read (Properties × Token) := do
  match t.kind with
  | .anchor anchor => do
    let u ← next
    match u.kind with
    | .tag _ _ => do
      let after ← next
      pure ({ anchor, tag := ← fullTag t.start u }, after)
    | _ => pure ({ anchor }, u)
  | .tag _ _ => do
    let u ← next
    match u.kind with
    | .anchor anchor => do
      let after ← next
      pure ({ anchor, tag := ← fullTag t.start t }, after)
    | _ => pure ({ tag := ← fullTag t.start t }, u)
  | _ => pure ({}, t)

/-- Reads the event that a node starts with. `block` says whether it may be written by indentation,
`indentless` whether it may be a sequence at the column of the mapping around it. -/
def node (block indentless : Bool) : Read Event := do
  let first ← peek
  match first.kind with
  | .alias name => do
    back
    skip
    pure ⟨.alias name, first.start⟩
  | _ => do
    let (p, t) ← properties first
    if indentless && t.kind == .blockEntry then
      expect .indentlessItem
      pure ⟨.sequenceStart p, first.start⟩
    else
      match t.kind with
      | .scalar plain value => do
        back
        skip
        pure ⟨.scalar p plain value, first.start⟩
      | .flowSequenceStart => do
        expect .flowSequenceStart
        pure ⟨.sequenceStart p, first.start⟩
      | .flowMappingStart => do
        expect .flowMappingStart
        pure ⟨.mappingStart p, first.start⟩
      | kind =>
        if block && kind == .blockSequenceStart then do
          expect .blockSequenceStart
          pure ⟨.sequenceStart p, first.start⟩
        else if block && kind == .blockMappingStart then do
          expect .blockMappingStart
          pure ⟨.mappingStart p, first.start⟩
        else if !p.tag.isEmpty || !p.anchor.isEmpty then do
          back
          pure ⟨.scalar p true [], first.start⟩
        else failIn first.start "did not find expected node content" t.start

/-! ## Documents -/

/-- Adds the handle of a tag. -/
def declare (handle full : Text) (t : Token) : Read Unit := do
  if ((← get).handles.lookup handle).isSome then fail "found duplicate %TAG directive" t
  else modify fun r => { r with handles := r.handles ++ [(handle, full)] }

/-- The handles that every document has. -/
def commonHandles : List (Text × Text) := [("!", "!"), ("!!", "tag:yaml.org,2002:")]

/-- Reads the directives in front of a document; `versioned` says that its version has been given. The
common handles come last. -/
def directives : Nat → (versioned : Bool) → Read Token
  | 0, _ => peek
  | fuel + 1, versioned => do
    let t ← peek
    match t.kind with
    | .versionDirective major minor => do
      if versioned then fail "found duplicate %YAML directive" t
      if major != 1 || minor != 1 then fail "found incompatible YAML document" t
      skip
      directives fuel true
    | .tagDirective handle full => do
      declare handle full t
      skip
      directives fuel versioned
    | _ => do
      modify fun r => { r with handles := r.handles ++ commonHandles }
      pure t

/-- Whether a token stands between documents. -/
def isBetween : TokenKind → Bool
  | .versionDirective _ _ | .tagDirective _ _ | .documentStart | .documentEnd | .streamEnd => true
  | _ => false

/-- Reads the start of the first document. Without directives its content may follow at once. -/
def documentStart : Read Event := do
  let t ← peek
  if t.kind == .streamEnd then do
    expect .nothing
    skip
    pure ⟨.streamEnd, t.start⟩
  else if !isBetween t.kind || t.kind == .documentEnd then do
    let _ ← directives 1 false
    returnTo .documentEnd
    expect .blockNode
    pure ⟨.documentStart, t.start⟩
  else do
    let u ← directives ((← get).scanner.cursor.size + 1) false
    if u.kind != .documentStart then fail "did not find expected <document start>" u
    returnTo .documentEnd
    expect .documentContent
    skip
    pure ⟨.documentStart, t.start⟩

/-- Reads what stands after the mark in front of a document. -/
def documentContent : Read Event := do
  let t ← peek
  if isBetween t.kind then do
    back
    pure ⟨.scalar {} true [], t.start⟩
  else node true false

/-- Reads the end of the document. What follows it does not count. -/
def documentEnd : Read Event := do
  let t ← peek
  if t.kind == .documentEnd then skip
  expect .nothing
  pure ⟨.documentEnd, t.start⟩

/-! ## Collections that are written by indentation -/

/-- Reads a node unless one of the given tokens stands in its place. -/
def nodeUnless (kinds : List TokenKind) (indentless : Bool) (after : Expected) (m : Mark) : Read Event := do
  let t ← peek
  if kinds.contains t.kind then empty after m
  else do
    returnTo after
    node true indentless

/-- Reads an item of a sequence. -/
def blockItem : Read Event := do
  let t ← peek
  match t.kind with
  | .blockEntry => do
    skip
    nodeUnless [.blockEntry, .blockEnd] false .blockSequenceItem t.stop
  | .blockEnd => do
    back
    leave
    skip
    pure ⟨.sequenceEnd, t.start⟩
  | _ => failInside "did not find expected '-' indicator" t

/-- Reads an item of a sequence at the column of the mapping around it. -/
def indentlessItem : Read Event := do
  let t ← peek
  match t.kind with
  | .blockEntry => do
    skip
    nodeUnless [.blockEntry, .key, .value, .blockEnd] false .indentlessItem t.stop
  | _ => do
    back
    pure ⟨.sequenceEnd, t.start⟩

/-- Reads a key of a mapping. -/
def blockKey : Read Event := do
  let t ← peek
  match t.kind with
  | .key => do
    skip
    nodeUnless [.key, .value, .blockEnd] true .blockMappingValue t.stop
  | .blockEnd => do
    back
    leave
    skip
    pure ⟨.mappingEnd, t.start⟩
  | _ => failInside "did not find expected key" t

/-- Reads a value of a mapping. -/
def blockValue : Read Event := do
  let t ← peek
  match t.kind with
  | .value => do
    skip
    nodeUnless [.key, .value, .blockEnd] true .blockMappingKey t.stop
  | _ => empty .blockMappingKey t.start

/-! ## Collections in brackets -/

/-- Looks at the first token of an item: a comma has to stand before every one but the first. -/
def flowNext (first : Bool) (closing : TokenKind) (problem : Text) : Read Token := do
  let t ← peek
  if t.kind == closing || first then pure t
  else if t.kind == .flowEntry then next
  else failInside problem t

/-- Ends a collection in brackets. -/
def flowEnd (kind : EventKind) (t : Token) : Read Event := do
  back
  leave
  skip
  pure ⟨kind, t.start⟩

/-- Reads an item of a sequence. -/
def flowItem (first : Bool) : Read Event := do
  let t ← flowNext first .flowSequenceEnd "did not find expected ',' or ']'"
  match t.kind with
  | .flowSequenceEnd => flowEnd .sequenceEnd t
  | .key => do
    expect .flowPairKey
    skip
    pure ⟨.mappingStart {}, t.start⟩
  | _ => do
    returnTo .flowSequenceItem
    node false false

/-- Reads the key of a mapping of one entry inside a sequence. -/
def flowPairKey : Read Event := do
  let t ← peek
  if [TokenKind.value, .flowEntry, .flowSequenceEnd].contains t.kind then do
    skip
    empty .flowPairValue t.stop
  else do
    returnTo .flowPairValue
    node false false

/-- Reads the value of such a mapping. -/
def flowPairValue : Read Event := do
  let t ← peek
  if t.kind == .value then do
    let u ← next
    if [TokenKind.flowEntry, .flowSequenceEnd].contains u.kind then empty .flowPairEnd t.start
    else do
      returnTo .flowPairEnd
      node false false
  else empty .flowPairEnd t.start

/-- Ends such a mapping. -/
def flowPairEnd : Read Event := do
  let t ← peek
  expect .flowSequenceItem
  pure ⟨.mappingEnd, t.start⟩

/-- Reads a key of a mapping. -/
def flowKey (first : Bool) : Read Event := do
  let t ← flowNext first .flowMappingEnd "did not find expected ',' or '\x7d'"
  match t.kind with
  | .flowMappingEnd => flowEnd .mappingEnd t
  | .key => do
    let u ← next
    if [TokenKind.value, .flowEntry, .flowMappingEnd].contains u.kind then empty .flowMappingValue u.start
    else do
      returnTo .flowMappingValue
      node false false
  | _ => do
    returnTo .flowMappingNoValue
    node false false

/-- Reads a value of a mapping. -/
def flowValue : Read Event := do
  let t ← peek
  if t.kind == .value then do
    let u ← next
    if [TokenKind.flowEntry, .flowMappingEnd].contains u.kind then empty .flowMappingKey u.start
    else do
      returnTo .flowMappingKey
      node false false
  else empty .flowMappingKey t.start

/-! ## The next event -/

/-- Reads the token that a collection starts with. -/
def opening : Read Unit := do
  let t ← peek
  enter t.start
  skip

/-- Reads what is expected. -/
def expectedEvent : Expected → Read Event
  | .streamStart => do
    let t ← peek
    expect .documentStart
    skip
    pure ⟨.streamStart, t.start⟩
  | .documentStart => documentStart
  | .documentContent => documentContent
  | .documentEnd => documentEnd
  | .blockNode => node true false
  | .blockSequenceStart => do
    opening
    blockItem
  | .blockSequenceItem => blockItem
  | .indentlessItem => indentlessItem
  | .blockMappingStart => do
    opening
    blockKey
  | .blockMappingKey => blockKey
  | .blockMappingValue => blockValue
  | .flowSequenceStart => do
    opening
    flowItem true
  | .flowSequenceItem => flowItem false
  | .flowPairKey => flowPairKey
  | .flowPairValue => flowPairValue
  | .flowPairEnd => flowPairEnd
  | .flowMappingStart => do
    opening
    flowKey true
  | .flowMappingKey => flowKey false
  | .flowMappingValue => flowValue
  | .flowMappingNoValue => do
    let t ← peek
    empty .flowMappingKey t.start
  | .nothing => pure ⟨.streamEnd, {}⟩

/-- Reads the next event. A flaw that was met while looking ahead for comments counts now. -/
def read : Read Event := do
  let e ← expectedEvent (← get).expected
  match (← get).scanner.cursor.refused with
  | some problem => throw { problem }
  | none => pure e

end Event

end Roster.Yaml
