import Roster.Yaml.Node

/-!
# Values of a YAML document

What the nodes of a document stand for. A document of settings is a mapping at the top, and no mapping may
have the same key twice. A mapping can merge others in; what it says itself goes first.

Some errors are noted and reading goes on; others end it. Aliases are followed each time they are met, and
a document that consists of repetitions almost alone is refused.
-/

namespace Roster.Yaml

open Settings (Value Entries)

/-! ## Values in messages -/

/-- The names of the months. -/
def monthNames : List Text :=
  ["January", "February", "March", "April", "May", "June", "July", "August", "September", "October",
   "November", "December"]

/-- A moment in full detail. -/
def momentLiteral (t : Timestamp) : Text :=
  let d := t.date
  let s := t.secondOfDay
  let parts := [Text.decimalInt d.year, utf8 "time." ++ monthNames.getD (d.month - 1) [], Text.decimal d.day,
    Text.decimal (s / 3600), Text.decimal (s / 60 % 60), Text.decimal (s % 60), Text.decimal t.nanosecond,
    if t.offset == 0 then utf8 "time.UTC" else utf8 "time.Location(\"\")"]
  utf8 "time.Date(" ++ Text.join (utf8 ", ") parts ++ utf8 ")"

/-- A hexadecimal number without leading zeros. -/
def hexLiteral (n : Nat) : Text :=
  utf8 "0x" ++ (if n == 0 then utf8 "0" else (Text.hex 16 n).dropWhile (· == 48))

/-- A collection in full detail, given the details of its parts. -/
def collectionLiteral (v : Value) (parts : List Text) : Text :=
  v.typeName ++ utf8 "\x7b" ++ Text.join (utf8 ", ") parts ++ utf8 "\x7d"

/-- The parts of a table in full detail, by its keys. -/
def entryLiterals (entries : List (Text × Text × Text)) : List Text :=
  (entries.mergeSort fun a b => Text.le a.1 b.1).map fun (_, key, v) => key ++ Text.byte ':' :: v

mutual

/-- A value in full detail, with its type where that is not plain. -/
def literal : Value → Text
  | .null => "interface \x7b\x7d(nil)"
  | .int n type => if type == utf8 "uint64" then hexLiteral n.toNat else Text.decimalInt n
  | .text t => Text.quoted t
  | .time t => momentLiteral t
  | .list items => collectionLiteral (.list []) (literals items)
  | .table entries => collectionLiteral (.table []) (entryLiterals (namedLiterals entries))
  | .mixed entries => collectionLiteral (.mixed []) (entryLiterals (pairLiterals entries))
  | v => v.render

/-- Values in full detail. -/
def literals : List Value → List Text
  | [] => []
  | v :: rest => literal v :: literals rest

/-- Keys, and keys and values in full detail. -/
def namedLiterals : List (Text × Value) → List (Text × Text × Text)
  | [] => []
  | (key, v) :: rest => (key, Text.quoted key, literal v) :: namedLiterals rest

/-- The same for keys that are not all texts. -/
def pairLiterals : List (Value × Value) → List (Text × Text × Text)
  | [] => []
  | (key, v) :: rest => (key.render, literal key, literal v) :: pairLiterals rest

end

/-! ## Nodes -/

namespace Node

/-- The line of a node. -/
def line : Node → Nat
  | .scalar line _ _ | .sequence line _ _ | .mapping line _ _ | .alias line _ _ _ => line

/-- The text of a scalar, or the name that an alias gives. -/
def text : Node → Text
  | .scalar _ _ t => t
  | .alias _ name _ _ => name
  | _ => []

/-- Whether two keys are written alike; collections of one kind count as alike. -/
def isSameKey : Node → Node → Bool
  | .scalar _ _ a, .scalar _ _ b => a == b
  | .alias _ a _ _, .alias _ b _ _ => a == b
  | .sequence _ _ _, .sequence _ _ _ | .mapping _ _ _, .mapping _ _ _ => true
  | _, _ => false

/-- Whether a key asks for other mappings to be merged in. -/
def isMerge : Node → Bool
  | .scalar _ tag t => t == utf8 "<<" && tag == utf8 "!!merge"
  | _ => false

/-- Whether a node is a mapping. -/
def isMapping : Node → Bool
  | .mapping _ _ _ => true
  | _ => false

end Node

namespace Document

/-- The node that an alias repeats; any other node itself. -/
def target (d : Document) : Node → Node
  | .alias line name number anchor => (d.anchored.get? anchor).getD (.alias line name number anchor)
  | n => n

/-- The tag of a node, or of the node that an alias repeats. -/
def tag (d : Document) (n : Node) : Text :=
  match d.target n with
  | .scalar _ tag _ | .sequence _ tag _ | .mapping _ tag _ => tag
  | .alias _ _ _ _ => []

/-- Whether all keys of a mapping are texts. -/
def hasTextKeys (d : Document) (entries : List (Node × Node)) : Bool :=
  entries.all fun (k, _) => d.tag k == utf8 "!!str" || d.tag k == utf8 "!!merge"

end Document

/-- The errors of keys that are there twice. -/
def repeatedKeys : List Node → List Text
  | [] => []
  | k :: rest =>
    (rest.filter fun other => k.isSameKey other).map (fun other =>
      utf8 "line " ++ Text.decimal other.line ++ utf8 ": mapping key " ++ Text.quoted other.text
        ++ utf8 " already defined at line " ++ Text.decimal k.line)
      ++ repeatedKeys rest

/-! ## Progress -/

/-- How far decoding has come. -/
structure Progress where
  /-- How many nodes have been decoded, each as often as it was met. -/
  decoded : Nat := 0
  /-- How many of them in the course of a repetition. -/
  repeated : Nat := 0
  /-- The aliases that are being followed. -/
  active : List Nat := []
  /-- Keys that a merge may not set, if one is going on. -/
  settled : Option (List Value) := none
  /-- Errors that do not end the decoding, the latest first. -/
  errors : List Text := []

/-- The part of repetitions in a number of decoded nodes that is let through: nearly all of a small
document, less and less of a large one. -/
def allowedShare (decoded : Nat) : Float :=
  if decoded ≤ 400000 then 0.99
  else if decoded ≥ 4000000 then 0.10
  else 0.99 - 0.89 * ((decoded - 400000).toFloat / 3600000)

/-- Whether there are too many repetitions. -/
def Progress.isExcessive (p : Progress) : Bool :=
  p.repeated > 100 && p.decoded > 1000 && p.repeated.toFloat / p.decoded.toFloat > allowedShare p.decoded

/-- A computation on a document that notes errors and may fail altogether. -/
abbrev Decode := ReaderT Document (StateT Progress (Except ReadError))

namespace Decode

/-- Ends the decoding. -/
def fail {α : Type} (problem : Text) : Decode α := throw { problem }

/-- Notes an error. -/
def note (e : Text) : Decode Unit := modify fun p => { p with errors := e :: p.errors }

/-- Counts a node. -/
def count : Decode Unit := do
  modify fun p =>
    { p with decoded := p.decoded + 1, repeated := if p.active.isEmpty then p.repeated else p.repeated + 1 }
  if (← get).isExcessive then fail "document contains excessive aliasing"

/-- Decodes the node that an alias repeats. -/
def follow {α : Type} (name : Text) (number : Nat) (act : Decode α) : Decode α := do
  if (← get).active.contains number then fail (utf8 "anchor '" ++ name ++ utf8 "' value contains itself")
  modify fun p => { p with active := number :: p.active }
  let a ← act
  modify fun p => { p with active := p.active.erase number }
  pure a

/-- Notes the keys that are there twice; the answer is whether there are none. -/
def checkKeys (entries : List (Node × Node)) : Decode Bool := do
  let errors := repeatedKeys (entries.map Prod.fst)
  errors.forM note
  pure errors.isEmpty

end Decode

/-- What messages call a table at the top. -/
def topType : Text := (Value.table []).typeName

/-- The error of a node that does not fit: `tag` says what it is and `target` what is wanted. -/
def mismatch (line : Nat) (tag value target : Text) : Text :=
  let shown :=
    if tag == utf8 "!!seq" || tag == utf8 "!!map" then value
    else
      let value := if value.length > 10 then value.take 7 ++ utf8 "..." else value
      32 :: Text.backquote :: value ++ [Text.backquote]
  utf8 "line " ++ Text.decimal line ++ utf8 ": cannot unmarshal " ++ tag ++ shown ++ utf8 " into " ++ target

/-- Notes a node that does not fit. -/
def noteMismatch (n : Node) (target : Text) : Decode Unit := do
  Decode.note (mismatch n.line ((← read).tag n) n.text target)

/-! ## Tables -/

/-- A table that is being filled: under texts, or under values of any kind. -/
inductive Table where
  | named (entries : Entries)
  | mixed (entries : List (Value × Value))

namespace Table

/-- The value of a table. -/
def value : Table → Value
  | .named entries => .table entries
  | .mixed entries => .mixed entries

end Table

/-- Whether two values are the same as keys. -/
def isSameValue : Value → Value → Bool
  | .null, .null => true
  | .bool a, .bool b => a == b
  | .int a s, .int b t => a == b && s == t
  | .float a, .float b => a == b
  | .text a, .text b => a == b
  | .time a, .time b => a.instant == b.instant && a.offset == 0 && b.offset == 0
  | _, _ => false

/-- Puts an entry into a table in place of any with its key. -/
def Table.put : Table → Value → Value → Table
  | .named entries, .text key, v => .named (Settings.Entries.put entries key v)
  | .named entries, _, _ => .named entries
  | .mixed entries, key, v => .mixed (entries.filter (fun e => !isSameValue e.1 key) ++ [(key, v)])

/-- Whether a value cannot be a key. -/
def isCollection : Value → Bool
  | .list _ | .table _ | .mixed _ => true
  | _ => false

/-- The problem of a merge with something else than mappings. -/
def noMerge : Text := "map merge requires map or sequence of maps as the value"

mutual

/-- The value of a node, none if an error was noted instead. -/
def anyValue (fuel : Nat) (n : Node) : Decode (Option Value) := do
  match fuel with
  | 0 => pure none
  | fuel + 1 =>
    Decode.count
    match n with
    | .scalar _ tag t => return some (← (scalarValue tag t : Except ReadError Value))
    | .sequence _ _ items => do
      let values ← items.foldlM (fun values item => do
        match ← anyValue fuel item with
        | some v => pure (v :: values)
        | none => pure values) []
      pure (some (.list values.reverse))
    | .mapping _ _ entries => do
      if ← Decode.checkKeys entries then
        let blank := if (← read).hasTextKeys entries then Table.named [] else .mixed []
        return some (← fill fuel entries blank).value
      else pure none
    | .alias _ name number _ => do
      let target := (← read).target n
      Decode.follow name number (anyValue fuel target)

/-- The text of a node as a key, none if it has none. -/
def textKey (fuel : Nat) (n : Node) : Decode (Option Value) := do
  match fuel with
  | 0 => pure none
  | fuel + 1 =>
    Decode.count
    match n with
    | .scalar _ tag t => do
      match ← (scalarValue tag t : Except ReadError Value) with
      | .null => pure none
      | .text shown => pure (some (.text shown))
      | _ => pure (some (.text t))
    | .sequence _ _ _ => do
      noteMismatch n "string"
      pure none
    | .mapping _ _ entries => do
      if ← Decode.checkKeys entries then noteMismatch n "string"
      pure none
    | .alias _ name number _ => do
      let target := (← read).target n
      Decode.follow name number (textKey fuel target)

/-- Decodes a mapping into a table. -/
def into (fuel : Nat) (n : Node) (table : Table) : Decode Table := do
  match fuel with
  | 0 => pure table
  | fuel + 1 =>
    Decode.count
    match n with
    | .mapping _ _ entries => do
      if ← Decode.checkKeys entries then fill fuel entries table else pure table
    | .alias _ name number _ => do
      let target := (← read).target n
      Decode.follow name number (into fuel target table)
    | _ => pure table

/-- Decodes the entries of a mapping into a table: its own first, then those that it merges in. Keys that
a merge may not set are passed over. -/
def fill (fuel : Nat) (entries : List (Node × Node)) (table : Table) : Decode Table := do
  match fuel with
  | 0 => pure table
  | fuel + 1 =>
    let settled := (← get).settled
    modify fun p => { p with settled := none }
    let (table, settled, merged) ← entries.foldlM (fun (table, settled, merged) (k, v) => do
      if k.isMerge then pure (table, settled, some v)
      else
        match ← (match table with | .named _ => textKey fuel k | .mixed _ => anyValue fuel k) with
        | none => pure (table, settled, merged)
        | some key =>
          if (settled.getD []).any (isSameValue key) then pure (table, settled, merged)
          else do
            if isCollection key then Decode.fail (utf8 "invalid map key: " ++ literal key)
            let settled := settled.map (key :: ·)
            match ← anyValue fuel v with
            | some value => pure (table.put key value, settled, merged)
            | none => pure (table, settled, merged)) (table, settled, none)
    modify fun p => { p with settled }
    match merged with
    | some m => merge fuel entries m table
    | none => pure table

/-- Merges mappings into a table that the given entries have filled. -/
def merge (fuel : Nat) (own : List (Node × Node)) (m : Node) (table : Table) : Decode Table := do
  match fuel with
  | 0 => pure table
  | fuel + 1 =>
    let outermost := (← get).settled.isNone
    if outermost then
      let keys ← own.foldlM (fun keys (k, _) => do
        match ← anyValue fuel k with
        | some key => pure (key :: keys)
        | none => pure keys) []
      modify fun p => { p with settled := some keys }
    let isMapping := fun (d : Document) (n : Node) => (d.target n).isMapping
    let document ← read
    let table ←
      match m with
      | .sequence _ _ items =>
        items.foldlM (fun table item => do
          if !isMapping document item then Decode.fail noMerge
          into fuel item table) table
      | m => do
        if !isMapping document m then Decode.fail noMerge
        into fuel m table
    if outermost then modify fun p => { p with settled := none }
    pure table

end

/-- The table that a document stands for. -/
def topTable (fuel : Nat) (root : Node) : Decode Entries := do
  Decode.count
  match root with
  | .mapping _ _ _ | .alias _ _ _ _ => do
    match ← into fuel root (.named []) with
    | .named entries => pure entries
    | .mixed _ => pure []
  | .scalar _ tag t => do
    Decode.count
    match ← (scalarValue tag t : Except ReadError Value) with
    | .null => pure []
    | _ => do
      noteMismatch root topType
      pure []
  | .sequence _ _ _ => do
    Decode.count
    noteMismatch root topType
    pure []

/-- Reads the settings in a text; the error is its message. -/
def readSettings (t : Text) : Except Text Entries :=
  let result : Except ReadError (Entries × Progress) := do
    match ← Document.read t with
    | none => pure ([], {})
    | some d => ((topTable ((4 * t.length + 16) * (d.aliases + 2)) d.root).run d).run {}
  match result with
  | .error e => .error e.message
  | .ok (entries, p) =>
    if p.errors.isEmpty then .ok entries
    else .error (utf8 "yaml: unmarshal errors:\n  " ++ Text.join (utf8 "\n  ") p.errors.reverse)

end Roster.Yaml
