import Roster.Yaml.Event
import Roster.Yaml.Resolve

/-!
# The tree of a YAML document

A document is a tree of scalars, sequences and mappings. Only the first document of a text counts. A node
may carry a tag that says what it is, and an anchor by which later places can repeat it.
-/

namespace Roster.Yaml

/-- A node of a document, with the line it starts on, counted from one, and its tag in short form. -/
inductive Node where
  | scalar (line : Nat) (tag value : Text)
  | sequence (line : Nat) (tag : Text) (items : List Node)
  | mapping (line : Nat) (tag : Text) (entries : List (Node × Node))
  /-- A repetition of the node with an anchor. Aliases are numbered, and so are anchors. -/
  | alias (line : Nat) (name : Text) (number anchor : Nat)
deriving Repr, Inhabited

/-- A document: its topmost node, the nodes with anchors by their number, and how many aliases it has. -/
structure Document where
  root : Node
  anchored : Std.HashMap Nat Node
  aliases : Nat

/-- The short form of a tag. -/
def shortTag (t : Text) : Text :=
  match Text.strip? "tag:yaml.org,2002:" t with
  | some name => utf8 "!!" ++ name
  | none => t

/-- Whether a tag says anything. -/
def isTelling (tag : Text) : Bool := !tag.isEmpty && tag != utf8 "!"

/-- The tag of a scalar: the given one, or one that follows from its form. -/
def scalarTag (given : Text) (plain : Bool) (value : Text) : Text :=
  if isTelling given then shortTag given
  else if !plain then "!!str"
  else if value == utf8 "<<" then "!!merge"
  else (resolvePlain true value).tag

/-- The tag of a collection: the given one, or that of its kind. -/
def collectionTag (given kind : Text) : Text := if isTelling given then shortTag given else kind

namespace Document

/-- A collection that is being put together; the last of its nodes comes first. -/
structure Frame where
  mapping : Bool
  line : Nat
  tag : Text
  /-- The number of its anchor. -/
  anchor : Option Nat
  nodes : List Node := []

/-- A document that is being put together. -/
structure Draft where
  frames : List Frame := []
  root : Option Node := none
  /-- Anchors and their numbers, the latest first. -/
  anchors : List (Text × Nat) := []
  anchored : Std.HashMap Nat Node := {}
  aliases : Nat := 0

/-- Keys and values in turn, the last value first, as entries in front of others. -/
def pairUp : List Node → List (Node × Node) → List (Node × Node)
  | v :: k :: rest, entries => pairUp rest ((k, v) :: entries)
  | _, entries => entries

/-- The node that a finished frame stands for. -/
def Frame.node (f : Frame) : Node :=
  if f.mapping then .mapping f.line f.tag (pairUp f.nodes []) else .sequence f.line f.tag f.nodes.reverse

namespace Draft

/-- Declares an anchor, unless it is empty. -/
def declare (d : Draft) (name : Text) : Option Nat × Draft :=
  if name.isEmpty then (none, d)
  else (some d.anchors.length, { d with anchors := (name, d.anchors.length) :: d.anchors })

/-- Keeps a node under the number of its anchor. -/
def keep (d : Draft) (anchor : Option Nat) (n : Node) : Draft :=
  match anchor with
  | some i => { d with anchored := d.anchored.insert i n }
  | none => d

/-- Adds a node to the innermost collection, or puts it at the top. -/
def add (d : Draft) (n : Node) : Draft :=
  match d.frames with
  | f :: rest => { d with frames := { f with nodes := n :: f.nodes } :: rest }
  | [] => { d with root := some n }

/-- Starts a collection. -/
def start (d : Draft) (mapping : Bool) (kind : Text) (line : Nat) (p : Properties) : Draft :=
  let (anchor, d) := d.declare p.anchor
  { d with frames := { mapping, line, tag := collectionTag p.tag kind, anchor } :: d.frames }

/-- Ends the innermost collection. -/
def finish (d : Draft) : Draft :=
  match d.frames with
  | f :: rest =>
    let n := f.node
    ({ d with frames := rest }.keep f.anchor n).add n
  | [] => d

/-- Adds what an event stands for. -/
def apply (d : Draft) (e : Event) : Except ReadError Draft :=
  let line := e.start.line + 1
  match e.kind with
  | .alias name =>
    match d.anchors.lookup name with
    | some anchor => .ok ({ d with aliases := d.aliases + 1 }.add (.alias line name d.aliases anchor))
    | none => .error { problem := utf8 "unknown anchor '" ++ name ++ utf8 "' referenced" }
  | .scalar p plain value =>
    let n := Node.scalar line (scalarTag p.tag plain value) value
    let (anchor, d) := d.declare p.anchor
    .ok ((d.keep anchor n).add n)
  | .sequenceStart p => .ok (d.start false "!!seq" line p)
  | .mappingStart p => .ok (d.start true "!!map" line p)
  | .sequenceEnd | .mappingEnd => .ok d.finish
  | _ => .ok d

end Draft

/-- Puts a document together from events, if there is one. -/
def ofEvents : Nat → Draft → Event.Read (Option Document)
  | 0, _ => pure none
  | fuel + 1, d => do
    let e ← Event.read
    match e.kind with
    | .streamEnd => pure none
    | .documentEnd =>
      pure (d.root.map fun root => { root, anchored := d.anchored, aliases := d.aliases })
    | _ => do
      let d ← (d.apply e : Except ReadError Draft)
      ofEvents fuel d

/-- The first document of a text, if there is one. -/
def read (t : Text) : Except ReadError (Option Document) :=
  (ofEvents (16 * t.length + 64) {}).run' { scanner := { cursor := Cursor.start t } }

end Document

end Roster.Yaml
