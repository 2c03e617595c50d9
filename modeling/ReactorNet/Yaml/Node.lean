import ReactorNet.Yaml.Token

/-!
# `ReactorNet.Yaml.Node` · the nodes of a YAML document

The tree a document consists of. Scalars keep their spelling and tag, because what a scalar stands
for is decided by whoever asks for it; aliases are leaves that name an anchor by number, so a node
may contain itself and the tree is finite all the same.

**Which node an alias refers to.** Anchors are numbered while the document is read, and an alias
gets the number its name has at that place. The number of a new anchor is the count of distinct
names met before it, and a name that is anchored again takes a fresh number in the same way. If two
anchors have got one number, the later one counts.
-/

namespace ReactorNet.Yaml

/-- What a node carries besides its content. -/
structure Mark where
  /-- The number of its anchor. -/
  anchor : Option Nat := none
  /-- Its tag, with the handle expanded. -/
  tag : Option String := none
deriving Repr

/-- A node of a document. -/
inductive Node where
  /-- A scalar. -/
  | scalar (mark : Mark) (style : ScalarStyle) (text : String)
  /-- A sequence. -/
  | sequence (mark : Mark) (items : List Node)
  /-- A mapping, its entries in the order of the text. -/
  | mapping (mark : Mark) (entries : List (Node × Node))
  /-- A reference to an anchor. -/
  | alias (anchor : Nat)

instance : Inhabited Node := ⟨.alias 0⟩

namespace Node

/-- The scalar that stands where a node was left out. -/
def empty (mark : Mark) : Node := .scalar mark .plain ""

mutual

/-- The anchored nodes inside a node, in the order in which they start. -/
def anchored : Node → List (Nat × Node)
  | .scalar mark style text =>
    match mark.anchor with
    | some id => [(id, .scalar mark style text)]
    | none => []
  | .sequence mark items =>
    match mark.anchor with
    | some id => (id, .sequence mark items) :: anchoredItems items
    | none => anchoredItems items
  | .mapping mark entries =>
    match mark.anchor with
    | some id => (id, .mapping mark entries) :: anchoredEntries entries
    | none => anchoredEntries entries
  | .alias _ => []

/-- The anchored nodes inside the items of a sequence. -/
def anchoredItems : List Node → List (Nat × Node)
  | [] => []
  | n :: ns => anchored n ++ anchoredItems ns

/-- The anchored nodes inside the entries of a mapping. -/
def anchoredEntries : List (Node × Node) → List (Nat × Node)
  | [] => []
  | (k, v) :: es => anchored k ++ (anchored v ++ anchoredEntries es)

end

mutual

/-- The size of a node: one for a leaf, two for a collection besides its content. -/
def size : Node → Nat
  | .scalar .. => 1
  | .sequence _ items => 2 + sizeItems items
  | .mapping _ entries => 2 + sizeEntries entries
  | .alias _ => 1

/-- The size of the items of a sequence. -/
def sizeItems : List Node → Nat
  | [] => 0
  | n :: ns => size n + sizeItems ns

/-- The size of the entries of a mapping. -/
def sizeEntries : List (Node × Node) → Nat
  | [] => 0
  | (k, v) :: es => size k + size v + sizeEntries es

end

end Node

/-- A document: its root, and the node each anchor number refers to. -/
structure Document where
  /-- The outermost node. -/
  root : Node
  /-- The anchored nodes, the later of two with one number first. -/
  anchors : List (Nat × Node)

/-- The node an anchor number refers to. -/
def Document.anchor? (d : Document) (id : Nat) : Option Node :=
  (d.anchors.find? fun a => a.1 == id).map (·.2)

/-- A document with the given root. -/
def Document.ofRoot (root : Node) : Document := ⟨root, root.anchored.reverse⟩

end ReactorNet.Yaml
