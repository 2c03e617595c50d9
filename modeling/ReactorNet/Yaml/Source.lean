import ReactorNet.Yaml.Resolution
import ReactorNet.Yaml.Document
import ReactorNet.Schema.Format

/-!
# `ReactorNet.Yaml.Source` · reading a schema from a YAML document

`Yaml.format` collects the answers that the nodes of a document give. Most scalars have no type of
their own: the same spelling is a number where a number is wanted and a text where a text is wanted.
Only inside a tagged union must every scalar be typed before it is known what is wanted, and
`settleNode` does that.

**Two limits.** Collections nest 128 deep at most, and typing a tagged union follows at most a
hundred aliases for every event of the document; so a document that contains itself is refused.
-/

namespace ReactorNet.Yaml

open ReactorNet.Schema

/-- A node to be read, in its document, and how many levels of collections may still be entered. -/
structure Source where
  /-- The document. -/
  document : Document
  /-- The node. -/
  node : Node
  /-- The levels that are left. -/
  depth : Nat

namespace Source

/-- The deepest nesting of collections. -/
def maxDepth : Nat := 128

/-- The root of a document. -/
def ofDocument (d : Document) : Source := ⟨d, d.root, maxDepth⟩

/-- The node itself, or the one that an alias refers to. -/
def target? (s : Source) : Option Node :=
  match s.node with
  | .alias id => s.document.anchor? id
  | n => some n

/-- The same document at another node, one level deeper. -/
def inner (s : Source) (n : Node) : Source := ⟨s.document, n, s.depth - 1⟩

/-- The text of a scalar that may be given the type of the core schema with the given name: a plain
one, or a literal block that carries just that tag. -/
def typedText? (s : Source) (type : String) : Option String :=
  match s.target? with
  | some (.scalar _ .plain text) => some text
  | some (.scalar mark .literal text) => if mark.tag == some (coreTag type) then some text else none
  | _ => none

/-- The text of any scalar. -/
def text? (s : Source) : Option String :=
  match s.target? with
  | some (.scalar _ _ text) => some text
  | _ => none

/-- An optional part: absent if a plain scalar is empty or stands for nothing. -/
def optional? (s : Source) : Option (Option Source) :=
  match s.target? with
  | some (.scalar mark .plain text) =>
    match mark.tag with
    | some tag =>
      if tag == coreTag "null" then if isNull text then some none else none else some (some s)
    | none => some (if text.isEmpty || isNull text then none else some s)
  | _ => some (some s)

/-- The items of a sequence; a scalar that was left out is a list without items. -/
def list? (s : Source) : Option (List Source) :=
  match s.target? with
  | some (.sequence _ items) => if s.depth == 0 then none else some (items.map s.inner)
  | some (.scalar _ .plain "") => some []
  | _ => none

/-- The fields of a mapping or a sequence; a scalar that was left out is a record without
entries. -/
def record? (s : Source) : Option (Fields Source) :=
  match s.target? with
  | some (.mapping _ entries) =>
    if s.depth == 0 then none
    else (entries.mapM fun e => ((s.inner e.1).text?).map fun k => (.name k, s.inner e.2)).map .named
  | some (.sequence _ items) =>
    if s.depth == 0 then none else some (.listed true (items.map s.inner))
  | some (.scalar _ .plain "") => some (.named [])
  | _ => none

/-- The variant a scalar names, by a local tag if it has one and otherwise by its text. -/
def variant? (s : Source) : Option Key :=
  match s.target? with
  | some (.scalar mark style text) =>
    match localTag? mark with
    | some name => if style == .plain && (text.isEmpty || isNull text) then some (.name name) else none
    | none => some (.name text)
  | _ => none

/-- The type a whole number takes on its own: it has to fit a word of 64 bits. -/
def settleInteger (n : Int) : Option Datum :=
  if -(Nat.pow 2 63 : Int) ≤ n && n < (Nat.pow 2 64 : Int) then some (.int n) else none

/-- Whether a whole number fits a word of 128 bits. Larger ones are no whole numbers. -/
def fitsWide (n : Int) : Bool := -(Nat.pow 2 127 : Int) ≤ n && n < (Nat.pow 2 128 : Int)

/-- The value of a plain scalar without a tag. -/
def settlePlain (text : String) : Option Datum :=
  if text.isEmpty || isNull text then some .null
  else
    match truth? text with
    | some b => some (.bool b)
    | none =>
      match (integer? text).filter fitsWide with
      | some n => settleInteger n
      | none =>
        match untypedDouble? text with
        | some x => some (.float x)
        | none => some (.text text)

/-- The value of a scalar. A local tag admits no type at all. -/
def settleScalar (mark : Mark) (style : ScalarStyle) (text : String) : Option Datum :=
  match localTag? mark, mark.tag with
  | some _, _ => none
  | none, some tag =>
    if tag == coreTag "bool" then (truth? text).map .bool
    else if tag == coreTag "int" then ((integer? text).filter fitsWide).bind settleInteger
    else if tag == coreTag "float" then (double? text).map .float
    else if tag == coreTag "null" then if isNull text then some .null else none
    else some (.text text)
  | none, none => if style == .plain then settlePlain text else some (.text text)

/-- Follow an alias, unless as many were followed as the document admits. -/
def follow (d : Document) (n : Node) : StateT Nat Option Node :=
  match n with
  | .alias id => do
    match ← get with
    | 0 => failure
    | jumps + 1 => set jumps; (d.anchor? id : Option Node)
  | n => pure n

/-- The typed value of a node, entering at most `depth` levels of collections. The state counts how
many aliases may still be followed. -/
def settleNode (d : Document) : (depth : Nat) → Node → StateT Nat Option Datum
  | 0, n => do
    match ← follow d n with
    | .scalar mark style text => (settleScalar mark style text : Option Datum)
    | _ => failure
  | depth + 1, n => do
    match ← follow d n with
    | .scalar mark style text => (settleScalar mark style text : Option Datum)
    | .sequence mark items =>
      if (localTag? mark).isSome then failure
      return .list (← items.mapM (settleNode d depth))
    | .mapping mark entries =>
      if (localTag? mark).isSome then failure
      return .map (← entries.mapM fun e =>
        return (← settleNode d depth e.1, ← settleNode d depth e.2))
    | .alias _ => failure

/-- Whether a node is the key with the given text, as a typed value. -/
def isKey (s : Source) (name : String) (n : Node) : Bool :=
  match (s.inner n).target? with
  | some (.scalar mark style text) =>
    match settleScalar mark style text with
    | some (.text t) => t == name
    | _ => false
  | _ => false

/-- Type everything in a list of entries but the values of the tag, which are any scalar. -/
def settleEntries (s : Source) (tag : String) (entries : List (Node × Node)) :
    StateT Nat Option (List (Datum × Datum)) :=
  entries.mapM fun e => do
    let key ← settleNode s.document (s.depth - 1) e.1
    if s.isKey tag e.1 then
      let value ← follow s.document e.2
      match value with
      | .scalar _ _ text => return (key, .text text)
      | _ => failure
    else return (key, ← settleNode s.document (s.depth - 1) e.2)

/-- The tag and the content of a tagged union. -/
def tagged? (tag : String) (s : Source) : Option (String × Datum) := do
  if s.depth == 0 then none
  let jumps := 100 * s.document.root.size
  match ← s.target? with
  | .mapping mark entries =>
    if (localTag? mark).isSome then none
    let (entries, _) ← (s.settleEntries tag entries).run jumps
    match entries.filter fun e => isTagKey e.1 with
    | [(_, .text variant)] => some (variant, .map (entries.filter fun e => !isTagKey e.1))
    | _ => none
  | .sequence mark items =>
    if (localTag? mark).isSome then none
    match items with
    | [] => none
    | first :: rest =>
      let variant ← (s.inner first).text?
      let (content, _) ← (rest.mapM (settleNode s.document (s.depth - 1))).run jumps
      some (variant, .list content)
  | _ => none
where
  /-- Whether a typed key is the tag. -/
  isTagKey : Datum → Bool
    | .text t => t == tag
    | _ => false

end Source

/-- How the nodes of a document fit the parts of a schema. -/
def format : Format Source where
  bool? s := (s.typedText? "bool").bind truth?
  nat? s := (s.typedText? "int").bind natural?
  int? s := (s.typedText? "int").bind integer?
  float? s := (s.typedText? "float").bind double?
  text? := Source.text?
  optional? := Source.optional?
  list? := Source.list?
  record? := Source.record?
  variant? := Source.variant?
  tagged? := Source.tagged?

end ReactorNet.Yaml
