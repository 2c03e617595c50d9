import ReactorNet.Yaml.Node

/-!
# `ReactorNet.Yaml.Document` · reading a YAML document

The grammar over the tokens of a text: nodes, block and flow collections, single pairs inside
brackets, directives and markers. A text is accepted when it consists of exactly one document.

**The recursion.** Every function of the grammar takes a bound on the nesting of its calls. A
function that reads no token itself is called from one that did, so twice the number of tokens,
with room for the ends, is always enough.
-/

namespace ReactorNet.Yaml

/-- The state of the reader: the tokens that are left, and the names declared so far. -/
structure Reading where
  /-- The tokens still to be read. -/
  tokens : List Token
  /-- The declared tag handles and their expansions. -/
  handles : List (String × String) := []
  /-- The anchors met so far and their numbers. -/
  names : List (String × Nat) := []

/-- A part of the grammar: it consumes tokens or finds a fault. -/
abbrev Reads (α : Type) := StateT Reading (Except Fault) α

namespace Reading

/-- The next token. -/
def peek : Reads (Option Token) := do return (← get).tokens.head?

/-- Drop the next token. -/
def drop : Reads Unit := modify fun s => { s with tokens := s.tokens.tail }

/-- Give up. -/
def fail {α : Type} (fault : Fault) : Reads α := throw fault

/-- Number a new anchor. -/
def nameAnchor (name : String) : Reads Nat := do
  let s ← get
  let id := s.names.length
  let others := s.names.filter fun n => n.1 != name
  set { s with names := (name, id) :: others }
  return id

/-- The full tag written by a handle and a suffix. -/
def expandTag (handle suffix : String) : Reads String := do
  if handle.isEmpty then return suffix
  match (← get).handles.find? fun h => h.1 == handle with
  | some (_, expansion) => return expansion ++ suffix
  | none => fail .malformedTag

/-- Read the anchor and the tag in front of a node, in either order. -/
def mark : Reads Mark := do
  match ← peek with
  | some (.anchor name) =>
    drop
    let id ← nameAnchor name
    match ← peek with
    | some (.tag handle suffix) => drop; return ⟨some id, some (← expandTag handle suffix)⟩
    | _ => return ⟨some id, none⟩
  | some (.tag handle suffix) =>
    drop
    match ← peek with
    | some (.anchor name) =>
      drop
      let tag ← expandTag handle suffix
      return ⟨some (← nameAnchor name), some tag⟩
    | _ => return ⟨none, some (← expandTag handle suffix)⟩
  | _ => return {}

/-- Where a node may stand. -/
inductive Position where
  /-- Inside a flow collection. -/
  | inFlow
  /-- As an entry of a block sequence, or at the top. -/
  | inBlock
  /-- As a key or value of a block mapping, where a sequence needs no further indentation. -/
  | inMapping
deriving DecidableEq

/-- The tokens behind which a value or entry is left out. -/
def endsMappingPart : Option Token → Bool
  | some .key | some .value | some .blockEnd => true
  | _ => false

mutual

/-- Read a node. -/
def node : Nat → Position → Reads Node
  | 0, _ => fail .incompleteNode
  | fuel + 1, position => do
    match ← peek with
    | some (.alias name) =>
      drop
      match (← get).names.find? fun n => n.1 == name with
      | some (_, id) => return .alias id
      | none => fail .unknownAnchor
    | _ =>
      let mark ← mark
      match ← peek with
      | some (.scalar style text) =>
        drop
        let tag := if mark.tag == some "!" then none else mark.tag
        return .scalar ⟨mark.anchor, tag⟩ style text
      | some .flowSequence => drop; return .sequence mark (← flowItems fuel true)
      | some .flowMapping => drop; return .mapping mark (← flowEntries fuel true)
      | other =>
        match position, other with
        | .inMapping, some .entry => return .sequence mark (← hangingItems fuel)
        | .inMapping, some .blockSequence
        | .inBlock, some .blockSequence => drop; return .sequence mark (← blockItems fuel)
        | .inMapping, some .blockMapping
        | .inBlock, some .blockMapping => drop; return .mapping mark (← blockEntries fuel)
        | _, _ =>
          if mark.anchor.isSome || mark.tag.isSome then return .empty mark
          else fail .incompleteNode

/-- Read the entries of a block sequence up to its end. -/
def blockItems : Nat → Reads (List Node)
  | 0 => fail .incompleteNode
  | fuel + 1 => do
    match ← peek with
    | some .entry =>
      drop
      let item ← match ← peek with
        | some .entry | some .blockEnd => pure (Node.empty {})
        | _ => node fuel .inBlock
      return item :: (← blockItems fuel)
    | some .blockEnd => drop; return []
    | _ => fail .incompleteNode

/-- Read the entries of a sequence that stands in a mapping without further indentation. -/
def hangingItems : Nat → Reads (List Node)
  | 0 => fail .incompleteNode
  | fuel + 1 => do
    match ← peek with
    | some .entry =>
      drop
      let next ← peek
      let item ←
        if next == some .entry || endsMappingPart next then pure (Node.empty {})
        else node fuel .inBlock
      return item :: (← hangingItems fuel)
    | _ => return []

/-- Read the entries of a block mapping up to its end. -/
def blockEntries : Nat → Reads (List (Node × Node))
  | 0 => fail .incompleteNode
  | fuel + 1 => do
    match ← peek with
    | some .key =>
      drop
      let key ← if endsMappingPart (← peek) then pure (Node.empty {}) else node fuel .inMapping
      let value ← match ← peek with
        | some .value => do
          drop
          if endsMappingPart (← peek) then pure (Node.empty {}) else node fuel .inMapping
        | _ => pure (Node.empty {})
      return (key, value) :: (← blockEntries fuel)
    | some .blockEnd => drop; return []
    | _ => fail .incompleteNode

/-- Read the entries of a flow sequence up to its bracket. -/
def flowItems : Nat → Bool → Reads (List Node)
  | 0, _ => fail .incompleteNode
  | fuel + 1, first => do
    if (← peek) == some .flowSequenceEnd then drop; return []
    if !first then
      if (← peek) == some .comma then drop else fail .incompleteNode
    match ← peek with
    | some .flowSequenceEnd => drop; return []
    | some .key =>
      drop
      let pair ← singlePair fuel
      return .mapping {} [pair] :: (← flowItems fuel false)
    | _ =>
      let item ← node fuel .inFlow
      return item :: (← flowItems fuel false)

/-- Read the one pair of a mapping that stands in a flow sequence without braces. A token that
leaves no room for the key is dropped. -/
def singlePair : Nat → Reads (Node × Node)
  | 0 => fail .incompleteNode
  | fuel + 1 => do
    let key ← match ← peek with
      | some .value | some .comma | some .flowSequenceEnd => do drop; pure (Node.empty {})
      | _ => node fuel .inFlow
    let value ← match ← peek with
      | some .value => do
        drop
        match ← peek with
        | some .comma | some .flowSequenceEnd => pure (Node.empty {})
        | _ => node fuel .inFlow
      | _ => pure (Node.empty {})
    return (key, value)

/-- Read the entries of a flow mapping up to its brace. -/
def flowEntries : Nat → Bool → Reads (List (Node × Node))
  | 0, _ => fail .incompleteNode
  | fuel + 1, first => do
    if (← peek) == some .flowMappingEnd then drop; return []
    if !first then
      if (← peek) == some .comma then drop else fail .incompleteNode
    match ← peek with
    | some .flowMappingEnd => drop; return []
    | some .key =>
      drop
      let key ← match ← peek with
        | some .value | some .comma | some .flowMappingEnd => pure (Node.empty {})
        | _ => node fuel .inFlow
      let value ← match ← peek with
        | some .value => do
          drop
          match ← peek with
          | some .comma | some .flowMappingEnd => pure (Node.empty {})
          | _ => node fuel .inFlow
        | _ => pure (Node.empty {})
      return (key, value) :: (← flowEntries fuel false)
    | _ =>
      let key ← node fuel .inFlow
      return (key, .empty {}) :: (← flowEntries fuel false)

end

/-- Read the directives in front of a document. One version directive, of version 1.1 or 1.2, and
one directive for each handle may stand there. -/
def directives : Nat → Bool → Reads Unit
  | 0, _ => return
  | fuel + 1, versioned => do
    match ← peek with
    | some (.version major minor) =>
      drop
      if versioned || major != 1 || (minor != 1 && minor != 2) then fail .malformedDirective
      directives fuel true
    | some (.handle name expansion) =>
      drop
      if (← get).handles.any fun h => h.1 == name then fail .malformedDirective
      modify fun s => { s with handles := (name, expansion) :: s.handles }
      directives fuel versioned
    | _ => return

/-- The tag handles that need no declaration. -/
def standardHandles : List (String × String) := [("!", "!"), ("!!", "tag:yaml.org,2002:")]

/-- Read a document that opens with directives or a marker, behind them. -/
def markedDocument (fuel : Nat) : Reads Node := do
  match ← peek with
  | none | some (.version ..) | some (.handle ..) | some .documentStart | some .documentEnd =>
    return .empty {}
  | _ => node fuel .inBlock

/-- Read the one document of a text. -/
def document (fuel : Nat) : Reads Node := do
  let opensMarked := match ← peek with
    | some (.version ..) | some (.handle ..) | some .documentStart => true
    | _ => false
  if (← peek).isNone then fail .noDocument
  directives fuel false
  modify fun s => { s with handles := s.handles ++ standardHandles }
  let root ←
    if opensMarked then do
      if (← peek) == some .documentStart then drop else fail .incompleteNode
      markedDocument fuel
    else node fuel .inBlock
  modify fun s => { s with tokens := s.tokens.dropWhile (· == .documentEnd) }
  if (← peek).isSome then fail .severalDocuments
  return root

end Reading

/-- Read a text that consists of one document. -/
def Document.read? (text : String) : Except Fault Document := do
  let tokens ← Token.ofText? text
  let fuel := 2 * tokens.length + 8
  let (root, _) ← (Reading.document fuel).run { tokens }
  return .ofRoot root

end ReactorNet.Yaml
