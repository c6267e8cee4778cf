import SecretSync.Yaml.Fault
import SecretSync.Yaml.Node
import SecretSync.Yaml.Token

/-!
# Nodes of tokens

`Graph.ofTokens` reads the one document of a stream of tokens: directives, a node, and the marks
around them.  Collections are read by descent; what is left out is a blank scalar.  A fault of the
stream counts when the token that cannot be had is looked at.
-/

namespace SecretSync.Yaml.Node

/-- What is known while nodes are read. -/
structure Source where
  supply : Token.Supply
  /-- Short forms of tags. -/
  handles : List (String × String)
  /-- The places of the nodes that have a name. -/
  anchors : List (String × Place)
  graph : Graph
  /-- How many collections are open. -/
  depth : Nat

/-- Reading nodes. -/
abbrev Read := StateT Source (Except Fault)

namespace Read

/-- The next token; none at the end of the stream. -/
def next? : Read (Option Token) := do
  let s ← get
  match s.supply.tokens, s.supply.fault with
  | t :: _, _ => return some t
  | [], some fault => throw fault
  | [], none => return none

/-- Whether the next token is one of several. -/
def nextIs (ts : List Token) : Read Bool := return (← next?).any ts.contains

/-- Go on behind the next token. -/
def advance : Read Unit :=
  modify (fun s => { s with supply := { s.supply with tokens := s.supply.tokens.tail } })

/-- Go on behind the next token if it is the one given; whether it is. -/
def accept (t : Token) : Read Bool := do
  let found ← nextIs [t]
  if found then advance
  return found

/-- Go on behind the next token, which has to be the one given. -/
def expect (t : Token) : Read Unit := do
  if !(← accept t) then throw .malformed

/-- A new place, with a blank scalar. -/
def place : Read Place := do
  let s ← get
  let (p, graph) := s.graph.add blank
  set { s with graph := graph }
  return p

/-- Put a node at a place. -/
def fill (p : Place) (n : Node) : Read Unit :=
  modify (fun s => { s with graph := s.graph.replace p n })

/-- Put a node at a new place. -/
def add (n : Node) : Read Place := do
  let p ← place
  fill p n
  return p

/-- Read a collection inside those that are open. -/
def nested (r : Read α) : Read α := do
  let depth := (← get).depth
  if depth ≥ Token.maxDepth then throw .tooDeep
  modify (fun s => { s with depth := depth + 1 })
  let a ← r
  modify (fun s => { s with depth := depth })
  return a

end Read

/-- What is written in front of a node. -/
structure Properties where
  anchor : Option String
  /-- The tag as it is written out. -/
  tag : Option String

/-- The tag that a token gives. -/
def tagName (handle : Option String) (suffix : String) : Read String := do
  match handle with
  | none => return suffix
  | some handle =>
    match (← get).handles.lookup handle with
    | some front => return front ++ suffix
    | none => throw .malformed

/-- An anchor and a tag, in any order. -/
def properties : Read Properties := do
  match ← Read.next? with
  | some (.anchor name) =>
    Read.advance
    match ← Read.next? with
    | some (.tag handle suffix) =>
      Read.advance
      return ⟨some name, some (← tagName handle suffix)⟩
    | _ => return ⟨some name, none⟩
  | some (.tag handle suffix) =>
    Read.advance
    match ← Read.next? with
    | some (.anchor name) =>
      Read.advance
      return ⟨some name, some (← tagName handle suffix)⟩
    | _ => return ⟨none, some (← tagName handle suffix)⟩
  | _ => return ⟨none, none⟩

/-- The tag of a collection. -/
def collectionTag (default : Tag) (name : Option String) : Tag :=
  match name with
  | none => default
  | some name => if name == "!" then default else Tag.ofName name

/-- The tag of a scalar: without one, and behind a lone exclamation mark, the form of a plain
scalar tells its kind. -/
def scalarTag (plain : Bool) (name : Option String) (text : String) : Tag :=
  match name with
  | none => if plain then Tag.ofText text else .text
  | some name => if name == "!" then Tag.ofText text else Tag.ofName name

/-- Give a name to the node at a place. -/
def begin (anchor : Option String) (p : Place) : Read Unit :=
  match anchor with
  | none => return ()
  | some name => do
    if ((← get).anchors.lookup name).isSome then throw .malformed
    modify (fun s => { s with anchors := (name, p) :: s.anchors })

/-- The place of the node with a name. -/
def named (name : String) : Read Place := do
  match (← get).anchors.lookup name with
  | none => throw .malformed
  | some p => return p

/-- Where a node stands. -/
inductive Setting where
  /-- In a flow collection. -/
  | flow
  /-- In a block collection, or alone. -/
  | block
  /-- In a block mapping, where a sequence need not be indented. -/
  | blockEntry
  deriving DecidableEq

mutual
/-- A node. -/
def node (setting : Setting) : Nat → Read Place
  | 0 => throw .malformed
  | fuel + 1 => do
    match ← Read.next? with
    | some (.again name) =>
      Read.advance
      named name
    | _ =>
      let p ← properties
      let _ ← Read.next?
      let here ← Read.place
      begin p.anchor here
      Read.fill here (← content setting p fuel)
      return here

/-- What a node consists of. -/
def content (setting : Setting) (p : Properties) : Nat → Read Node
  | 0 => throw .malformed
  | fuel + 1 => do
    let sequenceTag := collectionTag .seq p.tag
    let mappingTag := collectionTag .map p.tag
    if setting = .blockEntry ∧ (← Read.nextIs [.blockEntry]) then
      return sequence sequenceTag (← Read.nested (openItems fuel))
    else
      match ← Read.next? with
      | some (.scalar plain text) =>
        Read.advance
        return scalar (scalarTag plain p.tag text) text
      | some .flowSequenceStart =>
        Read.advance
        return sequence sequenceTag (← Read.nested (flowItems true fuel))
      | some .flowMappingStart =>
        Read.advance
        return mapping mappingTag (← Read.nested (flowEntries true fuel))
      | some .blockSequenceStart =>
        if setting = .flow then throw .malformed
        Read.advance
        return sequence sequenceTag (← Read.nested (blockItems fuel))
      | some .blockMappingStart =>
        if setting = .flow then throw .malformed
        Read.advance
        return mapping mappingTag (← Read.nested (blockEntries fuel))
      | _ =>
        if p.anchor.isSome ∨ p.tag.isSome then return scalar (scalarTag true p.tag "") ""
        else throw .malformed

/-- A node, or a blank one in front of certain tokens. -/
def nodeUnless (ends : List Token) (setting : Setting) : Nat → Read Place
  | 0 => throw .malformed
  | fuel + 1 => do
    if ← Read.nextIs ends then Read.add blank else node setting fuel

/-- The items of a block sequence. -/
def blockItems : Nat → Read (List Place)
  | 0 => throw .malformed
  | fuel + 1 => do
    if ← Read.accept .blockEntry then
      let item ← nodeUnless [.blockEntry, .blockEnd] .block fuel
      return item :: (← blockItems fuel)
    else
      Read.expect .blockEnd
      return []

/-- The items of a sequence that is not indented; it ends where no item follows. -/
def openItems : Nat → Read (List Place)
  | 0 => throw .malformed
  | fuel + 1 => do
    if ← Read.accept .blockEntry then
      let item ← nodeUnless [.blockEntry, .key, .value, .blockEnd] .block fuel
      return item :: (← openItems fuel)
    else return []

/-- The entries of a block mapping. -/
def blockEntries : Nat → Read (List (Place × Place))
  | 0 => throw .malformed
  | fuel + 1 => do
    let ends : List Token := [.key, .value, .blockEnd]
    if ← Read.accept .key then
      let k ← nodeUnless ends .blockEntry fuel
      let v ← if ← Read.accept .value then nodeUnless ends .blockEntry fuel else Read.add blank
      return (k, v) :: (← blockEntries fuel)
    else
      Read.expect .blockEnd
      return []

/-- The entry of a mapping that is an item of a flow sequence, behind its key mark. -/
def flowPair : Nat → Read (Place × Place)
  | 0 => throw .malformed
  | fuel + 1 => do
    let k ← nodeUnless [.value, .flowEntry, .flowSequenceEnd] .flow fuel
    let v ← if ← Read.accept .value then nodeUnless [.flowEntry, .flowSequenceEnd] .flow fuel
      else Read.add blank
    return (k, v)

/-- The items of a flow sequence.  An entry with a key is a mapping of its own. -/
def flowItems (first : Bool) : Nat → Read (List Place)
  | 0 => throw .malformed
  | fuel + 1 => do
    if ← Read.accept .flowSequenceEnd then return []
    if !first then Read.expect .flowEntry
    if ← Read.accept .key then
      let entry ← Read.nested (flowPair fuel)
      let pair ← Read.add (mapping .map [entry])
      return pair :: (← flowItems false fuel)
    else if ← Read.accept .flowSequenceEnd then return []
    else
      let item ← node .flow fuel
      return item :: (← flowItems false fuel)

/-- The entries of a flow mapping.  An entry without a key mark has no value. -/
def flowEntries (first : Bool) : Nat → Read (List (Place × Place))
  | 0 => throw .malformed
  | fuel + 1 => do
    if ← Read.accept .flowMappingEnd then return []
    if !first then Read.expect .flowEntry
    if ← Read.accept .key then
      let k ← nodeUnless [.value, .flowEntry, .flowMappingEnd] .flow fuel
      let v ← if ← Read.accept .value then nodeUnless [.flowEntry, .flowMappingEnd] .flow fuel
        else Read.add blank
      return (k, v) :: (← flowEntries false fuel)
    else if ← Read.accept .flowMappingEnd then return []
    else
      let k ← node .flow fuel
      return (k, ← Read.add blank) :: (← flowEntries false fuel)
end

/-- The directives of a document: short forms of tags. -/
def directives (versioned : Bool) (handles : List (String × String)) :
    Nat → Read (List (String × String))
  | 0 => throw .malformed
  | fuel + 1 => do
    match ← Read.next? with
    | some (.version major) =>
      Read.advance
      if versioned || major != 1 then throw .malformed
      directives true handles fuel
    | some (.tagHandle handle front) =>
      Read.advance
      if (handles.lookup handle).isSome then throw .malformed
      directives versioned ((handle, front) :: handles) fuel
    | some .otherDirective =>
      Read.advance
      directives versioned handles fuel
    | _ => return handles

/-- The short forms of tags that need no directive. -/
def defaultHandles : List (String × String) := [("!", "!"), ("!!", Tag.front)]

/-- Whether a token is a directive or the mark in front of a document. -/
def startsDocument : Token → Bool
  | .version _ => true
  | .tagHandle _ _ => true
  | .otherDirective => true
  | .documentStart => true
  | _ => false

/-- The root of a document behind its mark, which may be left out. -/
def marked (fuel : Nat) : Read Place := do
  match ← Read.next? with
  | none => Read.add blank
  | some t =>
    if startsDocument t || t == .documentEnd then Read.add blank else node .block fuel

/-- Go on behind the marks that end a document. -/
def skipEnds : Nat → Read Unit
  | 0 => throw .malformed
  | fuel + 1 => do if ← Read.accept .documentEnd then skipEnds fuel

/-- The root of the one document of a stream; none if the stream is empty. -/
def document (fuel : Nat) : Read (Option Place) := do
  match ← Read.next? with
  | none => return none
  | some first =>
    let root ←
      if startsDocument first then do
        let handles ← directives false [] fuel
        Read.expect .documentStart
        modify (fun s => { s with handles := handles ++ defaultHandles })
        marked fuel
      else node .block fuel
    skipEnds fuel
    match ← Read.next? with
    | none => return some root
    | some _ =>
      let _ ← directives false [] fuel
      throw .malformed

end SecretSync.Yaml.Node

namespace SecretSync.Yaml

/-- The graph of the one document of a stream and the place of its root; none if the stream is
empty. -/
def Graph.ofTokens (supply : Token.Supply) : Except Fault (Option (Graph × Place)) := do
  let fuel := 3 * supply.tokens.length + 8
  let (root, source) ← (Node.document fuel).run ⟨supply, Node.defaultHandles, [], .empty, 0⟩
  return root.map (source.graph, ·)

end SecretSync.Yaml
