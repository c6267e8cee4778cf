import SecretSync.Yaml.Merge
import SecretSync.Yaml.Node.Reader
import SecretSync.Yaml.Scalar.Value
import SecretSync.Yaml.Token.Reader

/-!
# Values of documents

`Value.ofText` reads a document and makes its value.  The nodes are looked at level by level from
the root, each once, and the first that has no value is reported.  A mapping holds the entries
that are merged into it in front of its own, and of equal keys the last one counts.
-/

namespace SecretSync.Yaml

namespace Tag

/-- Whether a kind is one of collections. -/
def isCollection (tag : Tag) : Bool := [seq, map, set, orderedMap, pairs].contains tag

end Tag

namespace Graph

/-- The text that stands for a node: its own, or that of the value that stands for a mapping.  A
mapping that stands for itself has none. -/
def text (g : Graph) : Nat → Place → Except Fault String
  | 0, _ => .error .tooDeep
  | fuel + 1, p =>
    match g.node p with
    | .scalar _ s => .ok s
    | .sequence _ _ => .error .malformed
    | .mapping _ entries =>
      match entries.find? (fun e => g.tag e.1 = .value) with
      | some e => g.text fuel e.2
      | none => .error .malformed

/-- The value of a node whose kind is not one of collections. -/
def plainValue (g : Graph) (p : Place) : Except Fault Value := do
  let s ← g.text (g.size + 1) p
  match g.node p with
  | .mapping .timestamp _ => throw .noText
  | n => Scalar.value n.tag s

end Graph

/-- How far a document has been looked at. -/
structure Survey where
  graph : Graph
  /-- The places that have been met. -/
  met : Array Bool
  /-- The collections whose nodes are to be looked at, the last one first. -/
  waiting : List Place

namespace Survey

/-- Looking at nodes ends with the first fault. -/
abbrev Look := StateT Survey (Except Fault)

/-- Look at a node that is met: a collection waits for its turn, and any other one needs a value. -/
def meet (p : Place) : Look Unit := do
  let s ← get
  if s.met.getD p true then return ()
  else
    let s := { s with met := s.met.setIfInBounds p true }
    if (s.graph.tag p).isCollection then set { s with waiting := p :: s.waiting }
    else
      match s.graph.plainValue p with
      | .ok _ => set s
      | .error fault => throw fault

/-- Look at the nodes of an entry; no collection is a key. -/
def meetEntry (entry : Place × Place) : Look Unit := do
  meet entry.1
  if ((← get).graph.tag entry.1).isCollection then throw .malformed
  meet entry.2

/-- Look at the nodes of a pair, which is a mapping with one entry. -/
def meetPair (p : Place) : Look Unit := do
  match (← get).graph.node p with
  | .mapping _ [(key, value)] =>
    meet key
    meet value
  | _ => throw .malformed

/-- Merge what is to be merged into a mapping. -/
def merge (p : Place) : Look Unit := do
  let s ← get
  let ((), graph) ← StateT.lift ((Merge.flatten (s.graph.size + 1) p).run s.graph)
  set { s with graph := graph }

/-- Look at the nodes of a collection. -/
def enter (p : Place) : Look Unit := do
  match (← get).graph.node p with
  | .sequence .seq items => items.forM meet
  | .sequence .orderedMap items => items.forM meetPair
  | .sequence .pairs items => items.forM meetPair
  | .mapping .map _ => do
    merge p
    ((← get).graph.entries p).forM meetEntry
  | .mapping .set _ => do
    merge p
    ((← get).graph.entries p).forM meetEntry
  | _ => throw .malformed

/-- Look at the collections of one level, and then at those of the next ones. -/
def levels : Nat → Look Unit
  | 0 => return ()
  | fuel + 1 => do
    let s ← get
    if s.waiting.isEmpty then return ()
    set { s with waiting := [] }
    s.waiting.reverse.forM enter
    levels fuel

/-- The graph of a document with everything merged, if all its nodes have values. -/
def run (g : Graph) (root : Place) : Except Fault Graph := do
  let look : Look Unit := do
    meet root
    levels (g.size + 1)
  let ((), s) ← look.run ⟨g, Array.replicate g.size false, []⟩
  return s.graph

end Survey

namespace Graph

/-- The value of a node whose collections have been looked at; what lies more than so many levels
down is left out. -/
def value (g : Graph) : Nat → Place → Value
  | 0, _ => .null
  | depth + 1, p =>
    match g.node p with
    | .sequence .seq items => .seq (items.map (g.value depth))
    | .sequence _ items => .pairs (items.flatMap (fun i =>
        (g.entries i).map (fun e => (g.value depth e.1, g.value depth e.2))))
    | .mapping .map entries =>
      .map (Value.collected (entries.map (fun e => (g.value depth e.1, g.value depth e.2))))
    | .mapping .set entries =>
      .set ((Value.collected (entries.map (fun e => (g.value depth e.1, .null)))).map Prod.fst)
    | _ => (g.plainValue p).toOption.getD .null

end Graph

/-- The value of a document down to so many levels; that of an empty one is null.  A node may stand
inside itself, and then its whole value has no end.  If not all of the text can be read, `cut`
tells why. -/
def Value.ofText (depth : Nat) (cs : List Char) (cut : Option Fault) : Except Fault Value := do
  match ← Graph.ofTokens (Token.ofText cs cut) with
  | none => return .null
  | some (graph, root) => return (← Survey.run graph root).value depth root

end SecretSync.Yaml
