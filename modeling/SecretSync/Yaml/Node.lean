import SecretSync.Yaml.Tag

/-!
# Nodes of documents

A document is a graph of scalars, sequences and mappings, each with its tag.  A node has a place in
the graph, and collections hold the places of their nodes: where a node is named a second time its
place stands again, even inside the node itself.
-/

namespace SecretSync.Yaml

/-- The place of a node in its graph. -/
abbrev Place := Nat

/-- A node of a document. -/
inductive Node where
  | scalar (tag : Tag) (text : String)
  | sequence (tag : Tag) (items : List Place)
  | mapping (tag : Tag) (entries : List (Place × Place))
  deriving Repr

namespace Node

/-- The tag of a node. -/
def tag : Node → Tag
  | scalar tag _ => tag
  | sequence tag _ => tag
  | mapping tag _ => tag

/-- A node with another tag. -/
def withTag (tag : Tag) : Node → Node
  | scalar _ text => scalar tag text
  | sequence _ items => sequence tag items
  | mapping _ entries => mapping tag entries

/-- The scalar that stands where nothing is written. -/
def blank : Node := scalar .null ""

end Node

/-- The nodes of a document by their places. -/
structure Graph where
  nodes : Array Node
  deriving Repr

namespace Graph

/-- A graph without nodes. -/
def empty : Graph := ⟨#[]⟩

/-- How many nodes there are. -/
def size (g : Graph) : Nat := g.nodes.size

/-- The node at a place; a blank one where there is none. -/
def node (g : Graph) (p : Place) : Node := g.nodes[p]?.getD .blank

/-- The tag of the node at a place. -/
def tag (g : Graph) (p : Place) : Tag := (g.node p).tag

/-- Put a node at a new place. -/
def add (n : Node) (g : Graph) : Place × Graph := (g.size, ⟨g.nodes.push n⟩)

/-- Put another node at a place. -/
def replace (p : Place) (n : Node) (g : Graph) : Graph := ⟨g.nodes.setIfInBounds p n⟩

/-- The entries of the mapping at a place; none of another node. -/
def entries (g : Graph) (p : Place) : List (Place × Place) :=
  match g.node p with
  | .mapping _ entries => entries
  | _ => []

/-- Give other entries to the mapping at a place. -/
def withEntries (p : Place) (entries : List (Place × Place)) (g : Graph) : Graph :=
  match g.node p with
  | .mapping tag _ => g.replace p (.mapping tag entries)
  | _ => g

end Graph
end SecretSync.Yaml
