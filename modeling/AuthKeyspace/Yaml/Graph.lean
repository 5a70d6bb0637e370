import AuthKeyspace.Yaml.Tag

/-!
# The graph of a document

A document is a graph of texts, sequences and mappings, each with its kind. Nodes are known by their
numbers, which they get in the order in which they begin, so the first one is the root; a graph
without nodes is an empty document. An alias is the number of a node that is there already. That can
be a node that is not finished, so a node can be part of itself.
-/

namespace AuthKeyspace.Yaml

/-- A part of a document; its own parts are given by their numbers. -/
inductive Node
  | text (tag : Tag) (text : List Text.Point)
  | sequence (tag : Tag) (items : List Nat)
  | mapping (tag : Tag) (entries : List (Nat × Nat))
deriving DecidableEq, Repr

namespace Node

/-- What is left out. -/
def empty : Node := .text (.ofForm []) []

/-- The kind of a node. -/
def tag : Node → Tag
  | .text tag _ | .sequence tag _ | .mapping tag _ => tag

/-- The same node with another kind. -/
def withTag (tag : Tag) : Node → Node
  | .text _ s => .text tag s
  | .sequence _ items => .sequence tag items
  | .mapping _ entries => .mapping tag entries

/-- The number of entries, if it is a mapping. -/
def entryCount : Node → Nat
  | .mapping _ entries => entries.length
  | _ => 0

end Node

/-- The parts of a document by their numbers. -/
structure Graph where
  nodes : Array Node := #[]
deriving DecidableEq, Repr

namespace Graph

/-- The number of nodes, which is the number that the next one gets. -/
def size (g : Graph) : Nat := g.nodes.size

/-- The node with a number. -/
def node? (g : Graph) (id : Nat) : Option Node := g.nodes[id]?

/-- A graph with one node more. -/
def add (g : Graph) (n : Node) : Graph := ⟨g.nodes.push n⟩

/-- A graph with another node under a number. -/
def replace (g : Graph) (id : Nat) (n : Node) : Graph := ⟨g.nodes.setIfInBounds id n⟩

/-- How many entries all mappings have together. -/
def entryCount (g : Graph) : Nat := (g.nodes.map Node.entryCount).toList.foldl (· + ·) 0

end Graph

end AuthKeyspace.Yaml
